import ChatFlow.Proofs.Walk.Tree

/-!
# How walks come to nodes

A walk visits the id at which it begins, and besides nothing but the targets of its own visits. If it comes to its end,
then it has visited all of these targets that are nodes.

* `Workflow.Led`: visits each of which is of the first id, or of a target of one before it.
* `Workflow.led_trail`: the visits of a walk are such, however it ends.
* `Workflow.visits_target`: a walk that comes to its end has visited the targets of its visits.
* `Threads.exists_concat`: the last of some visits is made in the state that the others have left.
-/

namespace ChatFlow

open Visit

variable {σ α : Type} {w : Workflow} {visit : Node → σ → Outcome × σ} {start id : Text} {room : Nat} {path : List Text}
  {n : Node} {vs before later : List Visit} {v : Visit}

/-- What each of some steps keeps, all of them keep. -/
theorem Step.all_keeps {step : α → Step σ} {K : σ → Prop} {as : List α} {s : σ} (hs : K s)
    (hstep : ∀ a ∈ as, ∀ s, K s → K (step a s).2) : K (all step as s).2 := by
  induction as generalizing s with
  | nil => exact hs
  | cons a as ih =>
      have ha := hstep a List.mem_cons_self s hs
      rcases h : step a s with ⟨result, s₁⟩
      rw [h] at ha
      cases result with
      | ok _ =>
          rw [all_cons_of_ok h]
          exact ih ha fun b hb => hstep b (List.mem_cons_of_mem a hb)
      | error _ =>
          rw [all_cons_of_error h]
          exact ha

/-! ## Where a walk comes from -/

namespace Workflow

/-- A visit leads to the id, or it is the first one. -/
def LedTo (w : Workflow) (start : Text) (vs : List Visit) (id : Text) : Prop :=
  id = start ∨ ∃ u ∈ vs, id ∈ w.targets u.node.id u.outcome

/-- Visits each of which is of the id `start`, or of a target of one before it. -/
inductive Led (w : Workflow) (start : Text) : List Visit → Prop where
  | nil : Led w start []
  | concat {vs : List Visit} {v : Visit} (earlier : Led w start vs) (led : w.LedTo start vs v.node.id) :
      Led w start (vs ++ [v])

/-- What led to a visit stands before it. -/
theorem Led.ledTo (h : w.Led start (before ++ v :: later)) : w.LedTo start before v.node.id := by
  generalize hvs : before ++ v :: later = vs at h
  induction h generalizing later with
  | nil => exact absurd hvs (by simp)
  | @concat vs u _ led ih =>
      rcases List.eq_nil_or_concat later with rfl | ⟨rest, last, rfl⟩
      · obtain ⟨rfl, hv⟩ := List.append_inj' hvs rfl
        cases hv
        exact led
      · rw [List.concat_eq_append, ← List.cons_append, ← List.append_assoc] at hvs
        exact ih (List.append_inj' hvs rfl).1

theorem record_subset_walk (s : σ × List Visit) : s.2 ⊆ (w.walk (noting visit) room path id s).2.2 := by
  refine walk_rel (R := fun s s' : σ × List Visit => s.2 ⊆ s'.2) (fun s => List.Subset.refl s.2)
    (fun h h' => List.Subset.trans h h') ?_ room path id s
  intro id n s _
  exact List.subset_append_left s.2 [⟨n, (visit n s.1).1⟩]

theorem led_walk {s : σ × List Visit} (hs : w.Led start s.2) (hid : w.LedTo start s.2 id) :
    w.Led start (w.walk (noting visit) room path id s).2.2 := by
  -- the record grows, so what leads to the later ids stays on it
  induction room generalizing path id s with
  | zero =>
      by_cases hp : id ∈ path
      · rwa [walk_of_mem hp]
      · rwa [walk_zero hp]
  | succ room ih =>
      by_cases hp : id ∈ path
      · rwa [walk_of_mem hp]
      · cases hn : w.node? id with
        | none => rwa [walk_missing hp hn]
        | some n =>
            obtain rfl := id_of_node? hn
            rw [walk_visit hp hn]
            refine (Step.all_keeps (K := fun t : σ × List Visit => w.Led start t.2 ∧ ⟨n, (visit n s.1).1⟩ ∈ t.2)
              ⟨?_, mem_noting⟩ ?_).1
            · rw [noting_record]
              exact hs.concat hid
            · rintro next hnext t ⟨ht, hmem⟩
              exact ⟨ih ht (.inr ⟨_, hmem, hnext⟩), record_subset_walk t hmem⟩

/-- Each visit of a walk is of the id at which the walk begins, or a visit before it led there. -/
theorem led_trail (w : Workflow) (visit : Node → σ → Outcome × σ) (id : Text) (s : σ) :
    w.Led id (w.trail visit id s) :=
  led_walk (s := (s, [])) .nil (.inl rfl)

end Workflow

/-! ## Where a walk goes to -/

namespace VisitTree

theorem root_mem_preorder (t : VisitTree) : t.root ∈ t.preorder := by
  cases t with
  | node v below => exact List.mem_cons_self

/-- The nodes among the targets of a visit stand below it. -/
theorem Follows.exists_visit {t : VisitTree} (h : t.Follows w) (hv : v ∈ t.preorder)
    (hid : id ∈ w.targets v.node.id v.outcome) (hn : w.node? id = some n) : ∃ u ∈ t.preorder, u.node = n := by
  induction h with
  | @node v₀ below _ children _ ih =>
      rcases List.mem_cons.mp hv with rfl | hv
      · have hchild : n ∈ below.map (·.root.node) := by
          rw [children]
          exact List.mem_filterMap.mpr ⟨id, hid, hn⟩
        obtain ⟨t, ht, rfl⟩ := List.mem_map.mp hchild
        exact ⟨t.root, List.mem_cons_of_mem _ (mem_preorderAll.mpr ⟨t, ht, t.root_mem_preorder⟩), rfl⟩
      · obtain ⟨t, ht, hvt⟩ := mem_preorderAll.mp hv
        obtain ⟨u, hu, hnode⟩ := ih t ht hvt
        exact ⟨u, List.mem_cons_of_mem _ (mem_preorderAll.mpr ⟨t, ht, hu⟩), hnode⟩

end VisitTree

namespace Workflow

/-- A walk that comes to its end has visited the nodes among the targets of its visits. -/
theorem visits_target {s s' : σ} (h : w.walkFrom visit start s = (.ok (), s')) (hv : v ∈ w.trail visit start s)
    (hid : id ∈ w.targets v.node.id v.outcome) (hn : w.node? id = some n) :
    ∃ u ∈ w.trail visit start s, u.node = n := by
  cases hstart : w.node? start with
  | none =>
      -- then there is no visit at all
      have hmissing : w.walkFrom (noting visit) start (s, []) = (.ok (), (s, [])) :=
        walk_missing List.not_mem_nil hstart
      rw [trail, hmissing] at hv
      cases hv
  | some first =>
      obtain ⟨t, -, hfollows, -, -, htrail⟩ := exists_tree hstart h
      rw [htrail] at hv ⊢
      exact hfollows.exists_visit hv hid hn

end Workflow

/-! ## The last visit -/

theorem Threads.exists_append {s s₂ : σ} {vs' : List Visit} (h : Threads visit s (vs ++ vs') s₂) :
    ∃ s₁, Threads visit s vs s₁ ∧ Threads visit s₁ vs' s₂ := by
  induction vs generalizing s with
  | nil => exact ⟨s, .nil s, h⟩
  | cons v vs ih =>
      cases h with
      | cons hv hvs =>
          obtain ⟨s₁, hfirst, hrest⟩ := ih hvs
          exact ⟨s₁, .cons hv hfirst, hrest⟩

/-- The last of some visits is made in the state that the others have left. -/
theorem Threads.exists_concat {s s₂ : σ} (h : Threads visit s (vs ++ [v]) s₂) :
    ∃ s₁, Threads visit s vs s₁ ∧ visit v.node s₁ = (v.outcome, s₂) := by
  obtain ⟨s₁, hfirst, hlast⟩ := h.exists_append
  cases hlast with
  | cons hv hnil =>
      cases hnil
      exact ⟨s₁, hfirst, hv⟩

end ChatFlow
