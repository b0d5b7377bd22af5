import ChatFlow.Proofs.Walk.Basic

/-!
# Connections that lead to no node

A target that is no node ends its branch, as if no connection led there. Only a path without room makes
a difference: its length is looked at before the node is looked for, so that a walk then ends as a whole
at a target that it could have passed over.

* `Workflow.withoutDangling`: a workflow without the connections whose target is no node.
* `Workflow.Overshoots`: a walk ends as a whole at such a target.
* `Workflow.walk_withoutDangling_iff`: the connections make no difference exactly to the other walks.
-/

namespace ChatFlow

variable {σ α : Type}

namespace Step

variable {step step' : α → Step σ} {p : α → Bool} {as : List α} {s s' : σ} {fault : WalkFault}

/-- Steps that change nothing can be left out, if each of the others does the same where it is come to. -/
theorem all_filter (hskip : ∀ a s, p a = false → step a s = (.ok (), s))
    (hsame : ∀ before a after s', as = before ++ a :: after → p a = true →
      all step before s = (.ok (), s') → step' a s' = step a s') :
    all step' (as.filter p) s = all step as s := by
  induction as generalizing s with
  | nil => rfl
  | cons a as ih =>
      -- what comes behind a step that succeeds is come to behind the whole list as well
      have hrest : ∀ s₁, step a s = (.ok (), s₁) → all step' (as.filter p) s₁ = all step as s₁ := by
        intro s₁ ha
        refine ih ?_
        intro before b after s' has hb hbefore
        refine hsame (a :: before) b after s' ?_ hb ?_
        · rw [has, List.cons_append]
        · rw [all_cons_of_ok ha, hbefore]
      cases hp : p a with
      | false =>
          have ha := hskip a s hp
          rw [List.filter_cons_of_neg (by simp [hp]), all_cons_of_ok ha, hrest s ha]
      | true =>
          have ha : step' a s = step a s := hsame [] a as s rfl hp rfl
          rw [List.filter_cons_of_pos hp]
          rcases h : step a s with ⟨result, s₁⟩
          rw [h] at ha
          cases result with
          | ok _ => rw [all_cons_of_ok h, all_cons_of_ok ha, hrest s₁ h]
          | error _ => rw [all_cons_of_error h, all_cons_of_error ha]

/-- Some steps and then the others. -/
theorem all_append_of_ok {bs : List α} (h : all step as s = (.ok (), s')) :
    all step (as ++ bs) s = all step bs s' := by
  induction as generalizing s with
  | nil =>
      cases h
      rfl
  | cons a as ih =>
      obtain ⟨s₁, ha, has⟩ := all_cons_eq_ok.mp h
      rw [List.cons_append, all_cons_of_ok ha, ih has]

/-- If steps never lower a number, and raise it where they end with a certain fault, then all of them
raise it where they end so. -/
theorem all_raises {size : σ → Nat} (hmono : ∀ a s, size s ≤ size (step a s).2)
    (hraise : ∀ a s s', step a s = (.error fault, s') → size s < size s')
    (h : all step as s = (.error fault, s')) : size s < size s' := by
  induction as generalizing s with
  | nil => cases h
  | cons a as ih =>
      have ha := hmono a s
      rcases hstep : step a s with ⟨result, s₁⟩
      rw [hstep] at ha
      cases result with
      | ok _ =>
          rw [all_cons_of_ok hstep] at h
          exact Nat.lt_of_le_of_lt ha (ih h)
      | error _ =>
          rw [all_cons_of_error hstep] at h
          exact hraise a s s' (hstep.trans h)

end Step

namespace Workflow

variable {w : Workflow} {visit : Node → σ → Outcome × σ} {room : Nat} {path ids : List Text}
  {id : Text} {n : Node} {s s' : σ}

/-! ## Without the connections that lead to no node -/

/-- Is there a node of the id? -/
def hasNode (w : Workflow) (id : Text) : Bool := (w.node? id).isSome

/-- The workflow without the connections whose target is no node. -/
def withoutDangling (w : Workflow) : Workflow :=
  { w with connections := w.connections.filter fun c => w.hasNode c.target }

@[simp] theorem node?_withoutDangling (id : Text) : w.withoutDangling.node? id = w.node? id := rfl

@[simp] theorem triggers_withoutDangling : w.withoutDangling.triggers = w.triggers := rfl

theorem hasNode_of_node? (hn : w.node? id = some n) : w.hasNode id = true := by
  rw [hasNode, hn]
  rfl

theorem node?_of_not_hasNode (h : w.hasNode id = false) : w.node? id = none := by
  simpa [hasNode] using h

/-- The targets that are nodes stay, in their order. -/
theorem successors_withoutDangling (id : Text) (slot : Slot) :
    w.withoutDangling.successors id slot = (w.successors id slot).filter w.hasNode := by
  simp only [successors, withoutDangling, List.filter_filter, List.filter_map]
  congr 2
  funext c
  exact Bool.and_comm _ _

theorem targets_withoutDangling (id : Text) (outcome : Outcome) :
    w.withoutDangling.targets id outcome = (w.targets id outcome).filter w.hasNode := by
  cases outcome with
  | leaves slot => exact successors_withoutDangling id slot
  | fails => rfl

/-- All ids are those of nodes. -/
def AllNodes (w : Workflow) (ids : List Text) : Prop := ∀ id ∈ ids, w.hasNode id = true

theorem AllNodes.not_mem (h : w.AllNodes ids) (hid : w.hasNode id = false) : id ∉ ids := by
  intro hmem
  rw [h id hmem] at hid
  cases hid

theorem AllNodes.snoc (h : w.AllNodes ids) (hid : w.hasNode id = true) : w.AllNodes (ids ++ [id]) := by
  intro other hother
  rcases List.mem_append.mp hother with hother | hother
  · exact h other hother
  · rw [List.mem_singleton.mp hother]
    exact hid

/-! ## Where they make a difference -/

/-- The first of some ids is that of no node, and the next one that is that of a node stands on the path,
or there is none. -/
def Misses (w : Workflow) (path ids : List Text) : Prop :=
  (∃ id ∈ ids.head?, w.hasNode id = false) ∧ ∀ next ∈ (ids.filter w.hasNode).head?, next ∈ path

/-- Somewhere behind the id, a walk makes the last visit that there is room for and then ends as a whole
at a target that is no node, while none of the targets that are nodes would let it end so. -/
inductive Overshoots (w : Workflow) (visit : Node → σ → Outcome × σ) :
    (room : Nat) → (path : List Text) → Text → σ → Prop where
  | last {path : List Text} {id : Text} {n : Node} {s : σ} (h : id ∉ path)
      (hn : w.node? id = some n) (hmisses : w.Misses (path ++ [id]) (w.targets id (visit n s).1)) :
      Overshoots w visit 1 path id s
  | further {room : Nat} {path before after : List Text} {id next : Text} {n : Node} {s s' : σ}
      (h : id ∉ path) (hn : w.node? id = some n)
      (htargets : w.targets id (visit n s).1 = before ++ next :: after)
      (hbefore : Step.all (w.walk visit room (path ++ [id])) before (visit n s).2 = (.ok (), s'))
      (hnext : Overshoots w visit room (path ++ [id]) next s') :
      Overshoots w visit (room + 1) path id s

namespace Overshoots

theorem hasNode (h : w.Overshoots visit room path id s) : w.hasNode id = true := by
  cases h with
  | last _ hn => exact hasNode_of_node? hn
  | further _ hn => exact hasNode_of_node? hn

/-- There was room for the visit. -/
theorem exists_room (h : w.Overshoots visit room path id s) : ∃ less, room = less + 1 := by
  cases h with
  | last => exact ⟨0, rfl⟩
  | @further room => exact ⟨room, rfl⟩

end Overshoots

/-! ## Without room -/

/-- Without room, the first of the next ids ends the walk as a whole. -/
theorem all_walk_zero (path : List Text) (id : Text) (s : σ) :
    Step.all (w.walk visit 0 path) (id :: ids) s =
      (.error (if path.contains id then .revisits id path else .tooDeep), s) := rfl

/-- Without room, the ids of no node make a difference exactly if they come first and no node behind
them ends the walk in the same way. -/
theorem all_walk_zero_iff (hpath : w.AllNodes path) :
    Step.all (w.withoutDangling.walk visit 0 path) (ids.filter w.hasNode) s =
        Step.all (w.walk visit 0 path) ids s ↔ ¬ w.Misses path ids := by
  cases ids with
  | nil => simp [Misses, Step.all]
  | cons id ids =>
      cases hid : w.hasNode id with
      | true =>
          rw [List.filter_cons_of_pos hid, all_walk_zero, all_walk_zero]
          simp [Misses, hid]
      | false =>
          -- the path is made of nodes, so the walk ends here for want of room
          have hp : id ∉ path := hpath.not_mem hid
          rw [List.filter_cons_of_neg (by simp [hid]), all_walk_zero]
          cases hnext : ids.filter w.hasNode with
          | nil => simp [Misses, hid, hnext, Step.all]
          | cons next rest =>
              rw [all_walk_zero]
              by_cases hmem : next ∈ path
              · simp [Misses, hid, hnext, hp, hmem]
              · simp [Misses, hid, hnext, hp, hmem]

theorem Misses.all_walk_zero (h : w.Misses path ids) (hpath : w.AllNodes path) (s : σ) :
    Step.all (w.walk visit 0 path) ids s = (.error .tooDeep, s) := by
  obtain ⟨⟨id, hid, hnone⟩, -⟩ := h
  obtain ⟨rest, rfl⟩ := List.head?_eq_some_iff.mp hid
  rw [Workflow.all_walk_zero]
  simp [hpath.not_mem hnone]

/-- Without room, nothing is visited. -/
theorem all_walk_zero_state (path ids : List Text) (s : σ) :
    (Step.all (w.walk visit 0 path) ids s).2 = s := by
  cases ids with
  | nil => rfl
  | cons id ids => rfl

/-! ## Walks that overshoot, and others -/

/-- A walk that overshoots ends as a whole for want of room. -/
theorem Overshoots.walk_tooDeep (h : w.Overshoots visit room path id s) (hpath : w.AllNodes path) :
    ∃ s', w.walk visit room path id s = (.error .tooDeep, s') := by
  induction h with
  | last hp hn hmisses =>
      rw [walk_visit hp hn, hmisses.all_walk_zero (hpath.snoc (hasNode_of_node? hn))]
      exact ⟨_, rfl⟩
  | further hp hn htargets hbefore _ ih =>
      obtain ⟨s', hs'⟩ := ih (hpath.snoc (hasNode_of_node? hn))
      rw [walk_visit hp hn, htargets, Step.all_append_of_ok hbefore, Step.all_cons_of_error hs']
      exact ⟨s', rfl⟩

/-- With room left, ids of no node can be left out where no walk that is come to overshoots. -/
theorem all_withoutDangling (hpath : w.AllNodes path)
    (hsame : ∀ next s, w.hasNode next = true → ¬ w.Overshoots visit (room + 1) path next s →
      w.withoutDangling.walk visit (room + 1) path next s = w.walk visit (room + 1) path next s)
    (h : ∀ before next after s', ids = before ++ next :: after →
      Step.all (w.walk visit (room + 1) path) before s = (.ok (), s') →
        ¬ w.Overshoots visit (room + 1) path next s') :
    Step.all (w.withoutDangling.walk visit (room + 1) path) (ids.filter w.hasNode) s =
      Step.all (w.walk visit (room + 1) path) ids s := by
  refine Step.all_filter ?_ ?_
  · intro next s hnext
    exact walk_missing (hpath.not_mem hnext) (node?_of_not_hasNode hnext)
  · intro before next after s' hids hnext hbefore
    exact hsame next s' hnext (h before next after s' hids hbefore)

/-- A walk that does not overshoot needs no connections that lead to no node. -/
theorem walk_withoutDangling_of_not (hpath : w.AllNodes path) (hid : w.hasNode id = true)
    (h : ¬ w.Overshoots visit room path id s) :
    w.withoutDangling.walk visit room path id s = w.walk visit room path id s := by
  induction room generalizing path id s with
  | zero => rfl
  | succ room ih =>
      by_cases hp : id ∈ path
      · rw [walk_of_mem hp, walk_of_mem hp]
      · obtain ⟨n, hn⟩ := Option.isSome_iff_exists.mp hid
        obtain rfl := id_of_node? hn
        have hpath' : w.AllNodes (path ++ [n.id]) := hpath.snoc hid
        rw [walk_visit hp hn, walk_visit hp ((node?_withoutDangling n.id).trans hn),
          targets_withoutDangling]
        cases room with
        | zero =>
            rw [all_walk_zero_iff hpath']
            exact fun hmisses => h (.last hp hn hmisses)
        | succ room =>
            refine all_withoutDangling hpath' (fun next s => ih hpath') ?_
            intro before next after s' htargets hbefore hover
            exact h (.further hp hn htargets hbefore hover)

/-- Walks that come to their end overshoot nowhere. -/
theorem all_withoutDangling_of_ok (hpath : w.AllNodes path)
    (h : Step.all (w.walk visit (room + 1) path) ids s = (.ok (), s')) :
    Step.all (w.withoutDangling.walk visit (room + 1) path) (ids.filter w.hasNode) s =
      (.ok (), s') := by
  rw [all_withoutDangling hpath (fun next s => walk_withoutDangling_of_not hpath), h]
  intro before next after s₁ hids hbefore hover
  rw [hids, Step.all_append_of_ok hbefore] at h
  obtain ⟨s₂, hnext, -⟩ := Step.all_cons_eq_ok.mp h
  obtain ⟨s₃, hdeep⟩ := hover.walk_tooDeep hpath
  rw [hnext] at hdeep
  cases hdeep

section Size

variable {size : σ → Nat} (hsize : ∀ n s, size s < size (visit n s).2)

include hsize

theorem size_le_walk (w : Workflow) (room : Nat) (path : List Text) (id : Text) (s : σ) :
    size s ≤ size (w.walk visit room path id s).2 :=
  walk_rel (R := fun s s' => size s ≤ size s') (fun _ => Nat.le_refl _) Nat.le_trans
    (fun _ n s _ => Nat.le_of_lt (hsize n s)) room path id s

theorem size_le_all (w : Workflow) (room : Nat) (path ids : List Text) (s : σ) :
    size s ≤ size (Step.all (w.walk visit room path) ids s).2 :=
  Step.all_rel (R := fun s s' => size s ≤ size s') (fun _ => Nat.le_refl _) Nat.le_trans
    (size_le_walk hsize w room path) ids s

/-- A walk with room makes a visit before it ends for want of room. -/
theorem size_lt_of_tooDeep (h : w.walk visit (room + 1) path id s = (.error .tooDeep, s')) :
    size s < size s' := by
  by_cases hp : id ∈ path
  · rw [walk_of_mem hp] at h
    cases h
  · cases hn : w.node? id with
    | none =>
        rw [walk_missing hp hn] at h
        cases h
    | some n =>
        have hwalks := size_le_all hsize w room (path ++ [id]) (w.targets id (visit n s).1) (visit n s).2
        rw [← walk_visit hp hn, h] at hwalks
        exact Nat.lt_of_lt_of_le (hsize n s) hwalks

/-- If the first walk has come so far, but not ended there for want of room, then the walks behind it do
not end there for want of room either. -/
theorem all_ne_of_walk_ne (hne : w.walk visit (room + 1) path id s ≠ (.error .tooDeep, s'))
    (hle : size s' ≤ size (w.walk visit (room + 1) path id s).2) :
    Step.all (w.walk visit (room + 1) path) (id :: ids) s ≠ (.error .tooDeep, s') ∧
      size s' ≤ size (Step.all (w.walk visit (room + 1) path) (id :: ids) s).2 := by
  rcases h : w.walk visit (room + 1) path id s with ⟨result, s₁⟩
  rw [h] at hne hle
  cases result with
  | error fault =>
      rw [Step.all_cons_of_error h]
      exact ⟨hne, hle⟩
  | ok _ =>
      rw [Step.all_cons_of_ok h]
      constructor
      · intro heq
        -- what ends behind it for want of room has made another visit
        have hraise := Step.all_raises (size_le_walk hsize w (room + 1) path)
          (fun _ _ _ h => size_lt_of_tooDeep hsize h) heq
        exact absurd hle (Nat.not_le_of_lt hraise)
      · exact Nat.le_trans hle (size_le_all hsize _ _ _ _ _)

/-- Without the connections that lead to no node, a walk that overshoots goes on where it ended before.
It may end as a whole later, but not in the same state for want of room. -/
theorem Overshoots.walk_withoutDangling_ne (h : w.Overshoots visit room path id s)
    (hpath : w.AllNodes path) (hwalk : w.walk visit room path id s = (.error .tooDeep, s')) :
    w.withoutDangling.walk visit room path id s ≠ (.error .tooDeep, s') ∧
      size s' ≤ size (w.withoutDangling.walk visit room path id s).2 := by
  induction h with
  | @last path id n s hp hn hmisses =>
      have hpath' : w.AllNodes (path ++ [id]) := hpath.snoc (hasNode_of_node? hn)
      have hends : Step.all (w.walk visit 0 (path ++ [id])) (w.targets id (visit n s).1) (visit n s).2 =
          (.error .tooDeep, (visit n s).2) := hmisses.all_walk_zero hpath' _
      rw [walk_visit hp hn, hends] at hwalk
      cases hwalk
      rw [walk_visit hp ((node?_withoutDangling id).trans hn), targets_withoutDangling]
      constructor
      · intro heq
        exact (all_walk_zero_iff hpath').mp (heq.trans hends.symm) hmisses
      · exact Nat.le_of_eq (congrArg size (all_walk_zero_state _ _ _).symm)
  | @further room path before after id next n s s₁ hp hn htargets hbefore hnext ih =>
      have hpath' : w.AllNodes (path ++ [id]) := hpath.snoc (hasNode_of_node? hn)
      obtain ⟨room, rfl⟩ := hnext.exists_room
      obtain ⟨s₂, hs₂⟩ := hnext.walk_tooDeep hpath'
      rw [walk_visit hp hn, htargets, Step.all_append_of_ok hbefore, Step.all_cons_of_error hs₂] at hwalk
      cases hwalk
      obtain ⟨hne, hle⟩ := ih hpath' hs₂
      rw [walk_visit hp ((node?_withoutDangling id).trans hn), targets_withoutDangling, htargets,
        List.filter_append, Step.all_append_of_ok (all_withoutDangling_of_ok hpath' hbefore),
        List.filter_cons_of_pos hnext.hasNode]
      exact all_ne_of_walk_ne hsize hne hle

/-- The connections that lead to no node make a difference exactly to a walk that overshoots. -/
theorem walk_withoutDangling_iff (hpath : w.AllNodes path) (hid : w.hasNode id = true) :
    w.withoutDangling.walk visit room path id s = w.walk visit room path id s ↔
      ¬ w.Overshoots visit room path id s := by
  constructor
  · intro heq hover
    obtain ⟨s', hs'⟩ := hover.walk_tooDeep hpath
    exact (hover.walk_withoutDangling_ne hsize hpath hs').1 (heq.trans hs')
  · exact walk_withoutDangling_of_not hpath hid

end Size

end Workflow

end ChatFlow
