import ChatFlow.Workflow.Trigger
import ChatFlow.Workflow.Walk
import Mathlib.Data.List.Nodup

/-!
# Nodes and walks, case by case

What is known of a node that was found, by its id or as the trigger that a message sets off; what a walk does at one id,
and the rules by which a property of single visits becomes one of walks.

* `Workflow.node?_of_mem`: where the ids differ, each node is found by its own.
* `Workflow.idsDiffer_of_check`: the ids of a workflow that was read differ.
* `Trigger.first?_spec`: the trigger that is set off is one of the triggers.
* `Workflow.walk_of_mem`, `walk_zero`, `walk_missing`, `walk_visit`: the four cases at an id.
* `Workflow.walk_rel`: a reflexive and transitive relation that every visit keeps relates the state
  before a walk to the one behind it.
* `Workflow.Simulation.walk`: two walks whose visits correspond end alike and leave related states.
-/

namespace ChatFlow

namespace Workflow

variable {w : Workflow} {id : Text} {n : Node} {ns : List Node}

theorem id_of_node? (hn : w.node? id = some n) : n.id = id := by
  simpa using List.find?_some hn

theorem mem_of_node? (hn : w.node? id = some n) : n ∈ w.nodes :=
  List.mem_of_find?_eq_some hn

theorem node?_isSome (hn : n ∈ w.nodes) : (w.node? n.id).isSome := by
  rw [node?, List.find?_isSome]
  exact ⟨n, hn, by simp⟩

theorem nodup_of_idsDiffer (h : idsDiffer ns) : (ns.map Node.id).Nodup := by
  induction ns with
  | nil => exact .nil
  | cons n ns ih =>
      rw [idsDiffer, Bool.and_eq_true, List.all_eq_true] at h
      obtain ⟨hhead, htail⟩ := h
      rw [List.map_cons, List.nodup_cons]
      refine ⟨?_, ih htail⟩
      intro hmem
      obtain ⟨n', hn', heq⟩ := List.mem_map.mp hmem
      simpa [heq] using hhead n' hn'

/-- Where the ids differ, each node is found by its own. -/
theorem node?_of_mem (hdiffer : idsDiffer w.nodes) (hn : n ∈ w.nodes) : w.node? n.id = some n := by
  obtain ⟨n', hn'⟩ := Option.isSome_iff_exists.mp (node?_isSome hn)
  -- some node is found, and no other one has this id
  have hid : n'.id = n.id := id_of_node? hn'
  rw [hn', List.inj_on_of_nodup_map (nodup_of_idsDiffer hdiffer) (mem_of_node? hn') hn hid]

/-- The ids of a workflow that was read differ. -/
theorem idsDiffer_of_check {v : Value} (h : check v = .accepted w) : idsDiffer w.nodes := by
  unfold check at h
  split at h
  · dsimp only at h
    split at h
    · split at h
      · rename_i hdiffer
        cases h
        exact hdiffer
      · cases h
    · cases h
  · cases h

end Workflow

namespace Trigger

variable {content : Text} {n : Node} {ns : List Node} {captures : List Text}

/-- The trigger that is set off is one of the triggers, and set off with these captures. -/
theorem first?_spec (h : first? content ns = .ok (some (n, captures))) :
    n ∈ ns ∧ capturesOf? n content = .ok (some captures) := by
  induction ns with
  | nil => cases h
  | cons a ns ih =>
      rw [first?] at h
      rcases ha : capturesOf? a content with fault | found
      · rw [ha] at h
        cases h
      · rw [ha] at h
        cases found with
        | none =>
            obtain ⟨hmem, hcaptures⟩ := ih h
            exact ⟨List.mem_cons_of_mem a hmem, hcaptures⟩
        | some captures' =>
            cases h
            exact ⟨List.mem_cons_self, ha⟩

/-- The trigger that is set off is one of the triggers. -/
theorem mem_of_first? (h : first? content ns = .ok (some (n, captures))) : n ∈ ns := (first?_spec h).1

end Trigger

/-! ## Walks -/

variable {σ τ α : Type}

namespace Step

variable {step : α → Step σ} {step' : α → Step τ} {a : α} {as : List α} {s s' : σ} {fault : WalkFault}

theorem all_cons_of_ok (h : step a s = (.ok (), s')) : all step (a :: as) s = all step as s' := by
  simp only [all, h]

theorem all_cons_of_error (h : step a s = (.error fault, s')) :
    all step (a :: as) s = (.error fault, s') := by
  simp only [all, h]

/-- Steps come to their end exactly if the first one does and the others do behind it. -/
theorem all_cons_eq_ok :
    all step (a :: as) s = (.ok (), s') ↔
      ∃ s₁, step a s = (.ok (), s₁) ∧ all step as s₁ = (.ok (), s') := by
  rcases h : step a s with ⟨result, s₁⟩
  cases result with
  | ok _ =>
      rw [all_cons_of_ok h]
      constructor
      · intro hrest
        exact ⟨s₁, rfl, hrest⟩
      · rintro ⟨s₂, heq, hrest⟩
        cases heq
        exact hrest
  | error fault =>
      rw [all_cons_of_error h]
      constructor
      · intro hrest
        cases hrest
      · rintro ⟨s₂, heq, -⟩
        cases heq

/-- If steps come to their end, then so does each of them from some state. -/
theorem ok_of_mem (h : all step as s = (.ok (), s')) (ha : a ∈ as) :
    ∃ s₁ s₂, step a s₁ = (.ok (), s₂) := by
  induction as generalizing s with
  | nil => cases ha
  | cons b bs ih =>
      obtain ⟨s₁, hb, hbs⟩ := all_cons_eq_ok.mp h
      rcases List.mem_cons.mp ha with rfl | ha
      · exact ⟨s, s₁, hb⟩
      · exact ih hbs ha

/-- Steps end early if one of them does from every state. -/
theorem error_of_mem (ha : a ∈ as) (h : ∀ s, ∃ fault, (step a s).1 = .error fault) :
    ∃ fault, (all step as s).1 = .error fault := by
  rcases hall : all step as s with ⟨result, s'⟩
  cases result with
  | error fault => exact ⟨fault, rfl⟩
  | ok _ =>
      -- then this one would have come to its end as well
      obtain ⟨s₁, s₂, hs⟩ := ok_of_mem hall ha
      obtain ⟨fault, hfault⟩ := h s₁
      rw [hs] at hfault
      cases hfault

/-- If steps end early, then one of them does. -/
theorem error_mem (h : all step as s = (.error fault, s')) :
    ∃ a ∈ as, ∃ s₁, step a s₁ = (.error fault, s') := by
  induction as generalizing s with
  | nil => cases h
  | cons b bs ih =>
      rcases hb : step b s with ⟨result, s₁⟩
      cases result with
      | ok _ =>
          rw [all_cons_of_ok hb] at h
          obtain ⟨a, ha, hfault⟩ := ih h
          exact ⟨a, List.mem_cons_of_mem b ha, hfault⟩
      | error _ =>
          rw [all_cons_of_error hb] at h
          exact ⟨b, List.mem_cons_self, s, hb.trans h⟩

/-- What each step keeps, all of them keep. -/
theorem all_rel {R : σ → σ → Prop} (refl : ∀ s, R s s) (trans : ∀ {a b c}, R a b → R b c → R a c)
    (hstep : ∀ a s, R s (step a s).2) (as : List α) (s : σ) : R s (all step as s).2 := by
  induction as generalizing s with
  | nil => exact refl s
  | cons a as ih =>
      have ha := hstep a s
      rcases h : step a s with ⟨result, s₁⟩
      rw [h] at ha
      cases result with
      | ok _ =>
          rw [all_cons_of_ok h]
          exact trans ha (ih s₁)
      | error _ =>
          rw [all_cons_of_error h]
          exact ha

/-- If each step ends in `K` only when it has begun in it, then so do all of them. -/
theorem all_back {K : σ → Prop} (back : ∀ a s, K (step a s).2 → K s) (as : List α) (s : σ) :
    K (all step as s).2 → K s :=
  all_rel (R := fun s s' => K s' → K s) (fun _ h => h) (fun f g h => f (g h)) back as s

/-- Steps that correspond one by one correspond as a whole. Only runs that end in `K` have to, where a
step that ends in `K` has begun in it. -/
theorem all_sim {K : σ → Prop} {R : σ → τ → Prop} (back : ∀ a s, K (step a s).2 → K s)
    (hstep : ∀ a s t, R s t → K (step a s).2 →
      (step' a t).1 = (step a s).1 ∧ R (step a s).2 (step' a t).2)
    (as : List α) {s : σ} {t : τ} (hR : R s t) (hK : K (all step as s).2) :
    (all step' as t).1 = (all step as s).1 ∧ R (all step as s).2 (all step' as t).2 := by
  induction as generalizing s t with
  | nil => exact ⟨rfl, hR⟩
  | cons a as ih =>
      have hboth := hstep a s t hR
      rcases h : step a s with ⟨result, s₁⟩
      rcases h' : step' a t with ⟨result', t₁⟩
      rw [h, h'] at hboth
      cases result with
      | ok _ =>
          rw [all_cons_of_ok h] at hK ⊢
          -- the first step ends in `K` because the ones behind it do
          obtain ⟨rfl, hR₁⟩ := hboth (all_back back as s₁ hK)
          rw [all_cons_of_ok h']
          exact ih hR₁ hK
      | error fault =>
          rw [all_cons_of_error h] at hK ⊢
          obtain ⟨rfl, hR₁⟩ := hboth hK
          rw [all_cons_of_error h']
          exact ⟨rfl, hR₁⟩

/-- Steps that come to the same one by one, as far as a part of the state is concerned, do so as a
whole. -/
theorem all_map {f : σ → τ} (hstep : ∀ a s, step' a (f s) = Prod.map id f (step a s)) (as : List α)
    (s : σ) : all step' as (f s) = Prod.map id f (all step as s) := by
  have hsame : ∀ a s t, f s = t → True →
      (step' a t).1 = (step a s).1 ∧ f (step a s).2 = (step' a t).2 := by
    rintro a s _ rfl -
    rw [hstep]
    exact ⟨rfl, rfl⟩
  obtain ⟨hresult, hstate⟩ := all_sim (K := fun _ => True) (fun _ _ _ => trivial) hsame as rfl trivial
  exact Prod.ext hresult hstate.symm

end Step

namespace Workflow

variable {w : Workflow} {visit : Node → σ → Outcome × σ} {room : Nat} {path : List Text} {id : Text}
  {n : Node} {s s' : σ}

/-! ## The cases at an id -/

theorem walk_of_mem (h : id ∈ path) :
    w.walk visit room path id s = (.error (.revisits id path), s) := by
  cases room with
  | zero => simp [walk, h]
  | succ room => simp [walk, h]

theorem walk_zero (h : id ∉ path) : w.walk visit 0 path id s = (.error .tooDeep, s) := by
  simp [walk, h]

theorem walk_missing (h : id ∉ path) (hn : w.node? id = none) :
    w.walk visit (room + 1) path id s = (.ok (), s) := by
  simp [walk, h, hn]

theorem walk_visit (h : id ∉ path) (hn : w.node? id = some n) :
    w.walk visit (room + 1) path id s =
      Step.all (w.walk visit room (path ++ [id])) (w.targets id (visit n s).1) (visit n s).2 := by
  simp [walk, h, hn]

/-! ## From visits to walks -/

/-- What each visit keeps, a walk keeps. -/
theorem walk_rel {R : σ → σ → Prop} (refl : ∀ s, R s s) (trans : ∀ {a b c}, R a b → R b c → R a c)
    (hvisit : ∀ id n s, w.node? id = some n → R s (visit n s).2) (room : Nat) (path : List Text)
    (id : Text) (s : σ) : R s (w.walk visit room path id s).2 := by
  induction room generalizing path id s with
  | zero =>
      by_cases hp : id ∈ path
      · rw [walk_of_mem hp]
        exact refl s
      · rw [walk_zero hp]
        exact refl s
  | succ room ih =>
      by_cases hp : id ∈ path
      · rw [walk_of_mem hp]
        exact refl s
      · cases hn : w.node? id with
        | none =>
            rw [walk_missing hp hn]
            exact refl s
        | some n =>
            rw [walk_visit hp hn]
            exact trans (hvisit id n s hn) (Step.all_rel refl trans (ih (path ++ [id])) _ _)

/-- If each visit ends in `K` only when it has begun in it, then so does a walk. -/
theorem walk_back {K : σ → Prop} (back : ∀ n s, K (visit n s).2 → K s) (room : Nat)
    (path : List Text) (id : Text) (s : σ) : K (w.walk visit room path id s).2 → K s :=
  walk_rel (R := fun s s' => K s' → K s) (fun _ h => h) (fun f g h => f (g h))
    (fun _ n s _ => back n s) room path id s

/-- Visits of two walks over the same nodes correspond. They have to as long as the first walk ends
in `K`: a visit then comes to the same in both walks, leads to the same ids, and keeps the states
related. -/
structure Simulation (w w' : Workflow) (visit : Node → σ → Outcome × σ)
    (visit' : Node → τ → Outcome × τ) (K : σ → Prop) (R : σ → τ → Prop) : Prop where
  /-- A visit that ends in `K` has begun in it. -/
  back : ∀ n s, K (visit n s).2 → K s
  nodes : ∀ id, w'.node? id = w.node? id
  visits : ∀ n s t, w.node? n.id = some n → R s t → K (visit n s).2 →
    (visit' n t).1 = (visit n s).1 ∧ R (visit n s).2 (visit' n t).2 ∧
      w'.targets n.id (visit n s).1 = w.targets n.id (visit n s).1

/-- Walks whose visits correspond end alike and leave related states. -/
theorem Simulation.walk {w' : Workflow} {visit' : Node → τ → Outcome × τ} {K : σ → Prop}
    {R : σ → τ → Prop} (sim : Simulation w w' visit visit' K R) (room : Nat) (path : List Text)
    (id : Text) (s : σ) (t : τ) (hR : R s t) (hK : K (w.walk visit room path id s).2) :
    (w'.walk visit' room path id t).1 = (w.walk visit room path id s).1 ∧
      R (w.walk visit room path id s).2 (w'.walk visit' room path id t).2 := by
  -- both walks look at the same path and the same room, so they are always in the same case
  induction room generalizing path id s t with
  | zero =>
      by_cases hp : id ∈ path
      · rw [walk_of_mem hp, walk_of_mem hp]
        exact ⟨rfl, hR⟩
      · rw [walk_zero hp, walk_zero hp]
        exact ⟨rfl, hR⟩
  | succ room ih =>
      by_cases hp : id ∈ path
      · rw [walk_of_mem hp, walk_of_mem hp]
        exact ⟨rfl, hR⟩
      · cases hn : w.node? id with
        | none =>
            rw [walk_missing hp hn, walk_missing hp ((sim.nodes id).trans hn)]
            exact ⟨rfl, hR⟩
        | some n =>
            obtain rfl := id_of_node? hn
            rw [walk_visit hp hn] at hK ⊢
            -- the visit ends in `K` because the walks behind it do
            have hvisit : K (visit n s).2 := Step.all_back (walk_back sim.back room _) _ _ hK
            obtain ⟨houtcome, hstates, htargets⟩ := sim.visits n s t hn hR hvisit
            rw [walk_visit hp ((sim.nodes n.id).trans hn), houtcome, htargets]
            exact Step.all_sim (walk_back sim.back room _) (ih (path ++ [n.id])) _ hstates hK

end Workflow

end ChatFlow
