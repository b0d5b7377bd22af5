import ChatFlow.Proofs.Walk.Record
import Mathlib.Data.List.Chain

/-!
# Walks that end as a whole

If all visits leave by the first slot, then what a walk does next depends on the graph alone. It ends as
a whole exactly if some path leads on to an id that it may not go to.

* `Workflow.Blocked`: a walk from an id behind a path is blocked, read off the graph.
* `Workflow.Offends`: the path that a walk may not go, as a list of ids.
* `Workflow.walkFrom_error_iff`: a walk ends as a whole exactly if there is such a path.
-/

namespace ChatFlow.Workflow

variable {σ : Type} {w : Workflow} {visit : Node → σ → Outcome × σ} {room : Nat} {path : List Text}
  {id : Text} {s : σ}

/-- Somewhere behind the id, a walk comes back to its path or runs out of room. -/
inductive Blocked (w : Workflow) : (room : Nat) → (path : List Text) → Text → Prop where
  | revisits {room : Nat} {path : List Text} {id : Text} (h : id ∈ path) : Blocked w room path id
  | tooDeep {path : List Text} {id : Text} (h : id ∉ path) : Blocked w 0 path id
  | further {room : Nat} {path : List Text} {id next : Text} (h : id ∉ path)
      (hn : (w.node? id).isSome) (hnext : next ∈ w.successors id .first)
      (hblocked : Blocked w room (path ++ [id]) next) : Blocked w (room + 1) path id

/-- A walk whose visits all leave by the first slot ends as a whole exactly if it is blocked. -/
theorem walk_error_iff_blocked (hfirst : ∀ n s, (visit n s).1 = .leaves .first) :
    (∃ fault, (w.walk visit room path id s).1 = .error fault) ↔ w.Blocked room path id := by
  induction room generalizing path id s with
  | zero =>
      by_cases hp : id ∈ path
      · rw [walk_of_mem hp]
        exact ⟨fun _ => .revisits hp, fun _ => ⟨_, rfl⟩⟩
      · rw [walk_zero hp]
        exact ⟨fun _ => .tooDeep hp, fun _ => ⟨_, rfl⟩⟩
  | succ room ih =>
      by_cases hp : id ∈ path
      · rw [walk_of_mem hp]
        exact ⟨fun _ => .revisits hp, fun _ => ⟨_, rfl⟩⟩
      · cases hn : w.node? id with
        | none =>
            rw [walk_missing hp hn]
            constructor
            · rintro ⟨fault, hfault⟩
              cases hfault
            · intro h
              cases h with
              | revisits h => exact absurd h hp
              | further _ hsome => simp [hn] at hsome
        | some n =>
            rw [walk_visit hp hn, hfirst]
            constructor
            · rintro ⟨fault, hfault⟩
              -- the visit itself ends no walk, so one from a successor has ended
              obtain ⟨next, hnext, s₁, hs₁⟩ := Step.error_mem (Prod.ext hfault rfl)
              exact .further hp (by simp [hn]) hnext (ih.mp ⟨fault, by rw [hs₁]⟩)
            · intro h
              cases h with
              | revisits h => exact absurd h hp
              | further _ _ hnext hblocked =>
                  -- blocked is blocked, whatever state the steps before this one leave
                  exact Step.error_of_mem hnext fun _ => ih.mpr hblocked

/-! ## The path that is blocked -/

/-- A path that a walk from its first id may not go: it leads along connections of the first slot from
node to node and then on to a last id, which stands on it already, or is one too many. -/
structure Offends (w : Workflow) (start : Text) (path : List Text) (last : Text) : Prop where
  head : path.head? = some start
  chain : (path ++ [last]).IsChain fun id next => next ∈ w.successors id .first
  nodes : ∀ id ∈ path, (w.node? id).isSome
  distinct : path.Nodup
  ends : last ∈ path ∨ path.length = 64

/-- A blocked walk goes along some more ids up to the one that blocks it. -/
theorem Blocked.exists_ids (h : w.Blocked room path id) :
    ∃ us last, (us ++ [last]).head? = some id ∧
      (us ++ [last]).IsChain (fun id next => next ∈ w.successors id .first) ∧
      (∀ u ∈ us, (w.node? u).isSome) ∧ us.Nodup ∧ (∀ u ∈ us, u ∉ path) ∧
      (last ∈ path ++ us ∨ us.length = room) := by
  induction h with
  | @revisits _ path id h =>
      refine ⟨[], id, rfl, by simp, by simp, by simp, by simp, ?_⟩
      exact .inl (List.mem_append_left _ h)
  | @tooDeep path id h => exact ⟨[], id, rfl, by simp, by simp, by simp, by simp, .inr rfl⟩
  | @further room path id next h hn hnext _ ih =>
      obtain ⟨us, last, hhead, hchain, hnodes, hnodup, hpath, hends⟩ := ih
      refine ⟨id :: us, last, rfl, ?_, ?_, ?_, ?_, ?_⟩
      · rw [List.cons_append, List.isChain_cons]
        refine ⟨?_, hchain⟩
        intro u hu
        rw [hhead] at hu
        cases hu
        exact hnext
      · intro u hu
        rcases List.mem_cons.mp hu with rfl | hu
        · exact hn
        · exact hnodes u hu
      · rw [List.nodup_cons]
        refine ⟨?_, hnodup⟩
        -- the ids further on avoid the path, which ends in this one
        intro hmem
        exact hpath id hmem (by simp)
      · intro u hu
        rcases List.mem_cons.mp hu with rfl | hu
        · exact h
        · intro hmem
          exact hpath u hu (List.mem_append_left _ hmem)
      · rcases hends with hlast | hlength
        · exact .inl (by simpa using hlast)
        · exact .inr (by simp [hlength])

/-- A walk is blocked if it can go along some more ids up to one that blocks it. -/
theorem blocked_of_ids {us : List Text} {last : Text} (hhead : (us ++ [last]).head? = some id)
    (hchain : (us ++ [last]).IsChain fun id next => next ∈ w.successors id .first)
    (hnodes : ∀ u ∈ us, (w.node? u).isSome) (hnodup : us.Nodup) (hpath : ∀ u ∈ us, u ∉ path)
    (hends : last ∈ path ++ us ∨ us.length = room) : w.Blocked room path id := by
  induction us generalizing room path id with
  | nil =>
      cases hhead
      by_cases hp : last ∈ path
      · exact .revisits hp
      · rcases hends with hlast | rfl
        · exact absurd (by simpa using hlast) hp
        · exact .tooDeep hp
  | cons u us ih =>
      cases hhead
      have hp : u ∉ path := hpath u List.mem_cons_self
      rw [List.cons_append, List.isChain_cons] at hchain
      rw [List.nodup_cons] at hnodup
      cases room with
      | zero => exact .tooDeep hp
      | succ room =>
          -- the next id is among the rest, or it is the last one
          obtain ⟨next, hnext⟩ : ∃ next, (us ++ [last]).head? = some next := by
            cases us <;> simp
          refine .further hp (hnodes u List.mem_cons_self) (hchain.1 next hnext) ?_
          refine ih hnext hchain.2 ?_ hnodup.2 ?_ ?_
          · intro v hv
            exact hnodes v (List.mem_cons_of_mem u hv)
          · intro v hv hmem
            rcases List.mem_append.mp hmem with hmem | hmem
            · exact hpath v (List.mem_cons_of_mem u hv) hmem
            · rw [List.mem_singleton.mp hmem] at hv
              exact hnodup.1 hv
          · rcases hends with hlast | hlength
            · exact .inl (by simpa using hlast)
            · exact .inr (by simpa using hlength)

theorem blocked_iff_offends : w.Blocked maxDepth [] id ↔ ∃ path last, w.Offends id path last := by
  constructor
  · intro h
    obtain ⟨path, last, hhead, hchain, hnodes, hnodup, -, hends⟩ := h.exists_ids
    rw [List.nil_append] at hends
    refine ⟨path, last, ⟨?_, hchain, hnodes, hnodup, hends⟩⟩
    -- the path is not empty, as the walk begins on none and with some room
    cases path with
    | nil => simp [maxDepth] at hends
    | cons u us => simpa using hhead
  · rintro ⟨path, last, h⟩
    refine blocked_of_ids ?_ h.chain h.nodes h.distinct (by simp) ?_
    · rw [List.head?_append, h.head]
      rfl
    · simpa [maxDepth] using h.ends

/-! ## Walks whose visits leave by the first slot -/

/-- Visits that change nothing and leave by the first slot. -/
def visitFirst (_ : Node) (_ : Unit) : Outcome × Unit := (.leaves .first, ())

/-- A walk whose visits all leave by the first slot ends like one that changes nothing. -/
theorem walkFrom_first (h : ∀ v ∈ w.trail visit id s, v.outcome = .leaves .first) :
    (w.walkFrom visit id s).1 = (w.walkFrom visitFirst id ()).1 := by
  have hvisits : ∀ n s (t : Unit), w.node? n.id = some n → True → (visit n s).1 = .leaves .first →
      (visitFirst n t).1 = (visit n s).1 ∧ True ∧
        w.targets n.id (visit n s).1 = w.targets n.id (visit n s).1 := by
    intro n s t _ _ houtcome
    exact ⟨houtcome.symm, trivial, rfl⟩
  exact (walkFrom_sim (R := fun _ _ => True) (fun _ => rfl) hvisits h trivial).1.symm

/-- A walk whose visits all leave by the first slot ends as a whole exactly if there is a path that it
may not go. -/
theorem walkFrom_error_iff (h : ∀ v ∈ w.trail visit id s, v.outcome = .leaves .first) :
    (∃ fault, (w.walkFrom visit id s).1 = .error fault) ↔ ∃ path last, w.Offends id path last := by
  rw [walkFrom_first h, walkFrom, walk_error_iff_blocked fun _ _ => rfl, blocked_iff_offends]

end ChatFlow.Workflow
