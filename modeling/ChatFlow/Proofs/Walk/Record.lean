import ChatFlow.Proofs.Walk.Basic

/-!
# The visits of a walk

A walk changes a state and says whether it came to its end. Here it also keeps a record of its visits,
which changes nothing else about it.

* `Visit.noting`: visits that keep a record of themselves.
* `Workflow.trail`: the visits of a walk in order, also of one that ends as a whole.
* `Workflow.walk_noting`: the record does not disturb the walk.
* `Workflow.walkFrom_sim`: two walks correspond if the visits that are made do.
* `Threads`: visits made one after the other, each in the state that the ones before it left.
-/

namespace ChatFlow

variable {σ τ : Type}

/-- A visit of a node, and what it came to. -/
structure Visit where
  node : Node
  outcome : Outcome

namespace Visit

/-- Visits that keep a record of themselves beside the state that they change. -/
def noting (visit : Node → σ → Outcome × σ) (n : Node) (s : σ × List Visit) :
    Outcome × (σ × List Visit) :=
  ((visit n s.1).1, ((visit n s.1).2, s.2 ++ [⟨n, (visit n s.1).1⟩]))

variable {visit : Node → σ → Outcome × σ} {n : Node} {s : σ × List Visit}

@[simp] theorem noting_record : (noting visit n s).2.2 = s.2 ++ [⟨n, (visit n s.1).1⟩] := rfl

/-- What holds of all visits on record after a visit has held of those before it. -/
theorem noting_back {P : Visit → Prop} (n : Node) (s : σ × List Visit)
    (h : ∀ v ∈ (noting visit n s).2.2, P v) : ∀ v ∈ s.2, P v := by
  intro v hv
  exact h v (List.mem_append_left _ hv)

/-- A visit stands on its own record. -/
theorem mem_noting : ⟨n, (visit n s.1).1⟩ ∈ (noting visit n s).2.2 := by
  simp

end Visit

open Visit

namespace Workflow

/-- The visits of the walk from the first node of a path, in order. -/
def trail (w : Workflow) (visit : Node → σ → Outcome × σ) (id : Text) (s : σ) : List Visit :=
  (w.walkFrom (noting visit) id (s, [])).2.2

variable {w : Workflow} {visit : Node → σ → Outcome × σ} {id : Text} {s : σ}

/-- A walk that keeps a record ends like one that does not, and in the same state. -/
theorem walk_noting (room : Nat) (path : List Text) (id : Text) (s : σ × List Visit) :
    w.walk visit room path id s.1 =
      ((w.walk (noting visit) room path id s).1, (w.walk (noting visit) room path id s).2.1) := by
  have sim : Simulation w w (noting visit) visit (fun _ => True) fun s t => s.1 = t :=
    { back := fun _ _ _ => trivial
      nodes := fun _ => rfl
      visits := by
        rintro n s t - rfl -
        exact ⟨rfl, rfl, rfl⟩ }
  obtain ⟨hresult, hstate⟩ := sim.walk room path id s s.1 rfl trivial
  exact Prod.ext hresult hstate.symm

theorem walkFrom_noting :
    w.walkFrom visit id s =
      ((w.walkFrom (noting visit) id (s, [])).1, (w.walkFrom (noting visit) id (s, [])).2.1) :=
  walk_noting maxDepth [] id (s, [])

/-- A walk all of whose visits have a property ends like another one over the same nodes, if visits
with this property correspond. -/
theorem walkFrom_sim {w' : Workflow} {visit' : Node → τ → Outcome × τ} {P : Visit → Prop}
    {R : σ → τ → Prop} {t : τ} (hnodes : ∀ id, w'.node? id = w.node? id)
    (hvisits : ∀ n s t, w.node? n.id = some n → R s t → P ⟨n, (visit n s).1⟩ →
      (visit' n t).1 = (visit n s).1 ∧ R (visit n s).2 (visit' n t).2 ∧
        w'.targets n.id (visit n s).1 = w.targets n.id (visit n s).1)
    (h : ∀ v ∈ w.trail visit id s, P v) (hR : R s t) :
    (w'.walkFrom visit' id t).1 = (w.walkFrom visit id s).1 ∧
      R (w.walkFrom visit id s).2 (w'.walkFrom visit' id t).2 := by
  -- the first walk keeps a record, which in the end shows what all of its visits were like
  have sim : Simulation w w' (noting visit) visit' (fun s => ∀ v ∈ s.2, P v) fun s t => R s.1 t :=
    { back := noting_back
      nodes := hnodes
      visits := by
        intro n s t hn hR hK
        exact hvisits n s.1 t hn hR (hK _ mem_noting) }
  have hnoting : w.walkFrom visit id s = _ := walkFrom_noting
  rw [hnoting]
  exact sim.walk maxDepth [] id (s, []) t hR h

/-- What holds of each visit of a node of the workflow holds of each visit of a walk. -/
theorem forall_trail {P : Visit → Prop}
    (hvisit : ∀ n s, w.node? n.id = some n → P ⟨n, (visit n s).1⟩) (id : Text) (s : σ) :
    ∀ v ∈ w.trail visit id s, P v := by
  have hkept : (∀ v ∈ ([] : List Visit), P v) → ∀ v ∈ w.trail visit id s, P v := by
    -- the record only grows, so it is enough that each visit adds one with the property
    refine walk_rel (R := fun s s' : σ × List Visit => (∀ v ∈ s.2, P v) → ∀ v ∈ s'.2, P v)
      (fun _ h => h) (fun f g h => g (f h)) ?_ maxDepth [] id (s, [])
    intro id n s hn h v hv
    obtain rfl := id_of_node? hn
    rcases List.mem_append.mp hv with hv | hv
    · exact h v hv
    · rw [List.mem_singleton.mp hv]
      exact hvisit n s.1 hn
  exact hkept (by simp)

end Workflow

/-- Visits made one after the other, each in the state that the ones before it left. -/
inductive Threads (visit : Node → σ → Outcome × σ) : σ → List Visit → σ → Prop where
  | nil (s : σ) : Threads visit s [] s
  | cons {s s₁ s₂ : σ} {v : Visit} {vs : List Visit} (hv : visit v.node s = (v.outcome, s₁))
      (hvs : Threads visit s₁ vs s₂) : Threads visit s (v :: vs) s₂

namespace Threads

variable {visit : Node → σ → Outcome × σ} {s s₁ s₂ : σ} {vs vs' : List Visit}

theorem append (h : Threads visit s vs s₁) (h' : Threads visit s₁ vs' s₂) :
    Threads visit s (vs ++ vs') s₂ := by
  induction h with
  | nil s => exact h'
  | cons hv _ ih => exact .cons hv (ih h')

/-- Visits that keep a record are made like those that do not, and stand on the record in the end. -/
theorem of_noting {s s₁ : σ × List Visit} (h : Threads (noting visit) s vs s₁) :
    Threads visit s.1 vs s₁.1 ∧ s₁.2 = s.2 ++ vs := by
  induction h with
  | nil s => exact ⟨.nil s.1, (List.append_nil _).symm⟩
  | @cons s s₁ s₂ v vs hv _ ih =>
      obtain ⟨hthreads, hrecord⟩ := ih
      have houtcome : (visit v.node s.1).1 = v.outcome := congrArg Prod.fst hv
      have hstate : (visit v.node s.1).2 = s₁.1 := congrArg (fun p => p.2.1) hv
      have hnoted : s.2 ++ [⟨v.node, (visit v.node s.1).1⟩] = s₁.2 := congrArg (fun p => p.2.2) hv
      refine ⟨.cons (Prod.ext houtcome hstate) hthreads, ?_⟩
      rw [hrecord, ← hnoted, houtcome, List.append_assoc, List.singleton_append]

/-- The state behind visits that keep a record comes from that before them, by some visits. -/
def Follows (visit : Node → σ → Outcome × σ) (s s' : σ × List Visit) : Prop :=
  ∃ vs, Threads (noting visit) s vs s'

theorem Follows.refl (s : σ × List Visit) : Follows visit s s := ⟨[], .nil s⟩

theorem Follows.trans {a b c : σ × List Visit} (h : Follows visit a b) (h' : Follows visit b c) :
    Follows visit a c := by
  obtain ⟨vs, hvs⟩ := h
  obtain ⟨vs', hvs'⟩ := h'
  exact ⟨vs ++ vs', hvs.append hvs'⟩

theorem follows_walk (w : Workflow) (room : Nat) (path : List Text) (id : Text)
    (s : σ × List Visit) : Follows visit s (w.walk (noting visit) room path id s).2 := by
  refine Workflow.walk_rel Follows.refl Follows.trans ?_ room path id s
  intro id n s _
  exact ⟨[⟨n, (visit n s.1).1⟩], .cons rfl (.nil _)⟩

/-- The record of a walk holds the visits that have led to its end, one after the other. -/
theorem of_record {s : σ} {s' : σ × List Visit} (h : Follows visit (s, []) s') :
    Threads visit s s'.2 s'.1 := by
  obtain ⟨vs, hvs⟩ := h
  obtain ⟨hthreads, hrecord⟩ := hvs.of_noting
  rw [hrecord, List.nil_append]
  exact hthreads

/-- A walk makes the visits of its trail one after the other, however it ends. -/
theorem trail (w : Workflow) (visit : Node → σ → Outcome × σ) (id : Text) (s : σ) :
    Threads visit s (w.trail visit id s) (w.walkFrom visit id s).2 := by
  rw [Workflow.walkFrom_noting]
  exact of_record (follows_walk w _ _ id (s, []))

end Threads

end ChatFlow
