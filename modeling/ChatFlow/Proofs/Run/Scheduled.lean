import ChatFlow.Proofs.Run.Traversal
import ChatFlow.Proofs.Walk.Locality

/-!
# Runs that the clock sets off

The clock runs a workflow from behind all of its triggers, one after the other. From behind a trigger the
run does what it does from the trigger itself, only that no visit of the trigger is noted. The path holds
the trigger in both, and bodies of nodes do not look at the notes.

* `Runner.Lacks`: a scene in which one visit is not noted.
* `Runner.pass`: the walk from a trigger, with the note of its visit taken back.
* `Runner.executeScheduled_eq_passes`: the clock's run is made of such walks.
-/

namespace ChatFlow

open Act

/-- The scene without the note of one visit. -/
def Scene.withoutNote (i : Nat) (s : Scene) : Scene :=
  { s with context := { s.context with executed := s.context.executed.eraseIdx i } }

namespace Runner

variable {r : Runner} {w : Workflow} {m : Message} {n : Node} {s t : Scene} {before : List Text}
  {id : Text}

/-! ## Scenes that lack a note -/

/-- The second scene is the first one, but that a visit behind some others is not noted. -/
def Lacks (before : List Text) (id : Text) (s t : Scene) : Prop :=
  ∃ after, s.context.executed = before ++ id :: after ∧
    t = { s with context := { s.context with executed := before ++ after } }

theorem Lacks.withoutNote (h : Lacks before id s t) : t = s.withoutNote before.length := by
  obtain ⟨after, hexecuted, rfl⟩ := h
  have herase : (before ++ id :: after).eraseIdx before.length = before ++ after := by
    rw [List.eraseIdx_append_of_length_le (Nat.le_refl _), Nat.sub_self, List.eraseIdx_cons_zero]
  rw [Scene.withoutNote, hexecuted, herase]

theorem Lacks.noted (h : Lacks before id s t) : s.context.executed[before.length]? = some id := by
  obtain ⟨after, hexecuted, -⟩ := h
  rw [hexecuted]
  simp

theorem sharesWorld_lacks : SharesWorld (Lacks before id) where
  same := by
    rintro s _ ⟨after, -, rfl⟩
    rfl
  setSame := by
    rintro s _ _ ⟨after, hexecuted, rfl⟩ - -
    exact ⟨after, hexecuted, rfl⟩

theorem bond_lacks : Bond (Lacks before id) where
  surroundings := sharesWorld_lacks.surroundings
  captures := by
    rintro s _ ⟨after, -, rfl⟩
    rfl
  vars := by
    rintro s _ ⟨after, -, rfl⟩
    rfl
  setSurroundings := sharesWorld_lacks.setSurroundings
  setVar := by
    rintro s _ _ _ ⟨after, hexecuted, rfl⟩
    exact ⟨after, hexecuted, rfl⟩

/-- Visits do alike whether the note is there or not. -/
theorem matches_lacks (r : Runner) (w : Workflow) : Matches (Lacks before id) w r r where
  bond := bond_lacks
  anyStore := by
    rintro s _ _ ⟨after, hexecuted, rfl⟩
    exact ⟨after, hexecuted, rfl⟩
  calls := sharesWorld_lacks.calls r.outlet
  handled := rfl
  executed := by
    rintro s _ n ⟨after, hexecuted, rfl⟩
    exact ⟨after ++ [n.id], by simp [noteExecuted, hexecuted], by simp [noteExecuted]⟩
  failed := by
    rintro s _ _ ⟨after, hexecuted, rfl⟩
    exact ⟨after, hexecuted, rfl⟩

/-! ## The walk from a trigger -/

/-- A trigger does nothing but lead on. -/
theorem visit_trigger (hkind : n.body.kind = .trigger) (s : Scene) :
    r.visit w m n s = (.leaves .first, noteExecuted n s) := by
  unfold visit
  cases hbody : n.body with
  | trigger d => rfl
  | _ =>
      rw [hbody] at hkind
      cases hkind

/-- The walk from a trigger notes it and goes on behind it. -/
theorem walkFrom_trigger (hn : w.node? n.id = some n) (hkind : n.body.kind = .trigger) (s : Scene) :
    w.walkFrom (r.visit w m) n.id s = w.walkBehind (r.visit w m) n.id (noteExecuted n s) := by
  rw [Workflow.walkFrom, show Workflow.maxDepth = 63 + 1 from rfl, Workflow.walk_visit (by simp) hn,
    visit_trigger hkind]
  rfl

/-- The walk from a trigger, with the note of its visit taken back. -/
def pass (r : Runner) (w : Workflow) (m : Message) (trigger : Node) : Step Scene := fun s =>
  let (result, s') := w.walkFrom (r.visit w m) trigger.id s
  (result, s'.withoutNote s.context.executed.length)

/-- From behind a trigger and from the trigger itself, walks end alike, and the one lacks the note of the
trigger that the other begins with. -/
theorem walkBehind_lacks (hn : w.node? n.id = some n) (hkind : n.body.kind = .trigger) (s : Scene) :
    (w.walkBehind (r.visit w m) n.id s).1 = (w.walkFrom (r.visit w m) n.id s).1 ∧
      Lacks s.context.executed n.id (w.walkFrom (r.visit w m) n.id s).2
        (w.walkBehind (r.visit w m) n.id s).2 := by
  -- the visit of the trigger has added its note and done nothing else
  have hlacks : Lacks s.context.executed n.id (noteExecuted n s) s := ⟨[], rfl, by simp [noteExecuted]⟩
  rw [walkFrom_trigger hn hkind]
  exact (matches_lacks r w).walkBehind m n.id hlacks

theorem walkBehind_eq_pass (hn : w.node? n.id = some n) (hkind : n.body.kind = .trigger) (s : Scene) :
    w.walkBehind (r.visit w m) n.id s = r.pass w m n s := by
  obtain ⟨hresult, hlacks⟩ := walkBehind_lacks (r := r) (m := m) hn hkind s
  exact Prod.ext hresult hlacks.withoutNote

/-! ## The run from behind all triggers -/

/-- A run that the clock sets off makes, in one scene without captures and for an empty message, the walk
from each trigger in turn that a message which set it off would make, up to the first that ends as a whole;
the visit that each of them begins with, that of the trigger, is not noted. -/
theorem executeScheduled_eq_passes (hdiffer : Workflow.idsDiffer w.nodes) (e : Event) (world : World) :
    r.executeScheduled w e world =
        finish w (Step.all (r.pass w ⟨e, []⟩) w.triggers ⟨world, .start []⟩) ∧
      ∀ trigger ∈ w.triggers, ∀ s,
        (w.walkFrom (r.visit w ⟨e, []⟩) trigger.id s).2.context.executed[s.context.executed.length]? =
          some trigger.id := by
  -- the path goes by ids, so each trigger has to be the node that is found by its own
  have htriggers : ∀ trigger ∈ w.triggers,
      w.node? trigger.id = some trigger ∧ trigger.body.kind = .trigger := by
    intro trigger htrigger
    obtain ⟨hmem, hkind⟩ := List.mem_filter.mp htrigger
    exact ⟨Workflow.node?_of_mem hdiffer hmem, of_decide_eq_true hkind⟩
  constructor
  · have hpasses : Step.all (fun trigger => w.walkBehind (r.visit w ⟨e, []⟩) trigger.id) w.triggers
        ⟨world, .start []⟩ = Step.all (r.pass w ⟨e, []⟩) w.triggers ⟨world, .start []⟩ := by
      refine Step.all_congr ?_ _
      intro trigger htrigger s
      obtain ⟨hn, hkind⟩ := htriggers trigger htrigger
      exact walkBehind_eq_pass hn hkind s
    exact congrArg (finish w) hpasses
  · intro trigger htrigger s
    obtain ⟨hn, hkind⟩ := htriggers trigger htrigger
    exact (walkBehind_lacks hn hkind s).2.noted

/-- A trigger that a message sets off leads to one that only the clock sets off. -/
def sampleClock : Workflow :=
  sampleFlow [⟨"u", none, none, .trigger ⟨"scheduled", "", "", []⟩, []⟩, sampleStep "a"]
    [⟨"t", "u", .first⟩, ⟨"u", "a", .first⟩]

/-- The passes from two triggers, the second of which is also visited behind the first. -/
theorem executeScheduled_eq_passes_of_clock :
    (finish sampleClock (Step.all (sampleRunner.pass sampleClock ⟨sampleMessage.event, []⟩)
      sampleClock.triggers ⟨sampleWorld, .start []⟩)).1.map (·.executed) = .ok ["u", "a", "a"] := by
  rw [← (executeScheduled_eq_passes (r := sampleRunner) (by decide) sampleMessage.event sampleWorld).1]
  rfl

end Runner

end ChatFlow
