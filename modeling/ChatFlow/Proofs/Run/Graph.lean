import ChatFlow.Proofs.Run.Traversal
import ChatFlow.Proofs.Walk.Dangling
import ChatFlow.Proofs.Walk.Locality

/-!
# Runs of workflows that differ

What a run does with a workflow is up to the graph that the trigger leads to. Here are two changes of a
workflow, and what they make of its runs.

* `Runner.execute_withoutDangling_iff`: connections that lead to no node make no difference, unless a
  run comes to one behind the longest path that it may go.
* `Runner.execute_of_agreesFrom`: nothing but what connections lead to makes a difference.
-/

namespace ChatFlow.Runner

variable {r : Runner} {w w' : Workflow} {m : Message} {world : World} {trigger trigger' : Node}
  {captures : List Text}

/-! ## Runs whose walks are the same -/

/-- Visits look at the id of the workflow, and at the id, kind and settings of the node. -/
theorem visit_congr {n n' : Node} (hid : w'.id = w.id) (hn : n'.id = n.id) (hbody : n'.body = n.body)
    (s : Scene) : r.visit w' m n' s = r.visit w m n s := by
  simp only [visit, noteExecuted, noteFailed, failureLine, hid, hn, hbody]

/-- Two runs whose triggers have the same id and captures are the same if their walks are. -/
theorem execute_of_walk (hid : w'.id = w.id) (htrigger : trigger'.id = trigger.id)
    (hmatch : Trigger.first? m.content w.triggers = .ok (some (trigger, captures)))
    (hmatch' : Trigger.first? m.content w'.triggers = .ok (some (trigger', captures)))
    (hwalk : w'.walkFrom (r.visit w' m) trigger.id (r.opening w m world trigger captures) =
      w.walkFrom (r.visit w m) trigger.id (r.opening w m world trigger captures)) :
    r.execute w' m world = r.execute w m world ∧ r.traversal? w' m world = r.traversal? w m world := by
  have hopening : r.opening w' m world trigger' captures = r.opening w m world trigger captures := by
    simp only [opening, matchedLine, hid, htrigger]
  have hwalk' : w'.walkFrom (r.visit w' m) trigger'.id (r.opening w' m world trigger' captures) =
      w.walkFrom (r.visit w m) trigger.id (r.opening w m world trigger captures) := by
    rw [hopening, htrigger, hwalk]
  constructor
  · rw [execute_of_match hmatch', execute_of_match hmatch, hwalk']
    simp only [finish, hid]
  · rw [traversal?, traversal?, hmatch', hmatch]
    exact congrArg some hwalk'

/-! ## Connections that lead to no node -/

/-- The run makes the last visit that a path has room for and then ends as a whole at a target that is
no node. -/
def Overshoots (r : Runner) (w : Workflow) (m : Message) (world : World) : Prop :=
  ∃ trigger captures, Trigger.first? m.content w.triggers = .ok (some (trigger, captures)) ∧
    w.Overshoots (r.visit w m) Workflow.maxDepth [] trigger.id (r.opening w m world trigger captures)

theorem overshoots_iff
    (hmatch : Trigger.first? m.content w.triggers = .ok (some (trigger, captures))) :
    r.Overshoots w m world ↔
      w.Overshoots (r.visit w m) Workflow.maxDepth [] trigger.id
        (r.opening w m world trigger captures) := by
  constructor
  · rintro ⟨trigger', captures', hmatch', hover⟩
    rw [hmatch] at hmatch'
    cases hmatch'
    exact hover
  · intro hover
    exact ⟨trigger, captures, hmatch, hover⟩

/-- A visit is noted. -/
theorem executed_lt_visit (r : Runner) (w : Workflow) (m : Message) (n : Node) (s : Scene) :
    s.context.executed.length < (r.visit w m n s).2.context.executed.length := by
  have hexecuted := congrArg (fun notes => notes.2.1) (visit_notes r w m n s)
  have hlength : (r.visit w m n s).2.context.executed.length = s.context.executed.length + 1 := by
    simpa [Scene.notes] using congrArg List.length hexecuted
  omega

/-- The connections that lead to no node make a difference exactly to the runs that overshoot. Such a
run ends as a whole for want of room. -/
theorem execute_withoutDangling_iff :
    (r.execute w.withoutDangling m world = r.execute w m world ∧
        r.traversal? w.withoutDangling m world = r.traversal? w m world ↔
      ¬ r.Overshoots w m world) ∧
    (r.Overshoots w m world → (r.execute w m world).1 = .error (.walk w.id .tooDeep)) := by
  have hpath : w.AllNodes [] := by
    intro id hid
    cases hid
  constructor
  · rcases hfirst : Trigger.first? m.content w.triggers with fault | _ | ⟨trigger, captures⟩
    · simp [execute, traversal?, Overshoots, hfirst]
    · simp [execute, traversal?, Overshoots, hfirst]
    · have hnode : w.hasNode trigger.id = true := Workflow.node?_isSome (trigger_mem hfirst)
      have hfirst' : Trigger.first? m.content w.withoutDangling.triggers =
          .ok (some (trigger, captures)) := hfirst
      rw [overshoots_iff hfirst,
        ← Workflow.walk_withoutDangling_iff (executed_lt_visit r w m) hpath hnode]
      constructor
      · rintro ⟨-, htraversal⟩
        rw [traversal?, traversal?, hfirst', hfirst] at htraversal
        exact Option.some.inj htraversal
      · exact execute_of_walk rfl rfl hfirst hfirst'
  · rintro ⟨trigger, captures, hmatch, hover⟩
    obtain ⟨s, hs⟩ := hover.walk_tooDeep hpath
    rw [execute_of_match hmatch, Workflow.walkFrom, hs]
    rfl

/-- The trigger and 63 more nodes in a row, the last of which leads to no node. -/
def sampleChain : Workflow :=
  sampleFlow ((List.range 63).map fun i => sampleStep [.ofNat (0x30 + i)])
    (⟨"t", [.ofNat 0x30], .first⟩ ::
      (List.range 63).map fun i => ⟨[.ofNat (0x30 + i)], [.ofNat (0x31 + i)], .first⟩)

/-- A run that ends as a whole at the connection that leads to no node, and returns without it. -/
theorem execute_withoutDangling_of_chain :
    (sampleRunner.execute sampleChain sampleMessage sampleWorld).1 = .error (.walk "w" .tooDeep) ∧
      (∃ context, (sampleRunner.execute sampleChain.withoutDangling sampleMessage sampleWorld).1 =
        .ok (some context) ∧ context.executed.length = 64) ∧
      sampleRunner.execute sampleChain.withoutDangling sampleMessage sampleWorld ≠
        sampleRunner.execute sampleChain sampleMessage sampleWorld := by
  have hwith : (sampleRunner.execute sampleChain sampleMessage sampleWorld).1.map
      (Option.map fun context => context.executed.length) = .error (.walk "w" .tooDeep) := by
    decide +kernel
  have hwithout : (sampleRunner.execute sampleChain.withoutDangling sampleMessage sampleWorld).1.map
      (Option.map fun context => context.executed.length) = .ok (some 64) := by
    decide +kernel
  obtain ⟨context, world', hrun, hlength⟩ := exists_context hwithout
  refine ⟨?_, ⟨context, congrArg Prod.fst hrun, hlength⟩, ?_⟩
  · cases hresult : (sampleRunner.execute sampleChain sampleMessage sampleWorld).1 with
    | error fault =>
        rw [hresult] at hwith
        cases hwith
        rfl
    | ok _ =>
        rw [hresult] at hwith
        cases hwith
  · intro heq
    rw [← heq, hwithout] at hwith
    cases hwith

/-! ## What connections lead to -/

/-- Runs of two workflows from triggers of the same id are the same if the workflows agree on everything
that connections lead to from there. -/
theorem execute_of_agreesFrom (hdiffer : Workflow.idsDiffer w.nodes)
    (hdiffer' : Workflow.idsDiffer w'.nodes) (hid : w'.id = w.id) {captures' : List Text}
    (hmatch : Trigger.first? m.content w.triggers = .ok (some (trigger, captures)))
    (hmatch' : Trigger.first? m.content w'.triggers = .ok (some (trigger', captures')))
    (htrigger : trigger'.id = trigger.id) (h : w.AgreesFrom w' trigger.id) :
    r.execute w' m world = r.execute w m world ∧
      r.traversal? w' m world = r.traversal? w m world := by
  have hn := Workflow.node?_of_mem hdiffer (trigger_mem hmatch)
  have hn' := Workflow.node?_of_mem hdiffer' (trigger_mem hmatch')
  -- the trigger is reached, so the workflows agree on it, and the message sets it off alike
  have hbody : trigger'.body = trigger.body := by
    have hnodes := h.nodes trigger.id .refl
    rw [← htrigger, hn', htrigger, hn] at hnodes
    exact Option.some.inj hnodes
  have hcaptures : captures' = captures := by
    have hset := (Trigger.first?_spec hmatch).2
    have hset' := (Trigger.first?_spec hmatch').2
    rw [Trigger.capturesOf?, hbody] at hset'
    rw [Trigger.capturesOf?, hset'] at hset
    cases hset
    rfl
  subst hcaptures
  refine execute_of_walk hid htrigger hmatch hmatch' ?_
  exact h.walk (fun n n' s hn hbody => visit_congr hid hn hbody s) Workflow.maxDepth [] trigger.id .refl _

/-- The nodes and connections of `sampleFork` in another order, and some more that are not reached. -/
def sampleForkAmongOthers : Workflow :=
  sampleFlow [sampleStep "b", sampleStep "a", sampleFailure]
    [⟨"b", "t", .first⟩, ⟨"x", "t", .first⟩, ⟨"t", "x", .first⟩, ⟨"b", "c", .second⟩,
      ⟨"t", "a", .first⟩]

/-- They make no difference. -/
theorem execute_of_agreesFrom_of_fork :
    sampleRunner.execute sampleForkAmongOthers sampleMessage sampleWorld =
      sampleRunner.execute sampleFork sampleMessage sampleWorld := by
  have hreached : ∀ id, sampleFork.Reaches "t" id → id ∈ (["t", "x", "a"] : List Text) := by
    intro id hid
    exact hid.induct (by decide) (by decide)
  have hagree : sampleFork.AgreesFrom sampleForkAmongOthers "t" := by
    constructor
    · intro id hid
      have hmem := hreached id hid
      simp only [List.mem_cons, List.not_mem_nil, or_false] at hmem
      rcases hmem with rfl | rfl | rfl <;> rfl
    · intro id hid _ slot
      have hmem := hreached id hid
      simp only [List.mem_cons, List.not_mem_nil, or_false] at hmem
      rcases hmem with rfl | rfl | rfl <;> cases slot <;> rfl
  have hmatch : Trigger.first? sampleMessage.content sampleFork.triggers =
      .ok (some (sampleTrigger, [])) := rfl
  have hmatch' : Trigger.first? sampleMessage.content sampleForkAmongOthers.triggers =
      .ok (some (sampleTrigger, [])) := rfl
  have hid : sampleForkAmongOthers.id = sampleFork.id := rfl
  exact (execute_of_agreesFrom (by decide) (by decide) hid hmatch hmatch' rfl hagree).1

end ChatFlow.Runner
