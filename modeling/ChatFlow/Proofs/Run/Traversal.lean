import ChatFlow.Proofs.Run.Visit
import ChatFlow.Proofs.Walk.Cycle
import ChatFlow.Proofs.Walk.FanIn
import ChatFlow.Proofs.Walk.Locality

/-!
# Runs that a message sets off

A run is the walk from the trigger that the message sets off. What is known of walks is put together
here with what is known of the visits of a run.

* `Runner.execute_tree`: a run that returns has made the visits of a tree in preorder.
* `Runner.execute_error_iff`: a run ends as a whole exactly if some path may not be gone.
* `Runner.execute_enumerates`: a run visits a node once for each walk to it.
* `Runner.execute_withoutExits`: a node whose visits fail is a leaf.
-/

namespace ChatFlow.Runner

variable {r : Runner} {w : Workflow} {m : Message} {world world' : World} {trigger : Node}
  {captures : List Text} {context : Context}

/-! ## The walk of a run -/

/-- The scene in which a run begins once a message has set off a trigger. -/
def opening (r : Runner) (w : Workflow) (m : Message) (world : World) (trigger : Node)
    (captures : List Text) : Scene :=
  ⟨world.log (r.matchedLine w trigger m.event.userId), .start captures⟩

/-- How the walk of a run ends, and the scene that it leaves; none if no trigger is set off. -/
def traversal? (r : Runner) (w : Workflow) (m : Message) (world : World) :
    Option (Except WalkFault Unit × Scene) :=
  match Trigger.first? m.content w.triggers with
  | .ok (some (trigger, captures)) =>
    some (w.walkFrom (r.visit w m) trigger.id (r.opening w m world trigger captures))
  | _ => none

/-- The visits of a run in order, also of one that ends as a whole. -/
def visits (r : Runner) (w : Workflow) (m : Message) (world : World) : List Visit :=
  match Trigger.first? m.content w.triggers with
  | .ok (some (trigger, captures)) =>
    w.trail (r.visit w m) trigger.id (r.opening w m world trigger captures)
  | _ => []

section Matched

variable (hmatch : Trigger.first? m.content w.triggers = .ok (some (trigger, captures)))

include hmatch

theorem trigger_mem : trigger ∈ w.nodes :=
  (List.mem_filter.mp (Trigger.mem_of_first? hmatch)).1

theorem visits_of_match :
    r.visits w m world = w.trail (r.visit w m) trigger.id (r.opening w m world trigger captures) := by
  rw [visits, hmatch]

theorem execute_of_match :
    r.execute w m world =
      Prod.map (Except.map some) id
        (finish w (w.walkFrom (r.visit w m) trigger.id (r.opening w m world trigger captures))) := by
  rw [execute, hmatch]
  rfl

/-- A run returns exactly if its walk comes to its end, and leaves what the walk leaves. -/
theorem execute_eq_ok_iff :
    r.execute w m world = (.ok (some context), world') ↔
      w.walkFrom (r.visit w m) trigger.id (r.opening w m world trigger captures) =
        (.ok (), ⟨world', context⟩) := by
  rw [execute_of_match hmatch]
  rcases w.walkFrom (r.visit w m) trigger.id (r.opening w m world trigger captures) with ⟨result, s⟩
  cases result with
  | ok _ =>
      constructor
      · intro h
        cases h
        rfl
      · intro h
        cases h
        rfl
  | error fault =>
      constructor
      · intro h
        cases h
      · intro h
        cases h

/-- A run ends as a whole exactly if its walk does. -/
theorem execute_error_iff_walk :
    (∃ fault, (r.execute w m world).1 = .error (.walk w.id fault)) ↔
      ∃ fault, (w.walkFrom (r.visit w m) trigger.id (r.opening w m world trigger captures)).1 =
        .error fault := by
  rw [execute_of_match hmatch]
  rcases w.walkFrom (r.visit w m) trigger.id (r.opening w m world trigger captures) with ⟨result, s⟩
  cases result with
  | ok _ => simp [finish, Except.map]
  | error fault => simp [finish, Except.map]

/-- A run that does not end as a whole returns. -/
theorem execute_ok_iff_not_error :
    (∃ context, (r.execute w m world).1 = .ok (some context)) ↔
      ¬ ∃ fault, (r.execute w m world).1 = .error (.walk w.id fault) := by
  rw [execute_of_match hmatch]
  rcases w.walkFrom (r.visit w m) trigger.id (r.opening w m world trigger captures) with ⟨result, s⟩
  cases result with
  | ok _ => simp [finish, Except.map]
  | error fault => simp [finish, Except.map]

end Matched

/-- A run that returns was set off by a trigger. -/
theorem exists_match (h : r.execute w m world = (.ok (some context), world')) :
    ∃ trigger captures,
      Trigger.first? m.content w.triggers = .ok (some (trigger, captures)) := by
  unfold execute at h
  split at h
  · cases h
  · cases h
  · exact ⟨_, _, ‹_›⟩

/-- A run that returns, as far as its result is known. -/
theorem exists_context {α : Type} {f : Context → α} {a : α}
    (h : (r.execute w m world).1.map (Option.map f) = .ok (some a)) :
    ∃ context world', r.execute w m world = (.ok (some context), world') ∧ f context = a := by
  rcases hrun : r.execute w m world with ⟨result, world'⟩
  rw [hrun] at h
  rcases result with fault | _ | context
  · cases h
  · cases h
  · cases h
    exact ⟨context, world', rfl, rfl⟩

/-- Without conditions, the visits that do not fail leave by the first slot. -/
theorem visits_leave_first
    (hmatch : Trigger.first? m.content w.triggers = .ok (some (trigger, captures)))
    (hkinds : ∀ n ∈ w.nodes, n.body.kind ≠ .condition)
    (hfails : ∀ v ∈ r.visits w m world, v.outcome ≠ .fails) :
    ∀ v ∈ r.visits w m world, v.outcome = .leaves .first := by
  intro v hv
  have hfirst : ∀ v ∈ r.visits w m world, v.outcome ≠ .fails → v.outcome = .leaves .first := by
    rw [visits_of_match hmatch]
    -- the trail holds visits of nodes of the workflow only, and none of these is a condition
    refine Workflow.forall_trail ?_ _ _
    intro n s hn
    exact visit_slot (hkinds n (Workflow.mem_of_node? hn))
  exact hfirst v hv (hfails v hv)

/-! ## Small runs

Runs of small workflows, on which the hypotheses of the theorems below hold. -/

/-- A trigger that the word in `sampleMessage` sets off. -/
def sampleTrigger : Node := ⟨"t", none, none, .trigger ⟨"exact", "go", "", []⟩, []⟩

/-- A node that sets a variable. -/
def sampleStep (id : Text) : Node := ⟨id, none, none, .setVar ⟨"v", "1", []⟩, []⟩

/-- A node that fails, since no key of a store has half a surrogate pair. -/
def sampleFailure : Node :=
  ⟨"x", none, none, .storage ⟨.shared .get, [.surrogate 0], [], "v", .null, []⟩, []⟩

/-- The workflow of a trigger and some other nodes. -/
def sampleFlow (nodes : List Node) (connections : List Connection) : Workflow :=
  ⟨"w", "w", "exact", "go", true, false, sampleTrigger :: nodes, connections, []⟩

def sampleMessage : Message := ⟨⟨"u", none, .single, "go", [], [], [], []⟩, "go"⟩

def sampleWorld : World := ⟨⟨0⟩, ⟨[], 0⟩, .empty, [], [], [], [], []⟩

def sampleRunner : Runner := ⟨.recorder [] none, [], "workflow"⟩

/-- The trigger leads to a node that fails and to one that does not. -/
def sampleFork : Workflow :=
  sampleFlow [sampleFailure, sampleStep "a"]
    [⟨"t", "x", .first⟩, ⟨"x", "t", .first⟩, ⟨"t", "a", .first⟩]

/-- Two ways lead from the trigger to one node. -/
def sampleDiamond : Workflow :=
  sampleFlow [sampleStep "a", sampleStep "b", sampleStep "c"]
    [⟨"t", "a", .first⟩, ⟨"t", "b", .first⟩, ⟨"a", "c", .first⟩, ⟨"b", "c", .first⟩]

/-- A node leads back to itself. -/
def sampleLoop : Workflow :=
  sampleFlow [sampleStep "a"] [⟨"t", "a", .first⟩, ⟨"a", "a", .first⟩]

/-! ## The tree of a run -/

/-- A run that returns has made the visits of a tree in preorder, each in the scene that the ones before
it left. The tree has the trigger at its root and follows the connections; no branch comes back to an id
or is longer than 64 visits. The run has noted all visits, and those that failed. -/
theorem execute_tree (hdiffer : Workflow.idsDiffer w.nodes)
    (h : r.execute w m world = (.ok (some context), world')) :
    ∃ trigger captures, Trigger.first? m.content w.triggers = .ok (some (trigger, captures)) ∧
      ∃ t : VisitTree, t.root.node = trigger ∧ t.Follows w ∧
        (∀ vs, t.Branch vs → (vs.map (·.node.id)).Nodup ∧ vs.length ≤ 64) ∧
        r.visits w m world = t.preorder ∧
        context.executed = t.preorder.map (·.node.id) ∧
        context.failed = (t.preorder.filter fun v => v.outcome = .fails).map (·.node.id) ∧
        Threads (r.visit w m) (r.opening w m world trigger captures) t.preorder
          ⟨world', context⟩ := by
  obtain ⟨trigger, captures, hmatch⟩ := exists_match h
  have hnode := Workflow.node?_of_mem hdiffer (trigger_mem hmatch)
  have hwalk := (execute_eq_ok_iff hmatch).mp h
  obtain ⟨t, hroot, hfollows, hfits, hthreads, htrail⟩ := Workflow.exists_tree hnode hwalk
  -- nothing is noted before the first visit, so the notes are those of the visits
  have hnotes := threads_notes hthreads
  refine ⟨trigger, captures, hmatch, t, hroot, hfollows, ?_, ?_, ?_, ?_, hthreads⟩
  · intro vs hvs
    obtain ⟨hnodup, -, hlength⟩ := hfits vs hvs
    exact ⟨hnodup, hlength⟩
  · rw [visits_of_match hmatch, htrail]
  · exact congrArg (fun notes => notes.2.1) hnotes
  · exact congrArg (fun notes => notes.2.2) hnotes

/-- Such a tree, with a node that fails and leads nowhere. -/
theorem execute_tree_of_fork :
    ∃ t : VisitTree, t.root.node = sampleTrigger ∧ t.Follows sampleFork ∧
      t.preorder.map (·.node.id) = ["t", "x", "a"] ∧
      (t.preorder.filter fun v => v.outcome = .fails).map (·.node.id) = ["x"] := by
  have hresult : (sampleRunner.execute sampleFork sampleMessage sampleWorld).1.map
      (Option.map fun context => (context.executed, context.failed)) =
        .ok (some (["t", "x", "a"], ["x"])) := rfl
  obtain ⟨context, world', hrun, hnotes⟩ := exists_context hresult
  obtain ⟨trigger, captures, hmatch, t, hroot, hfollows, -, -, hexecuted, hfailed, -⟩ :=
    execute_tree (by decide) hrun
  cases hmatch
  obtain ⟨hids, hfailures⟩ := Prod.mk.inj hnotes
  exact ⟨t, hroot, hfollows, hexecuted.symm.trans hids, hfailed.symm.trans hfailures⟩

/-! ## Runs that end as a whole -/

/-- Without conditions and failures, a run ends as a whole exactly if there is a path from the trigger
that it may not go, and else returns. -/
theorem execute_error_iff
    (hmatch : Trigger.first? m.content w.triggers = .ok (some (trigger, captures)))
    (hkinds : ∀ n ∈ w.nodes, n.body.kind ≠ .condition)
    (hfails : ∀ v ∈ r.visits w m world, v.outcome ≠ .fails) :
    ((∃ fault, (r.execute w m world).1 = .error (.walk w.id fault)) ↔
      ∃ path last, w.Offends trigger.id path last) ∧
    ((∃ context, (r.execute w m world).1 = .ok (some context)) ↔
      ¬ ∃ path last, w.Offends trigger.id path last) := by
  have hfirst := visits_leave_first hmatch hkinds hfails
  rw [visits_of_match hmatch] at hfirst
  have herror : (∃ fault, (r.execute w m world).1 = .error (.walk w.id fault)) ↔
      ∃ path last, w.Offends trigger.id path last := by
    rw [execute_error_iff_walk hmatch]
    exact Workflow.walkFrom_error_iff hfirst
  refine ⟨herror, ?_⟩
  rw [execute_ok_iff_not_error hmatch, herror]

/-- A run that ends as a whole. -/
theorem execute_error_iff_of_loop :
    ∃ fault, (sampleRunner.execute sampleLoop sampleMessage sampleWorld).1 =
      .error (.walk "w" fault) := by
  have hmatch : Trigger.first? sampleMessage.content sampleLoop.triggers =
      .ok (some (sampleTrigger, [])) := rfl
  have hkinds : ∀ n ∈ sampleLoop.nodes, n.body.kind ≠ .condition := by decide
  have hvisits : (sampleRunner.visits sampleLoop sampleMessage sampleWorld).all
      (fun v => v.outcome ≠ .fails) = true := rfl
  -- from the trigger to the node, and from the node to itself
  have hoffends : sampleLoop.Offends "t" ["t", "a"] "a" :=
    { head := rfl
      chain := by decide
      nodes := by decide
      distinct := by decide
      ends := by decide }
  have hiff := execute_error_iff hmatch hkinds fun v hv =>
    of_decide_eq_true (List.all_eq_true.mp hvisits v hv)
  exact hiff.1.mpr ⟨_, _, hoffends⟩

/-! ## Visits and walks -/

/-- Without conditions and failures, a run that returns has visited a node once for each walk from the
trigger to it, in the lexicographic order of these walks. -/
theorem execute_enumerates
    (hmatch : Trigger.first? m.content w.triggers = .ok (some (trigger, captures)))
    (hkinds : ∀ n ∈ w.nodes, n.body.kind ≠ .condition)
    (hfails : ∀ v ∈ r.visits w m world, v.outcome ≠ .fails)
    (h : r.execute w m world = (.ok (some context), world')) :
    (∃ ps, w.Enumerates trigger.id ps context.executed) ∧
      ∀ last, {p | w.Leads trigger.id p last}.encard = context.executed.count last := by
  obtain ⟨n, hn⟩ := Option.isSome_iff_exists.mp (Workflow.node?_isSome (trigger_mem hmatch))
  have hwalk := (execute_eq_ok_iff hmatch).mp h
  obtain ⟨t, hroot, hfollows, -, hthreads, htrail⟩ := Workflow.exists_tree hn hwalk
  have hexecuted : context.executed = t.preorder.map (·.node.id) :=
    congrArg (fun notes => notes.2.1) (threads_notes hthreads)
  have hfirst := visits_leave_first hmatch hkinds hfails
  rw [visits_of_match hmatch, htrail] at hfirst
  obtain ⟨ps, hps⟩ := hfollows.enumerates hfirst
  rw [← hexecuted, hroot, Workflow.id_of_node? hn] at hps
  exact ⟨⟨ps, hps⟩, hps.encard_eq_count⟩

/-- Two walks lead to the node where two ways meet. -/
theorem execute_enumerates_of_diamond : {p | sampleDiamond.Leads "t" p "c"}.encard = 2 := by
  have hmatch : Trigger.first? sampleMessage.content sampleDiamond.triggers =
      .ok (some (sampleTrigger, [])) := rfl
  have hkinds : ∀ n ∈ sampleDiamond.nodes, n.body.kind ≠ .condition := by decide
  have hvisits : (sampleRunner.visits sampleDiamond sampleMessage sampleWorld).all
      (fun v => v.outcome ≠ .fails) = true := rfl
  have hresult : (sampleRunner.execute sampleDiamond sampleMessage sampleWorld).1.map
      (Option.map fun context => context.executed) = .ok (some ["t", "a", "c", "b", "c"]) := rfl
  obtain ⟨context, world', hrun, hexecuted⟩ := exists_context hresult
  have hwalks := execute_enumerates hmatch hkinds
    (fun v hv => of_decide_eq_true (List.all_eq_true.mp hvisits v hv)) hrun
  refine (hwalks.2 "c").trans ?_
  rw [hexecuted]
  rfl

/-! ## Nodes that fail -/

/-- A run does not need the connections that leave some nodes if all of its visits to them fail: it
ends alike and leaves the same without them. -/
theorem execute_withoutExits {F : Set Text} [DecidablePred (· ∈ F)]
    (h : ∀ v ∈ r.visits w m world, v.node.id ∈ F → v.outcome = .fails) :
    r.execute (w.withoutExits F) m world = r.execute w m world ∧
      r.traversal? (w.withoutExits F) m world = r.traversal? w m world := by
  rcases hfirst : Trigger.first? m.content w.triggers with fault | _ | ⟨trigger, captures⟩
  · simp only [execute, traversal?, Workflow.triggers_withoutExits, hfirst, and_self]
  · simp only [execute, traversal?, Workflow.triggers_withoutExits, hfirst, and_self]
  · rw [visits_of_match hfirst] at h
    have hwalk := Workflow.walkFrom_withoutExits h
    -- the same trigger is set off, so both runs begin in the same scene
    have hfirst' : Trigger.first? m.content (w.withoutExits F).triggers =
        .ok (some (trigger, captures)) := hfirst
    constructor
    · rw [execute_of_match hfirst', execute_of_match hfirst]
      exact congrArg (fun walk => Prod.map (Except.map some) id (finish w walk)) hwalk
    · rw [traversal?, traversal?, hfirst', hfirst]
      exact congrArg some hwalk

/-- Without the connection that leads from a failing node back to the trigger, nothing changes. -/
theorem execute_withoutExits_of_fork :
    sampleRunner.execute (sampleFork.withoutExits {id | id = "x"}) sampleMessage sampleWorld =
      sampleRunner.execute sampleFork sampleMessage sampleWorld := by
  have hvisits : (sampleRunner.visits sampleFork sampleMessage sampleWorld).all
      (fun v => v.node.id = "x" → v.outcome = .fails) = true := rfl
  exact (execute_withoutExits fun v hv hid =>
    of_decide_eq_true (List.all_eq_true.mp hvisits v hv) hid).1

end ChatFlow.Runner
