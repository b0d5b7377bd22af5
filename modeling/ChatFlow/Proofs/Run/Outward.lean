import ChatFlow.Proofs.Outlet.Confined
import ChatFlow.Proofs.Run.Effects
import ChatFlow.Proofs.Run.Rows

/-!
# What runs do outwardly

All that a run does outwardly is done at its visits, and what a visit does is up to the node. So what is recorded
behind a run is what was recorded before it, and then, visit by visit, what the nodes did. A run over a chat may render
anything into its calls, and make them from any node. Still all that it posts goes to that chat, except what its nodes
post by calling the chat program by name, or by taking a message back.

* `Recorded`: what is recorded between two records, node by node.
* `Runner.executeEffects`, `Runner.executeScheduledEffects`, `Runner.handleEffects`: what runs of each kind do, node by
  node.
* `Runner.execute_recorded`, `Runner.executeScheduled_recorded`, `Runner.handle_recorded`: that is all that they do, and
  each node does only what its body may do.
* `Runner.RunsWithin`: in all runs of a runner, each node does only what it may do.
* `Node.Calls`: what a node posts is the action of a call that its body makes.
* `Runner.posts_addressed`: runs over the chat of a message or of a target.
-/

namespace ChatFlow

/-- Between two records, nodes have done these things one after the other, and each of them what it may do. -/
structure Recorded (E : Node → Effect → Prop) (before : List Effect) (parts : List (Node × List Effect))
    (after : List Effect) : Prop where
  effects : after = before ++ parts.flatMap Prod.snd
  each : ∀ part ∈ parts, ∀ e ∈ part.2, E part.1 e

namespace Recorded

variable {E : Node → Effect → Prop} {es fs gs : List Effect} {parts more : List (Node × List Effect)}

theorem nil (es : List Effect) : Recorded E es [] es := by
  constructor
  · exact (List.append_nil es).symm
  · intro part hpart
    cases hpart

theorem append (h : Recorded E es parts fs) (h' : Recorded E fs more gs) : Recorded E es (parts ++ more) gs := by
  constructor
  · rw [h'.effects, h.effects, List.flatMap_append, List.append_assoc]
  · intro part hpart
    rcases List.mem_append.mp hpart with hpart | hpart
    · exact h.each part hpart
    · exact h'.each part hpart

end Recorded

namespace Runner

variable {r : Runner} {w : Workflow} {m : Message} {E : Node → Effect → Prop} {s s' : Scene} {vs : List Visit}

/-! ## Visits -/

/-- What a visit does outwardly. -/
def visitEffects (r : Runner) (w : Workflow) (m : Message) (n : Node) (s : Scene) : List Effect :=
  (r.visit w m n s).2.world.effects.drop s.world.effects.length

/-- A visit does what the body of its node does. -/
theorem visit_recorded {n : Node} (hbody : Act.Does (E n) (r.perform m n.body)) (w : Workflow) (s : Scene) :
    Recorded E s.world.effects [(n, r.visitEffects w m n s)] (r.visit w m n s).2.world.effects := by
  obtain ⟨es, heffects, hes⟩ := hbody (noteExecuted n s)
  -- the notes of a visit are no effects, whether it fails or not
  have hvisit : (r.visit w m n s).2.world.effects = s.world.effects ++ es := by
    unfold visit
    rcases hrun : (r.perform m n.body).run.run (noteExecuted n s) with ⟨result, s₁⟩
    rw [hrun] at heffects
    cases result with
    | ok slot => exact heffects
    | error fault => exact heffects
  have hdone : r.visitEffects w m n s = es := by
    rw [visitEffects, hvisit]
    exact List.drop_left
  rw [hvisit, hdone]
  constructor
  · simp
  · intro part hpart
    rw [List.mem_singleton.mp hpart]
    exact hes

/-- What visits do outwardly that are made one after the other, node by node. -/
def visitsEffects (r : Runner) (w : Workflow) (m : Message) : Scene → List Visit → List (Node × List Effect)
  | _, [] => []
  | s, v :: vs => (v.node, r.visitEffects w m v.node s) :: visitsEffects r w m (r.visit w m v.node s).2 vs

theorem threads_recorded (hbody : ∀ n, Act.Does (E n) (r.perform m n.body)) (h : Threads (r.visit w m) s vs s') :
    Recorded E s.world.effects (r.visitsEffects w m s vs) s'.world.effects := by
  induction h with
  | nil s => exact .nil _
  | @cons s s₁ s₂ v vs hv _ ih =>
      have hfirst := visit_recorded (hbody v.node) w s
      -- the later visits begin with the record that the first one has left
      rw [visitsEffects]
      rw [hv] at hfirst ⊢
      exact hfirst.append ih

/-! ## Runs -/

/-- What a run does that a message sets off, node by node. -/
def executeEffects (r : Runner) (w : Workflow) (m : Message) (world : World) : List (Node × List Effect) :=
  match Trigger.first? m.content w.triggers with
  | .ok (some (trigger, captures)) =>
    r.visitsEffects w m (r.opening w m world trigger captures) (r.visits w m world)
  | _ => []

theorem execute_recorded (hbody : ∀ n, Act.Does (E n) (r.perform m n.body)) (w : Workflow) (world : World) :
    Recorded E world.effects (r.executeEffects w m world) (r.execute w m world).2.effects := by
  rcases hfirst : Trigger.first? m.content w.triggers with fault | _ | ⟨trigger, captures⟩
  · rw [execute, executeEffects, hfirst]
    exact .nil _
  · rw [execute, executeEffects, hfirst]
    exact .nil _
  · have hthreads := Threads.trail w (r.visit w m) trigger.id (r.opening w m world trigger captures)
    have hrecorded := threads_recorded hbody hthreads
    rw [execute_of_match hfirst, executeEffects, hfirst, visits_of_match hfirst, Prod.map_snd, finish_world]
    exact hrecorded

/-- What a run does that the clock sets off, node by node. -/
def executeScheduledEffects (r : Runner) (w : Workflow) (e : Event) (world : World) : List (Node × List Effect) :=
  r.visitsEffects w ⟨e, []⟩ ⟨world, .start []⟩ (r.scheduledVisits w e world)

theorem executeScheduled_recorded {e : Event} (hbody : ∀ n, Act.Does (E n) (r.perform ⟨e, []⟩ n.body)) (w : Workflow)
    (world : World) :
    Recorded E world.effects (r.executeScheduledEffects w e world) (r.executeScheduled w e world).2.effects := by
  have hrecorded := threads_recorded hbody (r.threads_scheduled w e world)
  simp only [executeScheduled, finish_world]
  exact hrecorded

/-! ## Runs of several workflows -/

/-- What the runs of several workflows do one after the other, node by node. -/
def executeAllEffects (r : Runner) (m : Message) : List Workflow → World → List (Node × List Effect)
  | [], _ => []
  | w :: rest, world =>
    (if w.enabled then r.executeEffects w m world else []) ++
      match r.executeAll m [w] world with
      | (true, _) => []
      | (false, world) => executeAllEffects r m rest world

theorem executeOne_recorded (hbody : ∀ n, Act.Does (E n) (r.perform m n.body)) (w : Workflow) (world : World) :
    Recorded E world.effects (if w.enabled then r.executeEffects w m world else [])
      (r.executeAll m [w] world).2.effects := by
  have hrecorded := execute_recorded hbody w world
  cases henabled : w.enabled with
  | false =>
      simp only [executeAll, henabled, Bool.false_eq_true, if_false]
      exact .nil _
  | true =>
      rcases hrun : r.execute w m world with ⟨fault | _ | context, world'⟩
      · -- that a run ended as a whole is noted, which is nothing outward
        rw [hrun] at hrecorded
        simpa [executeAll, henabled, hrun, World.log] using hrecorded
      · rw [hrun] at hrecorded
        simpa [executeAll, henabled, hrun] using hrecorded
      · rw [hrun] at hrecorded
        cases hstop : w.stopPropagation with
        | false => simpa [executeAll, henabled, hrun, hstop] using hrecorded
        | true => simpa [executeAll, henabled, hrun, hstop] using hrecorded

theorem executeAll_recorded (hbody : ∀ n, Act.Does (E n) (r.perform m n.body)) (ws : List Workflow) (world : World) :
    Recorded E world.effects (r.executeAllEffects m ws world) (r.executeAll m ws world).2.effects := by
  induction ws generalizing world with
  | nil => exact .nil _
  | cons w ws ih =>
      have hfirst := executeOne_recorded hbody w world
      rw [executeAll_cons, executeAllEffects]
      rcases hone : r.executeAll m [w] world with ⟨stops, world₁⟩
      rw [hone] at hfirst
      -- a workflow that lets no later one run ends the record
      cases stops with
      | true => exact hfirst.append (.nil _)
      | false => exact hfirst.append (ih world₁)

/-- What the runs for an event do, node by node. -/
def handleEffects (r : Runner) (enabled : Bool) (ws : List Workflow) (e : Event) (world : World) :
    List (Node × List Effect) :=
  if !enabled || e.raw.trim.isEmpty then [] else r.executeAllEffects ⟨e, e.raw.trim⟩ ws world

theorem handle_recorded {e : Event} (hbody : ∀ n, Act.Does (E n) (r.perform ⟨e, e.raw.trim⟩ n.body)) (enabled : Bool)
    (ws : List Workflow) (world : World) :
    Recorded E world.effects (r.handleEffects enabled ws e world) (r.handle enabled ws e world).2.effects := by
  unfold handle handleEffects
  dsimp only
  split
  · exact .nil _
  · exact executeAll_recorded hbody ws world

end Runner

/-! ## All runs of a runner -/

/-- In every run, whatever sets it off and however it ends, all that is done is done by the nodes that are visited, and
each of them does only what it may do. -/
structure Runner.RunsWithin (r : Runner) (E : Node → Effect → Prop) : Prop where
  execute : ∀ w m world,
    Recorded E world.effects (r.executeEffects w m world) (r.execute w m world).2.effects
  executeScheduled : ∀ w e world,
    Recorded E world.effects (r.executeScheduledEffects w e world) (r.executeScheduled w e world).2.effects
  handle : ∀ enabled ws e world,
    Recorded E world.effects (r.handleEffects enabled ws e world) (r.handle enabled ws e world).2.effects

theorem Runner.runsWithin {r : Runner} {E : Node → Effect → Prop}
    (hbody : ∀ m n, Act.Does (E n) (r.perform m n.body)) : r.RunsWithin E where
  execute := fun w m world => execute_recorded (hbody m) w world
  executeScheduled := fun w e world => executeScheduled_recorded (hbody ⟨e, []⟩) w world
  handle := fun enabled ws e world => handle_recorded (hbody ⟨e, e.raw.trim⟩) enabled ws world

/-! ## Calls of nodes -/

/-- If the node has posted something, it is the action of a call that its body makes. Unless the call is one by name, or
one that takes a message back, the action has a property. -/
def Node.Calls (k : Connector) (c : Chat) (A : Action → Prop) (n : Node) (e : Effect) : Prop :=
  ∀ p, e = .posted p → ∃ call a, n.body.Makes call ∧ c.action call = .ok (some a) ∧ k.Posts a p ∧
    (call.openKind? = none → A a)

namespace Node

variable {k : Connector} {c : Chat} {A : Action → Prop} {n : Node}

theorem permits_calls : Effect.Permits (n.Calls k c A) := by
  constructor
  · rintro seconds p ⟨⟩
  · rintro request p ⟨⟩
  · rintro action value p ⟨⟩

/-- A call of the node posts its action or nothing. -/
theorem does_ask {call : Call} (hA : ∀ a, c.Confines a → A a) (hmakes : n.body.Makes call) :
    Act.Does (n.Calls k c A) (Act.ask (.connected k c) call) := by
  intro s
  show Effect.Adds _ s.world.effects ((Outlet.connected k c).perform call s.world).2.effects
  rcases Outlet.effects_perform k c call s.world with hnone | ⟨a, p, haction, hp, hposted⟩
  · rw [hnone]
    exact .refl _
  · rw [hposted]
    apply Effect.Adds.one
    rintro _ ⟨⟩
    refine ⟨call, a, hmakes, haction, hp, ?_⟩
    intro hopen
    exact hA a (Chat.confines_action hopen haction)

end Node

/-- All runs over a chat post actions that stay in it, but for calls by name and messages that are taken back. -/
theorem Runner.runsWithin_calls {k : Connector} {c : Chat} {A : Action → Prop} (hA : ∀ a, c.Confines a → A a)
    (handled : List Text) (component : Text) :
    Runner.RunsWithin ⟨.connected k c, handled, component⟩ fun n => n.Calls k c A := by
  apply runsWithin
  intro m n
  apply does_perform Node.permits_calls
  intro call hmakes
  exact Node.does_ask hA hmakes

/-! ## Messages and targets -/

/-- All runs over the chat of a message post to its group if the message is from a group that it names, and else to
its sender and to no group; then they do not moderate either. All runs over the chat of a target do so with the target,
and poke nobody. The only exceptions are what actions post that call by name or take a message back. -/
theorem Runner.posts_addressed (k : Connector) (handled : List Text) (component : Text) :
    (∀ e : Event, Runner.RunsWithin ⟨.connected k (.ofEvent e), handled, component⟩ fun n =>
      n.Calls k (.ofEvent e) fun a =>
        (∀ g, e.kind = .group ∧ e.groupId = some g ∧ g ≠ [] → a.ToGroup g) ∧
        ((¬ ∃ g, e.kind = .group ∧ e.groupId = some g ∧ g ≠ []) →
          a.ToUser e.userId ∧ a.name ∉ Action.moderations)) ∧
    (∀ kind id : Text, Runner.RunsWithin ⟨.connected k (.ofTarget kind id), handled, component⟩ fun n =>
      n.Calls k (.ofTarget kind id) fun a =>
        (kind = "group" ∧ id ≠ [] → a.ToGroup id) ∧
        (¬ (kind = "group" ∧ id ≠ []) → a.ToUser id ∧ a.name ∉ Action.moderations) ∧ ¬ a.Pokes) := by
  constructor
  · intro e
    apply runsWithin_calls
    intro a ha
    constructor
    · intro g hg
      exact ha.group g ((Chat.groupName?_ofEvent_iff e g).mpr hg)
    · intro hnone
      have huser := ha.user (Option.eq_none_iff_forall_ne_some.mpr fun g hg =>
        hnone ⟨g, (Chat.groupName?_ofEvent_iff e g).mp hg⟩)
      exact ⟨huser, huser.not_mem_moderations⟩
  · intro kind id
    apply runsWithin_calls
    intro a ha
    refine ⟨?_, ?_, ha.poke rfl⟩
    · rintro ⟨hkind, hid⟩
      exact ha.group id ((Chat.groupName?_ofTarget_iff kind id id).mpr ⟨hkind, rfl, hid⟩)
    · intro hnone
      have huser := ha.user (Option.eq_none_iff_forall_ne_some.mpr fun g hg => by
        obtain ⟨hkind, rfl, hid⟩ := (Chat.groupName?_ofTarget_iff kind id g).mp hg
        exact hnone ⟨hkind, hid⟩)
      exact ⟨huser, huser.not_mem_moderations⟩

/-- A node for an action of a kind. -/
def Runner.sampleAction (id kind value : Text) : Node :=
  ⟨id, none, none, .action { (default : ActionData) with kind := kind, value := value }, []⟩

/-- A message from a group sets off a reply and a ban, each of which is posted at its node. -/
example :
    let e : Event := { Runner.sampleMessage.event with kind := .group, groupId := some "g" }
    let w := Runner.sampleFlow [Runner.sampleAction "a" "reply_text" "hi", Runner.sampleAction "b" "group_ban" ""]
      [⟨"t", "a", .first⟩, ⟨"a", "b", .first⟩]
    (Runner.executeEffects ⟨.connected ⟨"http://h", []⟩ (.ofEvent e), [], "workflow"⟩ w ⟨e, "go"⟩
      Runner.sampleWorld).map (fun part => (part.1.id, part.2.length)) =
        ([("t", 0), ("a", 1), ("b", 1)] : List (Text × Nat)) := by
  decide +kernel

end ChatFlow
