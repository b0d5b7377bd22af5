import ChatFlow.Proofs.Outlet.Confined
import ChatFlow.Proofs.Run.Alike
import ChatFlow.Proofs.Template.Names

/-!
# What steps of a run do outwardly

Whatever a step does outwardly is recorded behind what was done before, also when the step fails. Only calls, waits,
requests and actions with handlers of their own do anything; all else that bodies of nodes are put together from does
nothing outwardly.

* `Effect.Adds`: what was added to a record; `Act.Does`: all that a step does has a property.
* `Call.IsOf`: the calls that actions of a kind make.
* `Act.does_act`, `Runner.does_perform`: what an action and the body of a node do is up to their calls.
-/

namespace ChatFlow

variable {α β : Type} {E : Effect → Prop}

namespace Effect

/-- Only things with a property have been added behind a record. -/
def Adds (E : Effect → Prop) (before after : List Effect) : Prop := ∃ es, after = before ++ es ∧ ∀ e ∈ es, E e

variable {before after last : List Effect}

theorem Adds.refl (before : List Effect) : Adds E before before := by
  refine ⟨[], (List.append_nil before).symm, ?_⟩
  intro e he
  cases he

theorem Adds.one {e : Effect} (he : E e) : Adds E before (before ++ [e]) := by
  refine ⟨[e], rfl, ?_⟩
  intro e' he'
  rw [List.mem_singleton.mp he']
  exact he

theorem Adds.trans (h : Adds E before after) (h' : Adds E after last) : Adds E before last := by
  obtain ⟨es, rfl, hes⟩ := h
  obtain ⟨fs, rfl, hfs⟩ := h'
  refine ⟨es ++ fs, List.append_assoc before es fs, ?_⟩
  intro e he
  rcases List.mem_append.mp he with he | he
  · exact hes e he
  · exact hfs e he

end Effect

open Effect (Adds)

namespace Act

/-- All that the step does outwardly has a property. -/
def Does (E : Effect → Prop) (a : Act α) : Prop := ∀ s, Adds E s.world.effects (a.run.run s).2.world.effects

/-! ## Steps that are put together -/

/-- A step that leaves the record as it is does nothing. -/
theorem does_of_keeps {a : Act α} (h : Keeps (fun s => s.world.effects) a) : Does E a := by
  intro s
  have hsame : (a.run.run s).2.world.effects = s.world.effects := h s
  rw [hsame]
  exact .refl _

theorem does_pure (x : α) : Does E (pure x : Act α) := does_of_keeps fun _ => rfl

theorem does_throw (fault : Fault) : Does E (throw fault : Act α) := does_of_keeps fun _ => rfl

theorem does_lift (r : Except Fault α) : Does E (lift r) := by
  apply does_of_keeps
  intro s
  rw [run_lift]

/-- What is done is done by the first step, and by the second one if it is made. -/
theorem Does.bind {a : Act α} {k : α → Act β} (ha : Does E a) (hk : ∀ x, Does E (k x)) : Does E (a >>= k) := by
  intro s
  have hfirst := ha s
  rw [run_bind]
  rcases hrun : a.run.run s with ⟨fault | x, s'⟩
  · rw [hrun] at hfirst
    exact hfirst
  · rw [hrun] at hfirst
    exact hfirst.trans (hk x s')

theorem Does.tryCatch {a : Act α} {k : Fault → Act α} (ha : Does E a) (hk : ∀ fault, Does E (k fault)) :
    Does E (tryCatch a k) := by
  intro s
  have hfirst := ha s
  rw [run_tryCatch]
  rcases hrun : a.run.run s with ⟨fault | x, s'⟩
  · rw [hrun] at hfirst
    exact hfirst.trans (hk fault s')
  · rw [hrun] at hfirst
    exact hfirst

theorem does_ite {c : Prop} [Decidable c] {a b : Act α} (ha : Does E a) (hb : Does E b) :
    Does E (if c then a else b) := by
  split
  · exact ha
  · exact hb

/-! ## Primitive steps -/

theorem does_world : Does E Act.world := does_of_keeps fun _ => rfl

theorem does_context : Does E Act.context := does_of_keeps fun _ => rfl

theorem does_setVariable (name : Text) (v : Value) : Does E (setVariable name v) := does_of_keeps fun _ => rfl

theorem does_modifyWorld {f : World → World} (h : ∀ w, (f w).effects = w.effects) : Does E (modifyWorld f) :=
  does_of_keeps fun s => h s.world

/-- A step that is recorded. -/
theorem does_record {e : Effect} (he : E e) : Does E (modifyWorld (World.act e)) := fun _ => .one he

theorem does_clock : Does E Act.clock := does_world.bind fun _ => does_pure _

theorem does_stored (owner : Owner) (key : Text) (other : Value) : Does E (stored owner key other) :=
  does_world.bind fun _ => does_lift _

theorem does_roll (choose : Dice → Except Fault (α × Dice)) : Does E (roll choose) := by
  refine does_world.bind fun w => (does_lift _).bind fun ⟨x, d⟩ => ?_
  exact (does_modifyWorld fun _ => rfl).bind fun _ => does_pure x

/-! ## Templates -/

theorem does_render (m : Message) (t : Text) : Does E (render m t) := by
  apply does_of_keeps
  intro s
  obtain ⟨k, hk⟩ := exists_rolled m t s
  dsimp only
  rw [hk]
  rfl

theorem does_renderOptional (m : Message) (t : Text) : Does E (renderOptional m t) :=
  (does_render m t).bind fun _ => does_pure _

theorem does_renderResponse (m : Message) (t : Text) : Does E (renderResponse m t) := by
  refine (does_render m t).bind fun first => does_context.bind fun c => ?_
  split
  · exact does_pure first
  · exact does_lift _

theorem does_renderParams (d : ActionData) (m : Message) : Does E (renderParams d m) := by
  refine (does_render m _).tryCatch fun fault => does_ite ?_ ?_
  · exact does_pure []
  · exact does_throw fault

/-! ## Conditions -/

theorem does_storedEquals (owner : Owner) (separator : CodePoint) (value : Text) :
    Does E (storedEquals owner separator value) := by
  unfold storedEquals
  split
  · exact does_pure false
  · exact (does_stored _ _ _).bind fun v => (does_lift _).bind fun t => does_pure _

theorem does_storedCompares (owner : Owner) (separator : CodePoint) (inOrder : Double → Double → Bool) (value : Text) :
    Does E (storedCompares owner separator inOrder value) := by
  unfold storedCompares
  split
  · exact does_pure false
  · refine (does_stored _ _ _).bind fun v => (does_lift _).bind fun x => ?_
    exact (does_lift _).bind fun y => does_pure _

theorem does_variableCompares (name : Text) (inOrder : Double → Double → Bool) (value : Text) :
    Does E (variableCompares name inOrder value) := by
  refine does_context.bind fun c => (does_lift _).bind fun x => ?_
  exact (does_lift _).bind fun y => does_pure _

theorem does_cooled (user value : Text) : Does E (cooled user value) := by
  refine (does_lift _).bind fun threshold => (does_stored _ _ _).bind fun v => ?_
  refine (does_lift _).bind fun last => does_clock.bind fun now => ?_
  exact (does_lift _).bind fun now => does_pure _

/-- The question that a condition asks is answered without doing anything. -/
theorem does_holdsOf (kind : ConditionKind) (m : Message) (value varName : Text) :
    Does E (holdsOf kind m value varName) := by
  cases kind with
  | contains => exact does_pure _
  | equals => exact does_pure _
  | regex =>
      simp only [holdsOf]
      split
      · exact does_pure false
      · exact (does_lift _).bind fun found => does_pure _
  | random => exact (does_roll _).bind fun x => (does_lift _).bind fun limit => does_pure _
  | userId => exact does_pure _
  | groupId => exact does_pure _
  | varEquals => exact does_context.bind fun c => (does_lift _).bind fun t => does_pure _
  | varGreater => exact does_variableCompares _ _ _
  | varLess => exact does_variableCompares _ _ _
  | dataEquals => exact does_storedEquals _ _ _
  | dataGreater => exact does_storedCompares _ _ _ _
  | dataLess => exact does_storedCompares _ _ _ _
  | dataIsToday =>
      refine (does_stored _ _ _).bind fun v => (does_lift _).bind fun t => ?_
      exact does_clock.bind fun now => does_pure _
  | cooldown => exact does_cooled _ _
  | timeRange => exact does_clock.bind fun now => does_lift _
  | weekdayIn => exact does_clock.bind fun now => does_lift _
  | sharedEquals => exact does_storedEquals _ _ _
  | sharedGreater => exact does_storedCompares _ _ _ _
  | expression => exact does_context.bind fun c => does_pure _

theorem does_holds (d : ConditionData) (m : Message) : Does E (holds d m) := by
  refine (does_render m _).bind fun value => ?_
  split
  · exact does_holdsOf _ m value d.varName
  · exact does_pure true

/-! ## Variables -/

theorem does_randomBetween (x y : Double) : Does E (randomBetween x y) := by
  refine does_ite (does_pure _) ?_
  refine (does_lift _).bind fun a => (does_lift _).bind fun b => ?_
  exact (does_roll _).bind fun n => does_lift _

theorem does_join (op : MathOp) (x y : Double) : Does E (join op x y) := by
  cases op with
  | mod => exact does_ite (does_pure _) (does_lift _)
  | random => exact does_randomBetween x y
  | _ => exact does_pure _

theorem does_compute (d : ActionData) (m : Message) : Does E (compute d m) := by
  have hoperand : ∀ t, Does E (operandOf m t) := fun t => (does_render m _).bind fun _ => does_lift _
  refine (hoperand _).bind fun x => (hoperand _).bind fun y => ?_
  cases MathOp.ofLabel? d.mathKind with
  | some op => exact (does_join op x y).bind fun result => does_setVariable _ _
  | none => exact (does_pure x).bind fun result => does_setVariable _ _

theorem does_editWith (op : TextOp) (pattern first second : Text) : Does E (editWith op pattern first second) := by
  cases op with
  | replace => exact does_ite (does_pure _) ((does_lift _).bind fun t => does_pure _)
  | split => exact (does_setVariable _ _).bind fun _ => (does_setVariable _ _).bind fun _ => does_pure _
  | substring => exact (does_lift _).bind fun t => does_pure _
  | contains => exact (does_setVariable _ _).bind fun _ => does_pure _
  | times => exact (does_lift _).bind fun t => does_pure _
  | _ => exact does_pure _

theorem does_edit (d : ActionData) (m : Message) : Does E (edit d m) := by
  refine (does_render m _).bind fun first => (does_render m _).bind fun second => ?_
  cases TextOp.ofLabel? d.stringKind with
  | some op => exact (does_editWith op _ first second).bind fun result => does_setVariable _ _
  | none => exact (does_pure _).bind fun result => does_setVariable _ _

theorem does_assign (d : SetVarData) (m : Message) : Does E (assign d m) :=
  does_ite (does_pure ()) ((does_render m _).bind fun _ => does_setVariable _ _)

theorem does_weightedPlace (t : Text) (count : Nat) : Does E (weightedPlace t count) := by
  refine (does_lift _).bind fun weights => ?_
  split
  · exact does_pure none
  · exact does_ite (does_pure none) ((does_roll _).bind fun x => does_pure _)

theorem does_pick (d : ListRandomData) (m : Message) : Does E (pick d m) := by
  have hset : ∀ v i, Does E (do setVariable d.resultVar v; setVariable d.indexVar i) :=
    fun v i => (does_setVariable _ v).bind fun _ => does_setVariable _ i
  refine (does_render m _).bind fun t => does_ite (hset _ _) ?_
  refine (does_weightedPlace _ _).bind fun place => ?_
  split
  · exact (does_pure _).bind fun i => hset _ _
  · exact ((does_roll _).bind fun _ => does_pure _).bind fun i => hset _ _

/-! ## Stored values -/

theorem does_storeValue (owner : Owner) (key : Text) (v : Value) : Does E (storeValue owner key v) :=
  does_modifyWorld fun _ => rfl

theorem does_addAmount (owner : Owner) (key text : Text) (other : Value) (opposite : Bool) :
    Does E (addAmount owner key text other opposite) := by
  refine (does_lift _).bind fun amount => (does_lift _).bind fun start => ?_
  refine does_world.bind fun w => (does_lift _).bind fun ⟨v, store⟩ => ?_
  exact (does_modifyWorld fun _ => rfl).bind fun _ => does_pure v

theorem does_doShared (op : SharedOp) (owner : Owner) (key text : Text) (other : Value) :
    Does E (doShared op owner key text other) := by
  cases op with
  | get => exact does_stored owner key other
  | set => exact (does_lift _).bind fun v => (does_storeValue owner key v).bind fun _ => does_pure _
  | incr => exact does_addAmount owner key text other false
  | decr => exact does_addAmount owner key text other true

theorem does_removeStored (user key : Text) : Does E (removeStored user key) :=
  does_world.bind fun _ => (does_lift _).bind fun _ => does_modifyWorld fun _ => rfl

theorem does_doUser (op : UserOp) (user key text : Text) (other : Value) : Does E (doUser op user key text other) := by
  cases op with
  | shared op => exact does_doShared op (.user user) key text other
  | delete => exact (does_removeStored user key).bind fun _ => does_pure _

theorem does_storeWith {Op : Type} (d : StorageData Op) (m : Message) {perform : (key text : Text) → Act Value}
    (hperform : ∀ key text, Does E (perform key text)) : Does E (storeWith d m perform) := by
  refine (does_render m _).bind fun key => does_ite (does_pure ()) ?_
  refine (does_render m _).bind fun text => (hperform key text).bind fun v => ?_
  exact does_setVariable _ v

theorem does_leaderboard (d : LeaderboardData) (m : Message) : Does E (leaderboard d m) := by
  refine (does_render m _).bind fun key => does_world.bind fun w => ?_
  cases d.query with
  | top =>
      refine (does_lift _).bind fun entries => ?_
      exact (does_setVariable _ _).bind fun _ => does_setVariable _ _
  | myRank =>
      refine (does_lift _).bind fun rank => (does_setVariable _ _).bind fun _ => ?_
      exact (does_setVariable _ _).bind fun _ => does_setVariable _ _
  | count => exact (does_lift _).bind fun n => does_setVariable _ _

/-! ## Requests -/

theorem does_request (d : ActionData) (m : Message) : Does E (request d m) := by
  have hheaders : ∀ headers more, Does E (addHeaders m headers more) := by
    intro headers more
    induction more generalizing headers with
    | nil => exact does_pure headers
    | cons header rest ih => exact (does_render m _).bind fun v => ih _
  have hbody : ∀ method body, Does E (bodyFor m method body) :=
    fun method body => does_ite (does_pure none) ((does_render m _).bind fun t => does_pure _)
  refine (does_render m _).bind fun url => (does_lift _).bind fun headers => ?_
  exact (hheaders _ _).bind fun headers => (hbody _ _).bind fun body => does_pure _

theorem does_keepResponse (kind : ResponseKind) (url : Text) (r : Web.Response) : Does E (keepResponse kind url r) := by
  refine (does_setVariable _ _).bind fun _ => (does_setVariable _ _).bind fun _ => ?_
  exact (does_setVariable _ _).bind fun _ => does_setVariable _ _

end Act

theorem World.effects_askWeb (w : World) (request : Web.Request) :
    (w.askWeb request).2.effects = w.effects ++ [.requested request] := by
  unfold askWeb
  dsimp only
  split
  · rfl
  · rfl

/-! ## Calls -/

/-- Actions of a kind make the call: those that take messages back and those that call by name do just that, and all
others do neither. -/
def Call.IsOf (kind : ActionKind) (c : Call) : Prop :=
  c.openKind? = if kind = .retract ∨ kind = .callApi then some kind else none

/-- What is done beside calls: waits, requests, and actions that are left to handlers of their own. -/
structure Effect.Permits (E : Effect → Prop) : Prop where
  paused : ∀ seconds, E (.paused seconds)
  requested : ∀ request, E (.requested request)
  handled : ∀ action value, E (.handled action value)

namespace Act

variable {o : Outlet}

/-- A call is recorded as it is, or posts its action, or does nothing. -/
theorem does_ask {c : Call} (hasked : ∀ target, E (.asked c target)) (hposted : ∀ p, E (.posted p)) :
    Does E (ask o c) := by
  intro s
  show Adds E s.world.effects (o.perform c s.world).2.effects
  cases o with
  | recorder refused target =>
      unfold Outlet.perform
      dsimp only
      split
      · exact .one (hasked target)
      · split
        · exact .one (hasked target)
        · exact .one (hasked target)
  | connected k chat =>
      rcases Outlet.effects_perform k chat c s.world with hnone | ⟨a, p, -, -, heffects⟩
      · rw [hnone]
        exact .refl _
      · rw [heffects]
        exact .one (hposted p)

theorem does_tell {c : Call} (h : Does E (ask o c)) : Does E (tell o c) := h.bind fun _ => does_pure ()

section Bound

variable (ho : ∀ c : Call, c.openKind? = none → Does E (ask o c))
include ho

theorem does_replyText (t : Text) : Does E (replyText o t) := by
  have hsend : ∀ t : Text, Does E (if t.isEmpty then pure () else tell o (.reply t)) :=
    fun t => does_ite (does_pure ()) (does_tell (ho _ rfl))
  unfold replyText
  split
  · exact (does_pure t).bind hsend
  · exact (does_roll _).bind hsend

theorem does_replyJson (t : Text) : Does E (replyJson o t) := by
  unfold replyJson
  split
  · exact does_tell (ho _ rfl)
  · exact does_tell (ho _ rfl)

theorem does_groupBan (d : ActionData) (m : Message) : Does E (groupBan o d m) := by
  refine (does_render m _).bind fun t => (does_lift _).bind fun seconds => ?_
  exact (does_render m _).bind fun user => does_tell (ho _ rfl)

theorem does_groupSetCard (d : ActionData) (m : Message) : Does E (groupSetCard o d m) :=
  (does_render m _).bind fun _ => (does_render m _).bind fun _ => does_tell (ho _ rfl)

theorem does_replyAs (d : ActionData) (m : Message) (t : Text) (media : Media) : Does E (replyAs o d m t media) := by
  have himage : Does E (renderOptional m d.imageText >>= fun caption => tell o (.replyImage media caption)) :=
    (does_renderOptional m _).bind fun _ => does_tell (ho _ rfl)
  refine does_ite (does_tell (ho _ rfl)) (does_ite himage (does_ite (does_tell (ho _ rfl)) ?_))
  exact does_ite (does_tell (ho _ rfl)) (does_ite (does_tell (ho _ rfl)) (does_pure ()))

theorem does_replyToResponse (d : ActionData) (m : Message) (url : Text) (r : Web.Response) :
    Does E (replyToResponse o d m url r) := by
  refine (does_keepResponse _ _ _).bind fun _ => ?_
  split
  · exact (does_pure _).bind fun t => does_replyAs ho d m t _
  · exact (does_renderResponse m _).bind fun t => does_replyAs ho d m t _

theorem does_askService (hE : Effect.Permits E) (d : ActionData) (m : Message) : Does E (askService o d m) := by
  refine (does_request d m).bind fun request => ?_
  intro s
  have hrequested : Adds E s.world.effects (s.world.askWeb request).2.effects := by
    rw [World.effects_askWeb]
    exact .one (hE.requested request)
  -- what is made of the answer comes behind the request
  simp only [run_bind, run_world]
  rcases hask : s.world.askWeb request with ⟨answer, w⟩
  rw [hask] at hrequested
  cases answer with
  | timeout _ => exact hrequested.trans (does_tell (ho _ rfl) { s with world := w })
  | failure _ => exact hrequested.trans (does_tell (ho _ rfl) { s with world := w })
  | response r => exact hrequested.trans (does_replyToResponse ho d m request.url r { s with world := w })

end Bound

/-- An action that neither takes a message back nor calls by name makes other calls only. -/
theorem does_actAs_bound {kind : ActionKind} (hkind : ¬ (kind = .retract ∨ kind = .callApi)) (hE : Effect.Permits E)
    (ho : ∀ c : Call, c.openKind? = none → Does E (ask o c)) (d : ActionData) (m : Message) (value : Text) :
    Does E (actAs kind o d m value) := by
  have hoptional : ∀ (t : Text) (call : Option Text → Call), (∀ x, (call x).openKind? = none) →
      Does E (renderOptional m t >>= fun x => tell o (call x)) :=
    fun t call hcall => (does_renderOptional m t).bind fun x => does_tell (ho _ (hcall x))
  have htarget : ∀ call : Text → Call, (∀ user, (call user).openKind? = none) →
      Does E (targetUser d m >>= fun user => tell o (call user)) :=
    fun call hcall => (does_render m _).bind fun user => does_tell (ho _ (hcall user))
  cases kind with
  | replyText => exact does_replyText ho value
  | replyImage => exact hoptional _ (fun x => .replyImage (.link value) x) fun _ => rfl
  | replyFace => exact (does_lift _).bind fun _ => does_tell (ho _ rfl)
  | replyJson => exact does_replyJson ho value
  | replyFile => exact hoptional _ (fun x => .replyFile value x) fun _ => rfl
  | retract => exact absurd (.inl rfl) hkind
  | askService => exact does_askService ho hE d m
  | math => exact does_compute d m
  | text => exact does_edit d m
  | groupBan => exact does_groupBan ho d m
  | groupKick => exact htarget (fun user => .groupKick user d.rejectAdd) fun _ => rfl
  | groupSetCard => exact does_groupSetCard ho d m
  | groupSetAdmin => exact htarget (fun user => .groupSetAdmin user d.enableAdmin) fun _ => rfl
  | callApi => exact absurd (.inr rfl) hkind
  | _ => exact does_tell (ho _ rfl)

/-- What an action does is up to the calls of its kind. -/
theorem does_actAs {kind : ActionKind} (hE : Effect.Permits E) (ho : ∀ c : Call, c.IsOf kind → Does E (ask o c))
    (d : ActionData) (m : Message) (value : Text) : Does E (actAs kind o d m value) := by
  by_cases hkind : kind = .retract ∨ kind = .callApi
  · -- these make the one call of their kind, if they come so far
    rcases hkind with rfl | rfl
    · exact does_ite (does_pure ()) (does_tell (ho _ rfl))
    · refine (does_render m _).bind fun name => (does_renderParams d m).bind fun params => ?_
      refine (ho (.callApi name (paramsOf params)) rfl).bind fun v => ?_
      exact does_ite (does_pure ()) (does_setVariable _ _)
  · apply does_actAs_bound hkind hE
    intro c hc
    apply ho
    rw [Call.IsOf, if_neg hkind]
    exact hc

end Act

/-! ## Bodies of nodes -/

/-- The kind of an action, if it is known. -/
def ActionData.actionKind? (d : ActionData) : Option ActionKind :=
  Fields.get? ActionKind.words (Act.orElse d.kind "reply_text")

/-- The calls that a body makes: those of its kind of actions, if it is an action. -/
def NodeBody.Makes (body : NodeBody) (c : Call) : Prop :=
  ∃ d kind, body = .action d ∧ d.actionKind? = some kind ∧ c.IsOf kind

/-- What an action of any name does is up to its calls; one with a handler of its own is left to it. -/
theorem Act.does_act {r : Runner} {d : ActionData} (hE : Effect.Permits E)
    (ho : ∀ c : Call, NodeBody.Makes (.action d) c → Does E (ask r.outlet c)) (m : Message) : Does E (act r d m) := by
  refine does_ite ?_ ?_
  · exact (does_render m _).bind fun value => does_record (hE.handled _ value)
  · split
    · next kind hkind =>
        refine (does_render m _).bind fun value => does_actAs hE ?_ d m value
        intro c hc
        exact ho c ⟨d, kind, rfl, hkind, hc⟩
    · exact does_pure ()

/-- What the body of a node does is up to the calls that it makes. -/
theorem Runner.does_perform {r : Runner} {body : NodeBody} (hE : Effect.Permits E)
    (ho : ∀ c, body.Makes c → Act.Does E (Act.ask r.outlet c)) (m : Message) : Act.Does E (r.perform m body) := by
  cases body with
  | trigger d => exact Act.does_pure _
  | condition d => exact (Act.does_holds d m).bind fun b => Act.does_pure _
  | action d => exact (Act.does_act hE ho m).bind fun _ => Act.does_pure _
  | delay d => exact (Act.does_record (hE.paused _)).bind fun _ => Act.does_pure _
  | setVar d => exact (Act.does_assign d m).bind fun _ => Act.does_pure _
  | storage d =>
      refine (Act.does_storeWith d m fun key text => ?_).bind fun _ => Act.does_pure _
      exact Act.does_doUser d.op m.event.userId key text d.other
  | sharedStorage d =>
      refine (Act.does_storeWith d m fun key text => ?_).bind fun _ => Act.does_pure _
      exact Act.does_doShared d.op .shared key text d.other
  | leaderboard d => exact (Act.does_leaderboard d m).bind fun _ => Act.does_pure _
  | listRandom d => exact (Act.does_pick d m).bind fun _ => Act.does_pure _

end ChatFlow
