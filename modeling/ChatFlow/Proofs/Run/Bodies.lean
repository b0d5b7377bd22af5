import ChatFlow.Proofs.Run.Alike

/-!
# Bodies of nodes do alike

The bodies of nodes are put together from a few primitive steps, and from related scenes they do alike
if these do. Bodies that make calls may make them at different outlets, as long as the calls do alike;
bodies that write stored values do alike if the scenes stay related whatever is stored under their keys.

* `Act.Bond.render`, `Act.Bond.holds`, `Act.Bond.act`: templates, conditions and actions.
* `Act.StoreAt.storeUser`, `Act.StoreAt.storeShared`: the nodes for stored values.
-/

namespace ChatFlow

/-! ## The surroundings -/

theorem Connector.post_keeps (c : Connector) (a : Action) (w : World) :
    (c.post a w).2.clock = w.clock ∧ (c.post a w).2.store = w.store := by
  unfold Connector.post
  split
  · dsimp only
    -- however the action is authorized, posting it leaves the clock and the store alone
    generalize (if c.token.isEmpty then none else some ("Bearer " ++ c.token)) = authorization
    split
    · split <;> exact ⟨rfl, rfl⟩
    · exact ⟨rfl, rfl⟩
  · exact ⟨rfl, rfl⟩

theorem Outlet.perform_keeps (o : Outlet) (c : Call) (w : World) :
    (o.perform c w).2.clock = w.clock ∧ (o.perform c w).2.store = w.store := by
  cases o with
  | recorder refused target =>
      simp only [Outlet.perform]
      split
      · exact ⟨rfl, rfl⟩
      · split <;> exact ⟨rfl, rfl⟩
  | connected connector chat =>
      simp only [Outlet.perform]
      split
      · exact ⟨rfl, rfl⟩
      · exact ⟨rfl, rfl⟩
      · split <;> exact connector.post_keeps _ w

theorem World.askWeb_keeps (w : World) (request : Web.Request) :
    (w.askWeb request).2.clock = w.clock ∧ (w.askWeb request).2.store = w.store ∧
      (w.askWeb request).2.returns = w.returns := by
  simp only [World.askWeb]
  split <;> exact ⟨rfl, rfl, rfl⟩

/-- A request does not look at what calls by name will return. -/
theorem World.askWeb_withReturns (w : World) (returns : List Value) (request : Web.Request) :
    { w with returns := returns }.askWeb request =
      ((w.askWeb request).1, { (w.askWeb request).2 with returns := returns }) := by
  simp only [World.askWeb, World.act]
  split <;> rfl

namespace Context

variable {c d : Context}

theorem get_of_vars (hvars : d.vars = c.vars) (name : Text) : d.get name = c.get name := by
  rw [get, get, hvars]

theorem visible_of_vars (hvars : d.vars = c.vars) : d.visible = c.visible := by
  rw [visible, visible, hvars]

end Context

namespace Act

variable {R : Scene → Scene → Prop}

namespace Bond

variable (hR : Bond R) {o o' : Outlet} (m : Message)
include hR

/-! ## Questions -/

theorem storedEquals (owner : Owner) (separator : CodePoint) (value : Text) :
    Respects R (Act.storedEquals owner separator value) := by
  unfold Act.storedEquals
  split
  · exact respects_pure false
  · refine (hR.stored _ _ _).bind fun v => (respects_lift _).bind fun t => ?_
    exact respects_pure _

theorem storedCompares (owner : Owner) (separator : CodePoint)
    (inOrder : Double → Double → Bool) (value : Text) :
    Respects R (Act.storedCompares owner separator inOrder value) := by
  unfold Act.storedCompares
  split
  · exact respects_pure false
  · refine (hR.stored _ _ _).bind fun v => (respects_lift _).bind fun x => ?_
    exact (respects_lift _).bind fun y => respects_pure _

theorem variableCompares (name : Text) (inOrder : Double → Double → Bool) (value : Text) :
    Respects R (Act.variableCompares name inOrder value) := by
  refine hR.context (fun c d _ hvars => ?_) fun c => (respects_lift _).bind fun x => ?_
  · simp only [Context.get_of_vars hvars]
  · exact (respects_lift _).bind fun y => respects_pure _

theorem cooled (user value : Text) : Respects R (Act.cooled user value) := by
  refine (respects_lift _).bind fun threshold => (hR.stored _ _ _).bind fun v => ?_
  refine (respects_lift _).bind fun last => hR.clock.bind fun now => ?_
  exact (respects_lift _).bind fun now => respects_pure _

/-! ## Templates -/

theorem builtins : Respects R (Act.builtins m) := by
  refine hR.clock.bind fun now => (hR.roll _).bind fun hundred => ?_
  refine (respects_lift _).bind fun seconds => (hR.roll _).bind fun ten => ?_
  exact (hR.roll _).bind fun six => respects_pure _

theorem names : Respects R (Act.names m) := by
  refine (hR.builtins m).bind fun builtins => hR.context (fun c d hcaptures hvars => ?_) fun c => ?_
  · simp only [hcaptures, Context.visible_of_vars hvars]
  · exact hR.world (fun _ _ => rfl) fun w => respects_pure _

theorem render (t : Text) : Respects R (Act.render m t) := by
  unfold Act.render
  split
  · exact (hR.names m).bind fun names => respects_lift _
  · exact respects_pure t

theorem renderOptional (t : Text) : Respects R (Act.renderOptional m t) :=
  (hR.render m t).bind fun _ => respects_pure _

theorem renderResponse (t : Text) : Respects R (Act.renderResponse m t) := by
  refine (hR.render m t).bind fun t => hR.context (fun c d _ hvars => ?_) fun c => ?_
  · simp only [Context.get_of_vars hvars]
  · split
    · exact respects_pure t
    · exact respects_lift _

/-! ## Conditions -/

theorem holdsOf (kind : ConditionKind) (value varName : Text) :
    Respects R (Act.holdsOf kind m value varName) := by
  cases kind with
  | contains => exact respects_pure _
  | equals => exact respects_pure _
  | regex =>
      simp only [Act.holdsOf]
      split
      · exact respects_pure false
      · exact (respects_lift _).bind fun found => respects_pure _
  | random => exact (hR.roll _).bind fun x => (respects_lift _).bind fun limit => respects_pure _
  | userId => exact respects_pure _
  | groupId => exact respects_pure _
  | varEquals =>
      refine hR.context (fun c d _ hvars => ?_) fun c => (respects_lift _).bind fun t => ?_
      · simp only [Context.get_of_vars hvars]
      · exact respects_pure _
  | varGreater => exact hR.variableCompares _ _ _
  | varLess => exact hR.variableCompares _ _ _
  | dataEquals => exact hR.storedEquals _ _ _
  | dataGreater => exact hR.storedCompares _ _ _ _
  | dataLess => exact hR.storedCompares _ _ _ _
  | dataIsToday =>
      refine (hR.stored _ _ _).bind fun v => (respects_lift _).bind fun t => ?_
      exact hR.clock.bind fun now => respects_pure _
  | cooldown => exact hR.cooled _ _
  | timeRange => exact hR.clock.bind fun now => respects_lift _
  | weekdayIn => exact hR.clock.bind fun now => respects_lift _
  | sharedEquals => exact hR.storedEquals _ _ _
  | sharedGreater => exact hR.storedCompares _ _ _ _
  | expression =>
      refine hR.context (fun c d _ hvars => ?_) fun c => respects_pure _
      simp only [Condition.scope, Context.visible_of_vars hvars]

theorem holds (d : ConditionData) : Respects R (Act.holds d m) := by
  refine (hR.render m _).bind fun value => ?_
  split
  · exact hR.holdsOf m _ value d.varName
  · exact respects_pure true

/-! ## Numbers and texts -/

theorem randomBetween (x y : Double) : Respects R (Act.randomBetween x y) := by
  unfold Act.randomBetween
  split
  · exact respects_pure _
  · refine (respects_lift _).bind fun a => (respects_lift _).bind fun b => ?_
    exact (hR.roll _).bind fun n => respects_lift _

theorem join (op : MathOp) (x y : Double) : Respects R (Act.join op x y) := by
  cases op with
  | mod =>
      simp only [Act.join]
      split
      · exact respects_pure _
      · exact respects_lift _
  | random => exact hR.randomBetween x y
  | _ => exact respects_pure _

theorem operandOf (t : Text) : Respects R (Act.operandOf m t) :=
  (hR.render m _).bind fun _ => respects_lift _

theorem compute (d : ActionData) : Respects R (Act.compute d m) := by
  refine (hR.operandOf m _).bind fun x => (hR.operandOf m _).bind fun y => ?_
  cases MathOp.ofLabel? d.mathKind with
  | some op => exact (hR.join op x y).bind fun result => hR.setVariable _ _
  | none => exact (respects_pure x).bind fun result => hR.setVariable _ _

theorem editWith (op : TextOp) (pattern first second : Text) :
    Respects R (Act.editWith op pattern first second) := by
  cases op with
  | replace =>
      simp only [Act.editWith]
      split
      · exact respects_pure _
      · exact (respects_lift _).bind fun t => respects_pure _
  | split =>
      exact (hR.setVariable _ _).bind fun _ => (hR.setVariable _ _).bind fun _ => respects_pure _
  | substring => exact (respects_lift _).bind fun t => respects_pure _
  | contains => exact (hR.setVariable _ _).bind fun _ => respects_pure _
  | times => exact (respects_lift _).bind fun t => respects_pure _
  | _ => exact respects_pure _

theorem edit (d : ActionData) : Respects R (Act.edit d m) := by
  refine (hR.render m _).bind fun first => (hR.render m _).bind fun second => ?_
  cases TextOp.ofLabel? d.stringKind with
  | some op => exact (hR.editWith op _ first second).bind fun result => hR.setVariable _ _
  | none => exact (respects_pure _).bind fun result => hR.setVariable _ _

theorem renderParams (d : ActionData) : Respects R (Act.renderParams d m) := by
  refine (hR.render m _).tryCatch fun fault => ?_
  split
  · exact respects_pure []
  · exact respects_throw fault

theorem targetUser (d : ActionData) : Respects R (Act.targetUser d m) := hR.render m _

/-! ## Requests -/

theorem addHeaders (headers more : Fields Text) : Respects R (Act.addHeaders m headers more) := by
  induction more generalizing headers with
  | nil => exact respects_pure headers
  | cons header rest ih => exact (hR.render m _).bind fun v => ih _

theorem bodyFor (method body : Text) : Respects R (Act.bodyFor m method body) := by
  unfold Act.bodyFor
  split
  · exact respects_pure none
  · exact (hR.render m _).bind fun t => respects_pure _

theorem request (d : ActionData) : Respects R (Act.request d m) := by
  refine (hR.render m _).bind fun url => (respects_lift _).bind fun headers => ?_
  refine (hR.addHeaders m _ _).bind fun headers => (hR.bodyFor m _ _).bind fun body => ?_
  exact respects_pure _

theorem keepResponse (kind : ResponseKind) (url : Text) (response : Web.Response) :
    Respects R (Act.keepResponse kind url response) := by
  refine (hR.setVariable _ _).bind fun _ => (hR.setVariable _ _).bind fun _ => ?_
  exact (hR.setVariable _ _).bind fun _ => hR.setVariable _ _

/-! ## Delays, variables and random picks -/

theorem wait (seconds : Double) : Respects R (Act.wait seconds) :=
  hR.modifyWorld (fun _ => rfl) (fun _ => rfl) fun _ _ => rfl

theorem assign (d : SetVarData) : Respects R (Act.assign d m) := by
  unfold Act.assign
  split
  · exact respects_pure ()
  · exact (hR.render m _).bind fun t => hR.setVariable _ _

theorem weightedPlace (t : Text) (count : Nat) : Respects R (Act.weightedPlace t count) := by
  refine (respects_lift _).bind fun weights => ?_
  split
  · exact respects_pure none
  · exact alike_ite (respects_pure none) ((hR.roll _).bind fun x => respects_pure _)

theorem evenPlace (count : Nat) : Respects R (Act.evenPlace count) :=
  (hR.roll _).bind fun _ => respects_pure _

theorem pick (d : ListRandomData) : Respects R (Act.pick d m) := by
  have hset : ∀ v i, Respects R (do Act.setVariable d.resultVar v; Act.setVariable d.indexVar i) :=
    fun v i => (hR.setVariable _ v).bind fun _ => hR.setVariable _ i
  refine (hR.render m _).bind fun t => alike_ite (hset _ _) ?_
  refine (hR.weightedPlace _ _).bind fun place => ?_
  cases place with
  | some i => exact (respects_pure i).bind fun i => hset _ _
  | none => exact (hR.evenPlace _).bind fun i => hset _ _

/-! ## Reading stored values -/

theorem leaderboard (d : LeaderboardData) : Respects R (Act.leaderboard d m) := by
  refine (hR.render m _).bind fun key => hR.world (fun _ _ => rfl) fun w => ?_
  cases d.query with
  | top =>
      refine (respects_lift _).bind fun entries => ?_
      exact (hR.setVariable _ _).bind fun _ => hR.setVariable _ _
  | myRank =>
      refine (respects_lift _).bind fun rank => (hR.setVariable _ _).bind fun _ => ?_
      exact (hR.setVariable _ _).bind fun _ => hR.setVariable _ _
  | count => exact (respects_lift _).bind fun n => hR.setVariable _ _

theorem storeWith {Op : Type} (d : StorageData Op) {perform : (key text : Text) → Act Value}
    (hperform : ∀ key text, Respects R (perform key text)) : Respects R (Act.storeWith d m perform) := by
  refine (hR.render m _).bind fun key => alike_ite (respects_pure ()) ?_
  refine (hR.render m _).bind fun text => (hperform key text).bind fun v => ?_
  exact hR.setVariable _ v

end Bond

/-! ## Calls -/

/-- Calls do alike at the outlets. -/
def Calls (R : Scene → Scene → Prop) (o o' : Outlet) : Prop :=
  ∀ c, Alike R (Act.ask o c) (Act.ask o' c)

theorem run_ask (c : Call) (s : Scene) :
    (Act.ask o c).run.run s =
      (.ok (((o.perform c s.world).1.toOption).getD .null),
        { s with world := (o.perform c s.world).2 }) := rfl

theorem SharesWorld.calls (hR : SharesWorld R) (o : Outlet) : Calls R o o := by
  intro c s t h
  rw [run_ask, run_ask, hR.same h]
  obtain ⟨hclock, hstore⟩ := o.perform_keeps c s.world
  exact ⟨rfl, hR.setSame h hclock hstore⟩

namespace Calls

variable (ho : Calls R o o') (m : Message)
include ho

theorem tell (c : Call) : Alike R (Act.tell o c) (Act.tell o' c) :=
  (ho c).bind fun _ => respects_pure ()

theorem replyJson (t : Text) : Alike R (Act.replyJson o t) (Act.replyJson o' t) := by
  unfold Act.replyJson
  split
  · exact ho.tell _
  · exact ho.tell _

theorem retract (t : Text) : Alike R (Act.retract o m t) (Act.retract o' m t) :=
  alike_ite (respects_pure ()) (ho.tell _)

variable (hR : Bond R)
include hR

theorem replyText (t : Text) : Alike R (Act.replyText o t) (Act.replyText o' t) := by
  have hsend : ∀ t : Text, Alike R (if t.isEmpty then pure () else Act.tell o (.reply t))
      (if t.isEmpty then pure () else Act.tell o' (.reply t)) :=
    fun t => alike_ite (respects_pure ()) (ho.tell _)
  unfold Act.replyText
  split
  · exact (respects_pure t).bind hsend
  · exact (hR.roll _).bind hsend

theorem groupBan (d : ActionData) : Alike R (Act.groupBan o d m) (Act.groupBan o' d m) := by
  refine (hR.render m _).bind fun t => (respects_lift _).bind fun seconds => ?_
  exact (hR.targetUser m d).bind fun user => ho.tell _

theorem groupSetCard (d : ActionData) : Alike R (Act.groupSetCard o d m) (Act.groupSetCard o' d m) :=
  (hR.render m _).bind fun _ => (hR.targetUser m d).bind fun _ => ho.tell _

theorem callApi (d : ActionData) : Alike R (Act.callApi o d m) (Act.callApi o' d m) := by
  refine (hR.render m _).bind fun name => (hR.renderParams m d).bind fun params => ?_
  refine (ho _).bind fun v => ?_
  exact alike_ite (respects_pure ()) (hR.setVariable _ _)

theorem replyAs (d : ActionData) (t : Text) (media : Media) :
    Alike R (Act.replyAs o d m t media) (Act.replyAs o' d m t media) := by
  have himage : Alike R
      (Act.renderOptional m d.imageText >>= fun caption => Act.tell o (.replyImage media caption))
      (Act.renderOptional m d.imageText >>= fun caption => Act.tell o' (.replyImage media caption)) :=
    (hR.renderOptional m _).bind fun _ => ho.tell _
  refine alike_ite (ho.tell _) (alike_ite himage (alike_ite (ho.tell _) ?_))
  exact alike_ite (ho.tell _) (alike_ite (ho.tell _) (respects_pure ()))

theorem replyToResponse (d : ActionData) (url : Text) (response : Web.Response) :
    Alike R (Act.replyToResponse o d m url response) (Act.replyToResponse o' d m url response) := by
  refine (hR.keepResponse _ _ _).bind fun _ => ?_
  split
  · exact (respects_pure _).bind fun t => ho.replyAs m hR d t _
  · exact (hR.renderResponse m _).bind fun t => ho.replyAs m hR d t _

theorem askService (d : ActionData) : Alike R (Act.askService o d m) (Act.askService o' d m) := by
  refine (hR.request m d).bind fun request => ?_
  -- the answer and the surroundings behind it come as one, so the bind is opened by hand
  intro s t h
  rcases hask : s.world.askWeb request with ⟨answer, w⟩
  obtain ⟨hclock, hstore, hreturns⟩ := World.askWeb_keeps s.world request
  rw [hask] at hclock hstore hreturns
  have hask' : t.world.askWeb request = (answer, { w with returns := t.world.returns }) := by
    rw [hR.surroundings h, World.askWeb_withReturns, hask]
  have hset : R { s with world := w } { t with world := { w with returns := t.world.returns } } :=
    hR.setSurroundings h hclock hstore hreturns
  rw [run_bind, run_bind, run_world, run_world]
  simp only [hask, hask']
  cases answer with
  | timeout _ => exact ho.tell _ _ _ hset
  | failure _ => exact ho.tell _ _ _ hset
  | response _ => exact ho.replyToResponse m hR d _ _ _ _ hset

/-! ## Actions -/

theorem actAs (kind : ActionKind) (d : ActionData) (value : Text) :
    Alike R (Act.actAs kind o d m value) (Act.actAs kind o' d m value) := by
  cases kind with
  | replyText => exact ho.replyText hR value
  | replyImage => exact (hR.renderOptional m _).bind fun _ => ho.tell _
  | replyFace => exact (respects_lift _).bind fun _ => ho.tell _
  | replyJson => exact ho.replyJson value
  | replyFile => exact (hR.renderOptional m _).bind fun _ => ho.tell _
  | retract => exact ho.retract m value
  | askService => exact ho.askService m hR d
  | math => exact hR.compute m d
  | text => exact hR.edit m d
  | groupBan => exact ho.groupBan m hR d
  | groupKick => exact (hR.targetUser m d).bind fun _ => ho.tell _
  | groupSetCard => exact ho.groupSetCard m hR d
  | groupSetAdmin => exact (hR.targetUser m d).bind fun _ => ho.tell _
  | callApi => exact ho.callApi m hR d
  | _ => exact ho.tell _

end Calls

theorem Bond.act (hR : Bond R) {r r' : Runner} (ho : Calls R r.outlet r'.outlet)
    (hhandled : r'.handled = r.handled) (m : Message) (d : ActionData) :
    Alike R (Act.act r d m) (Act.act r' d m) := by
  have hhandler : ∀ name value, Respects R (Act.modifyWorld (World.act (.handled name value))) :=
    fun _ _ => hR.modifyWorld (fun _ => rfl) (fun _ => rfl) fun _ _ => rfl
  simp only [Act.act, hhandled]
  split
  · exact (hR.render m _).bind fun value => hhandler _ value
  · split
    · exact (hR.render m _).bind fun value => ho.actAs m hR _ d value
    · exact respects_pure ()

/-! ## Writing stored values -/

theorem run_addStored (owner : Owner) (key : Text) (amount start : Double) (s : Scene) :
    (Act.addStored owner key amount start).run.run s =
      match s.world.store.incr owner key (.float amount) (.float start) with
      | .ok (v, store) => (.ok v, { s with world := { s.world with store := store } })
      | .error fault => (.error fault, s) := by
  simp only [Act.addStored, run_bind, run_world, run_lift]
  rcases s.world.store.incr owner key (.float amount) (.float start) with fault | ⟨v, store⟩
  · rfl
  · rfl

theorem run_removeStored (user key : Text) (s : Scene) :
    (Act.removeStored user key).run.run s =
      match s.world.store.remove user key with
      | .ok (_, store) => (.ok (), { s with world := { s.world with store := store } })
      | .error fault => (.error fault, s) := by
  simp only [Act.removeStored, run_bind, run_world, run_lift]
  rcases s.world.store.remove user key with fault | ⟨found, store⟩
  · rfl
  · rfl

namespace StoreAt

section Key

variable {owner : Owner} {key : Text} (hs : StoreAt R owner key) (hR : Bond R)
include hs hR

theorem storeValue (v : Value) : Respects R (Act.storeValue owner key v) := by
  intro s t h
  refine ⟨rfl, ?_⟩
  show R { s with world := { s.world with store := (s.world.store.write owner key v).2 } }
    { t with world := { t.world with store := (t.world.store.write owner key v).2 } }
  -- what is written depends on the store, which is the same in both
  rw [hR.store h]
  exact hs _ _ _ h (Store.differsIn_write _ owner key v)

theorem addStored (amount start : Double) : Respects R (Act.addStored owner key amount start) := by
  intro s t h
  rw [run_addStored, run_addStored, hR.store h]
  -- the store that is set is the one that was read, but for the value under the key
  rcases hincr : s.world.store.incr owner key (.float amount) (.float start) with fault | ⟨v, store⟩
  · exact ⟨rfl, h⟩
  · exact ⟨rfl, hs _ _ _ h (Store.differsIn_incr hincr)⟩

theorem addAmount (text : Text) (other : Value) (opposite : Bool) :
    Respects R (Act.addAmount owner key text other opposite) := by
  refine (respects_lift _).bind fun amount => (respects_lift _).bind fun start => ?_
  exact hs.addStored hR _ start

end Key

variable (hR : Bond R)
include hR

/-- Only an operation that writes needs that scenes stay related. -/
theorem doShared {owner : Owner} {key : Text} {op : SharedOp} (hs : op ≠ .get → StoreAt R owner key)
    (text : Text) (other : Value) : Respects R (Act.doShared op owner key text other) := by
  cases op with
  | get => exact hR.stored owner key other
  | set =>
      have hset := (hs (by decide)).storeValue hR
      exact (respects_lift _).bind fun v => (hset v).bind fun _ => respects_pure _
  | incr => exact (hs (by decide)).addAmount hR text other false
  | decr => exact (hs (by decide)).addAmount hR text other true

theorem removeStored {user key : Text} (hs : StoreAt R (.user user) key) :
    Respects R (Act.removeStored user key) := by
  intro s t h
  rw [run_removeStored, run_removeStored, hR.store h]
  rcases hremove : s.world.store.remove user key with fault | ⟨found, store⟩
  · exact ⟨rfl, h⟩
  · exact ⟨rfl, hs _ _ _ h (Store.differsIn_remove hremove)⟩

theorem doUser {user key : Text} (hs : StoreAt R (.user user) key) (op : UserOp) (text : Text)
    (other : Value) : Respects R (Act.doUser op user key text other) := by
  cases op with
  | shared op => exact doShared hR (fun _ => hs) text other
  | delete => exact (removeStored hR hs).bind fun _ => respects_pure _

variable (m : Message)

theorem storeUser (hs : ∀ key, StoreAt R (.user m.event.userId) key) (d : StorageData UserOp) :
    Respects R (Act.storeUser d m) :=
  hR.storeWith m d fun key text => doUser hR (hs key) d.op text d.other

theorem storeShared (hs : ∀ key, StoreAt R .shared key) (d : StorageData SharedOp) :
    Respects R (Act.storeShared d m) :=
  hR.storeWith m d fun key text => doShared hR (fun _ => hs key) text d.other

end StoreAt

end Act

end ChatFlow
