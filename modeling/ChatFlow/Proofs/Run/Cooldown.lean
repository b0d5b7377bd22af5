import ChatFlow.Proofs.Run.Moments
import ChatFlow.Proofs.Run.Rows
import ChatFlow.Proofs.Walk.Entries

/-!
# Cooldowns

A workflow can make its users wait: a condition asks whether some seconds have passed since the moment under a key, and
its first slot leads to a node that sets this key to the moment of the run. What one run finds and leaves at the place
of a user is put together here to what all messages of the user find, whoever else writes in between.

* `Cooldown`: such a pair of nodes.
* `Cooldown.Ready`: a scene in which the condition can ask and the node can set; visits keep it.
* `Cooldown.any_takes_iff`: when one of the visits of a walk takes the first slot.
* `Cooldown.run_takes`, `Cooldown.run_held`: what a run of the user does, and what it leaves at the place.
* `Cooldown.held_before`: what messages one after the other leave there.
* `Cooldown.takes_iff_cooled`: when a message takes the first slot.
-/

namespace ChatFlow

/-! ## Places that are left alone -/

/-- Where no row is picked, stores that differ in the picked rows hold the same. -/
theorem Store.DiffersIn.contents_eq {p : Row → Bool} {s t : Store} {place : Place} (h : DiffersIn p s t)
    (hp : ∀ row, isAt place.1 place.2 row = true → p row = false) : t.contents place = s.contents place := by
  have hfind : ∀ rows : List Row, rows.find? (isAt place.1 place.2) =
      (rows.filter fun row => !p row).find? (isAt place.1 place.2) := by
    intro rows
    rw [List.find?_filter]
    refine congrArg (rows.find? ·) (funext fun row => ?_)
    cases hrow : isAt place.1 place.2 row with
    | false => simp
    | true => simp [hp row hrow]
  rw [contents, contents, textOf, textOf, hfind t.rows, hfind s.rows, h]

theorem Store.Change.intact_make {c : Change} {s : Store} (hc : c ≠ .reopen) : (c.make s).intact = s.intact := by
  have hwrite : ∀ owner key v, (s.write owner key v).2.intact = s.intact := by
    intro owner key v
    unfold Store.write
    split
    · split
      · rfl
      · rfl
    · rfl
  cases c with
  | write p v => exact hwrite p.1 p.2 v
  | incr p amount start =>
      rw [make]
      cases hincr : s.incr p.1 p.2 amount start with
      | error fault => rfl
      | ok r =>
          unfold Store.incr at hincr
          simp only [bind, Except.bind] at hincr
          split at hincr
          · cases hincr
          · split at hincr
            · cases hincr
            · split at hincr
              · cases hincr
              · cases hincr
                exact hwrite p.1 p.2 _
  | remove id key =>
      rw [make]
      unfold Store.remove
      split
      · rfl
      · rfl
      · rfl
  | reopen => exact absurd rfl hc

/-- Nodes for stored values do not lose the table. -/
theorem Storing.intact_result (c : Storing) (s : Store) : (c.result s).intact = s.intact := by
  rcases c.result_cases s with hsame | ⟨change, hbrings, hdone⟩
  · rw [hsame]
  · rw [hdone, Store.Change.intact_make]
    rintro rfl
    exact hbrings

namespace Runner

open Act

variable {r : Runner} {w : Workflow} {m : Message} {n : Node} {s s' : Scene} {vs before later : List Visit} {v : Visit}
  {place : Place}

/-- A visit leaves the store that the body of its node leaves. -/
theorem store_of_visit (r : Runner) (w : Workflow) (m : Message) (n : Node) (s : Scene) :
    (r.visit w m n s).2.world.store = ((r.perform m n.body).run.run (noteExecuted n s)).2.world.store := by
  unfold visit
  rcases (r.perform m n.body).run.run (noteExecuted n s) with ⟨_ | slot, s₁⟩
  · rfl
  · rfl

theorem store_of_then_first (a : Act Unit) (s : Scene) :
    ((do a; return Slot.first : Act Slot).run.run s).2.world.store = (a.run.run s).2.world.store := by
  rw [run_bind]
  rcases a.run.run s with ⟨_ | _, s₁⟩
  · rfl
  · rfl

theorem visit_clock (r : Runner) (w : Workflow) (m : Message) (n : Node) (s : Scene) :
    (r.visit w m n s).2.world.clock = s.world.clock :=
  ((matches_clock r w s.world.clock).visit m n ⟨rfl, rfl⟩).2.2

/-- No visit loses the table of the store. -/
theorem visit_intact (r : Runner) (w : Workflow) (m : Message) (n : Node) (s : Scene) :
    (r.visit w m n s).2.world.store.intact = s.world.store.intact := by
  rw [store_of_visit]
  have hkept : writers m n.body = [] →
      ((r.perform m n.body).run.run (noteExecuted n s)).2.world.store.intact = s.world.store.intact := by
    intro hnone
    have haside : Aside fun s : Scene => s.world.store.intact := ⟨fun _ _ _ hstore => by rw [hstore], fun _ _ _ => rfl⟩
    refine (Respects.keeps fun _ => perform_alike haside.bond ?_ (haside.sharesWorld.calls r.outlet) rfl) _
    rw [hnone]
    exact fun _ hnot => absurd hnot List.not_mem_nil
  cases hbody : n.body with
  | storage d =>
      rw [perform, store_of_then_first]
      exact Storing.intact_result ⟨.user d, m, noteExecuted n s⟩ s.world.store
  | sharedStorage d =>
      rw [perform, store_of_then_first]
      exact Storing.intact_result ⟨.shared d, m, noteExecuted n s⟩ s.world.store
  | _ =>
      rw [hbody] at hkept
      exact hkept rfl

/-- A node that is not for the values of the user leaves the places of all users alone. -/
theorem visit_contents_of_kind {user key : Text} (hkind : n.body.kind ≠ .storage) :
    (r.visit w m n s).2.world.store.contents (.user user, key) = s.world.store.contents (.user user, key) := by
  have haside : Aside fun s : Scene => s.world.store.contents (.user user, key) :=
    ⟨fun _ _ _ hstore => by rw [hstore], fun _ _ _ => rfl⟩
  rw [store_of_visit]
  refine (Respects.keeps fun c => perform_alike haside.bond ?_ (haside.sharesWorld.calls r.outlet) rfl) _
  intro owner howner written
  have hshared : owner = .shared := by
    cases hbody : n.body with
    | sharedStorage d =>
        rw [hbody] at howner
        exact List.mem_singleton.mp howner
    | storage d =>
        rw [hbody] at hkind
        exact absurd rfl hkind
    | _ =>
        rw [hbody] at howner
        exact absurd howner List.not_mem_nil
  subst hshared
  rintro s _ store ⟨rfl, hs⟩ hdiffers
  refine ⟨rfl, Eq.trans (hdiffers.contents_eq ?_) hs⟩
  intro row hrow
  simp only [Store.isAt, Bool.and_eq_true, decide_eq_true_eq] at hrow
  simp [Store.isAt, hrow.1]

/-- Of visits one after the other, those of other nodes leave a place as it is. -/
def Spares (r : Runner) (w : Workflow) (m : Message) (id : Text) (place : Place) (s : Scene) (vs : List Visit) : Prop :=
  ∀ before v later s₁, vs = before ++ v :: later → Threads (r.visit w m) s before s₁ → v.node.id ≠ id →
    (r.visit w m v.node s₁).2.world.store.contents place = s₁.world.store.contents place

theorem Spares.init {id : Text} (h : r.Spares w m id place s (vs ++ [v])) : r.Spares w m id place s vs := by
  rintro before u later s₁ rfl hthreads
  exact h before u (later ++ [v]) s₁ (by simp) hthreads

/-- Nodes that are not for the values of users leave all their places alone. -/
theorem spares_of_kinds {id user key : Text} (hnodes : ∀ v ∈ vs, v.node ∈ w.nodes)
    (hkinds : ∀ n ∈ w.nodes, n.id ≠ id → n.body.kind ≠ .storage) :
    r.Spares w m id (.user user, key) s vs := by
  rintro before v later s₁ rfl - hother
  exact visit_contents_of_kind (hkinds v.node (hnodes v (List.mem_append_right _ List.mem_cons_self)) hother)

/-- The visits of a run are of the nodes of the workflow. -/
theorem node?_of_visits (r : Runner) (w : Workflow) (m : Message) (world : World) :
    ∀ v ∈ r.visits w m world, w.node? v.node.id = some v.node := by
  unfold visits
  split
  · exact Workflow.forall_trail (fun _ _ hn => hn) _ _
  · exact fun _ hnot => absurd hnot List.not_mem_nil

/-- A run for one user leaves the places of another one alone. -/
theorem execute_contents_of_other {user key : Text} (r : Runner) (w : Workflow) (m : Message) (world : World)
    (hother : m.event.userId ≠ user) :
    (r.execute w m world).2.store.contents (.user user, key) = world.store.contents (.user user, key) := by
  refine (r.execute_rows w m world).contents_eq ?_
  intro row hrow
  simp only [Store.isAt, Bool.and_eq_true, decide_eq_true_eq] at hrow
  rw [reach, hrow.1, decide_eq_false_iff_not]
  exact fun hsame => hother hsame.symm

end Runner

/-! ## The pair of nodes -/

/-- A condition asks whether some seconds have passed since the moment that the user has under a key. Its first slot
leads to a node that sets the key to the moment, and nothing else leads there. -/
structure Cooldown (w : Workflow) where
  asking : Node
  setting : Node
  question : ConditionData
  storing : StorageData UserOp
  /-- After how many seconds the condition holds again. -/
  wait : Nat
  differ : Workflow.idsDiffer w.nodes
  asking_mem : asking ∈ w.nodes
  setting_mem : setting ∈ w.nodes
  asking_body : asking.body = .condition question
  setting_body : setting.body = .storage storing
  kind : question.kind = "cooldown"
  asks : question.value = storing.key ++ .scalar ',' :: Text.ofNat wait
  op : storing.op = .shared .set
  sets : storing.value = Piece.written "timestamp"
  key_ne_nil : storing.key ≠ []
  key_trim : storing.key.trim = storing.key
  key_comma : .scalar ',' ∉ storing.key
  key_brace : .scalar '{' ∉ storing.key
  leads : ⟨asking.id, setting.id, .first⟩ ∈ w.connections
  only : ∀ e ∈ w.connections, e.target = setting.id → e = ⟨asking.id, setting.id, .first⟩

namespace Cooldown

open Act Runner

variable {r : Runner} {w : Workflow} {m : Message} {s s₁ s' : Scene} {vs : List Visit} {v : Visit} {start : Text}
  {last : Option Int}

theorem asking_found (c : Cooldown w) : w.node? c.asking.id = some c.asking :=
  Workflow.node?_of_mem c.differ c.asking_mem

theorem setting_found (c : Cooldown w) : w.node? c.setting.id = some c.setting :=
  Workflow.node?_of_mem c.differ c.setting_mem

/-- The place at which a user has the moment. -/
def place (c : Cooldown w) (user : Text) : Place := (.user user, c.storing.key)

/-- Is it a visit of the condition? -/
def isAsked (c : Cooldown w) (v : Visit) : Bool := v.node.id = c.asking.id

/-- Does the visit of the condition take the first slot? -/
def isTaken (c : Cooldown w) (v : Visit) : Bool := v.node.id = c.asking.id && v.outcome = .leaves .first

/-- Is it a visit of the node that sets? -/
def isSet (c : Cooldown w) (v : Visit) : Bool := v.node.id = c.setting.id

/-- Has the time passed since the moment that was last? -/
def hasPassed (c : Cooldown w) (last : Option Int) (now : Int) : Bool := ∀ n ∈ last, n + c.wait ≤ now

variable (c : Cooldown w)

/-! ## One visit -/

/-- A scene in which the condition can ask, and the node can set: the clock stands at a whole second, and at the place
of the user there is the moment that was last, or nothing. -/
structure Ready (m : Message) (s : Scene) (last : Option Int) : Prop where
  encodable : (c.place m.event.userId).isEncodable = true
  clock : s.world.clock.IsWhole
  late : (c.wait : Int) ≤ s.world.clock.second
  intact : s.world.store.intact = true
  held : s.world.store.contents (c.place m.event.userId) = last.map .int
  seconds : ∀ n ∈ last, Moment.IsSecond n

variable {c}

namespace Ready

/-- The condition takes the first slot if the time has passed, and else the second one. -/
theorem visit_asking (h : c.Ready m s last) :
    (r.visit w m c.asking s).1 = .leaves (if c.hasPassed last s.world.clock.second then .first else .second) := by
  have hplain : .scalar '{' ∉ c.storing.key ++ .scalar ',' :: Text.ofNat c.wait := by
    rw [List.mem_append, List.mem_cons]
    rintro (hkey | hcomma | hdigit)
    · exact c.key_brace hkey
    · cases hcomma
    · exact absurd (Text.digits_ofNat _ _ hdigit) (by decide)
  have hkind : ConditionKind.ofLabel? c.question.kind = some .cooldown := by
    rw [c.kind]
    decide
  have hcooled : (cooled m.event.userId (c.storing.key ++ .scalar ',' :: Text.ofNat c.wait)).run.run
      (noteExecuted c.asking s) = (.ok (c.hasPassed last s.world.clock.second), noteExecuted c.asking s) :=
    run_cooled h.clock h.late h.intact h.encodable c.key_trim c.key_comma h.held h.seconds
  unfold Runner.visit
  simp only [c.asking_body, perform, holds, run_bind, run_render_of_no_brace m _ hplain, hkind, holdsOf, c.asks,
    hcooled, run_pure]

/-- A visit made in such a scene leaves one, with what it leaves at the place. -/
theorem visit {n : Node} {next : Option Int} (h : c.Ready m s last)
    (hheld : (r.visit w m n s).2.world.store.contents (c.place m.event.userId) = next.map .int)
    (hseconds : ∀ k ∈ next, Moment.IsSecond k) : c.Ready m (r.visit w m n s).2 next where
  encodable := h.encodable
  clock := by
    rw [visit_clock]
    exact h.clock
  late := by
    rw [visit_clock]
    exact h.late
  intact := by
    rw [visit_intact]
    exact h.intact
  held := hheld
  seconds := hseconds

/-- The node sets the place to the moment. -/
theorem visit_setting (h : c.Ready m s last) (r : Runner) :
    c.Ready m (r.visit w m c.setting s).2 (some s.world.clock.second) := by
  refine h.visit ?_ ?_
  · have hstored : ((storeUser c.storing m).run.run (noteExecuted c.setting s)).2.world.store =
        s.world.store.put (.user m.event.userId) c.storing.key (Json.text .line (.int s.world.clock.second)) :=
      run_storeUser_timestamp c.op c.sets c.key_ne_nil c.key_brace h.clock h.intact h.encodable
    have hdocument : (Value.int s.world.clock.second).IsDocument := .int h.clock.isSecond.exact.not_integerTooLong
    have hput := Store.contents_put s.world.store (c.place m.event.userId) hdocument
    rw [store_of_visit, c.setting_body, perform, store_of_then_first, hstored]
    exact (congrFun hput _).trans (Function.update_self ..)
  · rintro n ⟨⟩
    exact h.clock.isSecond

/-- A visit that leaves the place as it is changes nothing for the next one. -/
theorem visit_other {n : Node} (h : c.Ready m s last)
    (hsame : (r.visit w m n s).2.world.store.contents (c.place m.event.userId) =
      s.world.store.contents (c.place m.event.userId)) : c.Ready m (r.visit w m n s).2 last :=
  h.visit (hsame.trans h.held) h.seconds

/-- A visit takes the first slot of the condition exactly if it is one of the condition, and the time has passed. -/
theorem isTaken_eq (h : c.Ready m s last) (hv : r.visit w m v.node s = (v.outcome, s'))
    (hfound : w.node? v.node.id = some v.node) :
    c.isTaken v = (c.isAsked v && c.hasPassed last s.world.clock.second) := by
  cases hasked : c.isAsked v with
  | false =>
      have hother := of_decide_eq_false hasked
      simp [isTaken, hother]
  | true =>
      have hasking := of_decide_eq_true hasked
      rw [hasking, c.asking_found] at hfound
      have houtcome := h.visit_asking (r := r)
      rw [Option.some.inj hfound, hv] at houtcome
      rw [isTaken, hasking, show v.outcome = _ from houtcome]
      cases c.hasPassed last s.world.clock.second
      · simp
      · simp

end Ready

/-! ## The visits of a walk -/

/-- What the place holds behind some visits. -/
def lastAfter (c : Cooldown w) (vs : List Visit) (last : Option Int) (now : Int) : Option Int :=
  if vs.any c.isSet then some now else last

/-- Visits one after the other set the place to the moment, or leave it as it is. -/
theorem Ready.threads (h : c.Ready m s last) (hthreads : Threads (r.visit w m) s vs s')
    (hnodes : ∀ v ∈ vs, w.node? v.node.id = some v.node)
    (hspares : r.Spares w m c.setting.id (c.place m.event.userId) s vs) :
    s'.world.clock = s.world.clock ∧ c.Ready m s' (c.lastAfter vs last s.world.clock.second) := by
  induction vs using List.reverseRecOn generalizing s' with
  | nil =>
      cases hthreads
      exact ⟨rfl, h⟩
  | append_singleton vs v ih =>
      -- the last visit is of the node that sets, or it leaves what the others have left
      obtain ⟨s₁, hbefore, hv⟩ := hthreads.exists_concat
      obtain ⟨hclock, hready⟩ := ih hbefore (fun u hu => hnodes u (List.mem_append_left _ hu)) hspares.init
      have hs' : s' = (r.visit w m v.node s₁).2 := (congrArg Prod.snd hv).symm
      subst hs'
      refine ⟨(visit_clock r w m v.node s₁).trans hclock, ?_⟩
      rw [lastAfter, List.any_append, List.any_cons, List.any_nil, Bool.or_false]
      cases hset : c.isSet v with
      | true =>
          have hnode : v.node = c.setting := by
            have hfound := hnodes v (List.mem_append_right _ List.mem_cons_self)
            rw [of_decide_eq_true hset, c.setting_found] at hfound
            exact (Option.some.inj hfound).symm
          rw [Bool.or_true, if_pos rfl, hnode, ← hclock]
          exact hready.visit_setting r
      | false =>
          rw [Bool.or_false]
          exact hready.visit_other (hspares vs v [] s₁ rfl hbefore (of_decide_eq_false hset))

/-- Nothing leads to the node that sets but the first slot of the condition. -/
theorem any_taken_of_set (hled : w.Led start vs) (hstart : start ≠ c.setting.id) (hset : vs.any c.isSet = true) :
    vs.any c.isTaken = true := by
  obtain ⟨v, hv, hsets⟩ := List.any_eq_true.mp hset
  obtain ⟨before, later, rfl⟩ := List.append_of_mem hv
  have hid : v.node.id = c.setting.id := of_decide_eq_true hsets
  rcases hled.ledTo with hfirst | ⟨u, hu, htarget⟩
  · exact absurd (hfirst.symm.trans hid) hstart
  · refine List.any_eq_true.mpr ⟨u, List.mem_append_left _ hu, ?_⟩
    rw [hid] at htarget
    cases houtcome : u.outcome with
    | fails =>
        rw [houtcome] at htarget
        cases htarget
    | leaves slot =>
        rw [houtcome, Workflow.targets, Workflow.successors, List.mem_map] at htarget
        obtain ⟨e, he, htarget⟩ := htarget
        obtain ⟨hmem, hleaves⟩ := List.mem_filter.mp he
        rw [c.only e hmem htarget, Bool.and_eq_true, decide_eq_true_eq, decide_eq_true_eq] at hleaves
        rw [isTaken, houtcome, ← hleaves.1, ← hleaves.2, decide_eq_true rfl, decide_eq_true rfl]
        rfl

/-- Some visit takes the first slot exactly if the condition is visited at all, and the time had passed. -/
theorem any_takes_iff (h : c.Ready m s last) (hled : w.Led start vs) (hstart : start ≠ c.setting.id)
    (hthreads : Threads (r.visit w m) s vs s') (hnodes : ∀ v ∈ vs, w.node? v.node.id = some v.node)
    (hspares : r.Spares w m c.setting.id (c.place m.event.userId) s vs) :
    vs.any c.isTaken = (vs.any c.isAsked && c.hasPassed last s.world.clock.second) := by
  -- as long as the slot is not taken, the place holds what it held
  induction hled generalizing s' with
  | nil => rfl
  | @concat vs v hled _ ih =>
      obtain ⟨s₁, hbefore, hv⟩ := hthreads.exists_concat
      have hnodes' : ∀ u ∈ vs, w.node? u.node.id = some u.node := fun u hu => hnodes u (List.mem_append_left _ hu)
      have hearlier := ih hbefore hnodes' hspares.init
      obtain ⟨hclock, hready⟩ := h.threads hbefore hnodes' hspares.init
      rw [List.any_append, List.any_append, List.any_cons, List.any_cons, List.any_nil, List.any_nil, Bool.or_false,
        Bool.or_false]
      cases htaken : vs.any c.isTaken with
      | true =>
          -- then the time had passed, and the condition was visited
          rw [htaken] at hearlier
          obtain ⟨hasked, hpassed⟩ := (Bool.and_eq_true _ _).mp hearlier.symm
          rw [hasked, hpassed]
          rfl
      | false =>
          have hunset : vs.any c.isSet = false := by
            refine Bool.eq_false_iff.mpr fun hset => ?_
            rw [any_taken_of_set hled hstart hset] at htaken
            cases htaken
          rw [lastAfter, hunset, if_neg Bool.false_ne_true] at hready
          have hlast := hready.isTaken_eq hv (hnodes v (List.mem_append_right _ List.mem_cons_self))
          rw [htaken] at hearlier
          rw [hlast, hclock, Bool.false_or, Bool.and_or_distrib_right, ← hearlier, Bool.false_or]

end Cooldown

/-! ## Runs -/

/-- A message, and the surroundings in which it comes. -/
structure Arrival where
  message : Message
  world : World

namespace Arrival

def user (a : Arrival) : Text := a.message.event.userId

/-- The second in which it comes. -/
def second (a : Arrival) : Int := a.world.clock.second

/-- The surroundings that its run leaves. -/
def left (a : Arrival) (r : Runner) (w : Workflow) : World := (r.execute w a.message a.world).2

/-- The run comes to its end, and is not broken off as a whole. -/
def Returns (a : Arrival) (r : Runner) (w : Workflow) : Prop :=
  ∃ context, (r.execute w a.message a.world).1 = .ok (some context)

theorem returns_of_isSome {a : Arrival} {r : Runner} {w : Workflow}
    (h : (r.execute w a.message a.world).1.toOption.join.isSome = true) : a.Returns r w := by
  rcases hrun : (r.execute w a.message a.world).1 with fault | _ | context
  · rw [hrun] at h
    cases h
  · rw [hrun] at h
    cases h
  · exact ⟨context, hrun⟩

end Arrival

namespace Cooldown

open Act Runner

variable {r : Runner} {w : Workflow} {a : Arrival} {last : Option Int} {user : Text} {before after : List Arrival}

/-- Does the message come to the condition? -/
def comes (c : Cooldown w) (r : Runner) (a : Arrival) : Bool := (r.visits w a.message a.world).any c.isAsked

/-- Does the message take the first slot of the condition? -/
def takes (c : Cooldown w) (r : Runner) (a : Arrival) : Bool := (r.visits w a.message a.world).any c.isTaken

/-- What a message of the user meets with: a clock at a whole second, a store with its table, and no other node that
writes at the place. -/
structure Fits (c : Cooldown w) (r : Runner) (a : Arrival) : Prop where
  clock : a.world.clock.IsWhole
  late : (c.wait : Int) ≤ a.second
  intact : a.world.store.intact = true
  spares : ∀ trigger captures, Trigger.first? a.message.content w.triggers = .ok (some (trigger, captures)) →
    r.Spares w a.message c.setting.id (c.place a.user) (r.opening w a.message a.world trigger captures)
      (r.visits w a.message a.world)

/-- Messages one after the other. Of those of one user, each meets with what the runs need, and nothing but the runs
writes at the place in between. -/
def Course (c : Cooldown w) (r : Runner) (user : Text) : Option Value → List Arrival → Prop
  | _, [] => True
  | held, a :: rest =>
    a.world.store.contents (c.place user) = held ∧ (a.user = user → c.Fits r a) ∧
      Course c r user ((a.left r w).store.contents (c.place user)) rest

/-- The last message of the user that took the first slot. -/
def lastUse (c : Cooldown w) (r : Runner) (user : Text) (messages : List Arrival) : Option Arrival :=
  (messages.filter fun a => a.user = user && c.takes r a).getLast?

variable {c : Cooldown w}

/-! ### One run -/

/-- Where no other node is for the values of users, none writes at the place. -/
theorem fits_of_kinds (hclock : a.world.clock.IsWhole) (hlate : (c.wait : Int) ≤ a.second)
    (hintact : a.world.store.intact = true) (hkinds : ∀ n ∈ w.nodes, n.id ≠ c.setting.id → n.body.kind ≠ .storage) :
    c.Fits r a where
  clock := hclock
  late := hlate
  intact := hintact
  spares := by
    intro trigger captures _
    refine spares_of_kinds (fun v hv => ?_) hkinds
    exact Workflow.mem_of_node? (node?_of_visits r w a.message a.world v hv)

section Matched

variable {trigger : Node} {captures : List Text}
  (hmatch : Trigger.first? a.message.content w.triggers = .ok (some (trigger, captures)))

include hmatch

/-- No message sets off the node that sets. -/
theorem start_ne_setting (c : Cooldown w) : trigger.id ≠ c.setting.id := by
  intro hid
  have hfound := Workflow.node?_of_mem c.differ (trigger_mem hmatch)
  rw [hid, c.setting_found] at hfound
  have htrigger : trigger.isTrigger = true := (List.mem_filter.mp (Trigger.mem_of_first? hmatch)).2
  rw [← Option.some.inj hfound, Node.isTrigger, c.setting_body] at htrigger
  cases htrigger

theorem left_of_match :
    a.left r w =
      (w.walkFrom (r.visit w a.message) trigger.id (r.opening w a.message a.world trigger captures)).2.world := by
  rw [Arrival.left, execute_of_match hmatch, Prod.map_snd, finish_world]
  rfl

/-- A run that takes the first slot visits the node that sets if it comes to its end, and no other run does. -/
theorem any_isSet (hreturns : c.takes r a = true → a.Returns r w) :
    (r.visits w a.message a.world).any c.isSet = c.takes r a := by
  rw [Bool.eq_iff_iff]
  constructor
  · intro hset
    have hled := Workflow.led_trail w (r.visit w a.message) trigger.id (r.opening w a.message a.world trigger captures)
    rw [visits_of_match hmatch] at hset
    rw [takes, visits_of_match hmatch]
    exact any_taken_of_set hled (start_ne_setting hmatch c) hset
  · intro htakes
    obtain ⟨context, hends⟩ := hreturns htakes
    have hwalk := (execute_eq_ok_iff hmatch).mp (Prod.ext hends rfl)
    rw [takes, visits_of_match hmatch] at htakes
    obtain ⟨v, hv, htaken⟩ := List.any_eq_true.mp htakes
    rw [isTaken, Bool.and_eq_true, decide_eq_true_eq, decide_eq_true_eq] at htaken
    have htarget : c.setting.id ∈ w.targets v.node.id v.outcome := by
      rw [htaken.1, htaken.2]
      exact List.mem_map.mpr ⟨_, List.mem_filter.mpr ⟨c.leads, by simp⟩, rfl⟩
    obtain ⟨u, hu, hnode⟩ := Workflow.visits_target hwalk hv htarget c.setting_found
    rw [visits_of_match hmatch]
    exact List.any_eq_true.mpr ⟨u, hu, decide_eq_true (congrArg Node.id hnode)⟩

end Matched

/-- A message sets off a trigger, or nothing is visited and nothing changes. -/
theorem match_or_quiet (r : Runner) (w : Workflow) (a : Arrival) :
    (∃ trigger captures, Trigger.first? a.message.content w.triggers = .ok (some (trigger, captures))) ∨
      r.visits w a.message a.world = [] ∧ a.left r w = a.world := by
  rcases hfirst : Trigger.first? a.message.content w.triggers with fault | _ | ⟨trigger, captures⟩
  · exact .inr ⟨by rw [visits, hfirst], by rw [Arrival.left, execute, hfirst]⟩
  · exact .inr ⟨by rw [visits, hfirst], by rw [Arrival.left, execute, hfirst]⟩
  · exact .inl ⟨trigger, captures, rfl⟩

section Fitting

variable (h : c.Fits r a) (hplace : (c.place a.user).isEncodable = true)
  (hheld : a.world.store.contents (c.place a.user) = last.map .int) (hlast : ∀ n ∈ last, Moment.IsSecond n)

include h hplace hheld hlast

/-- The run begins in a scene in which the condition can ask. -/
theorem ready_opening (trigger : Node) (captures : List Text) :
    c.Ready a.message (r.opening w a.message a.world trigger captures) last :=
  ⟨hplace, h.clock, h.late, h.intact, hheld, hlast⟩

/-- A message that comes to the condition takes the first slot exactly if the time has passed. -/
theorem run_takes : c.takes r a = (c.comes r a && c.hasPassed last a.second) := by
  rcases match_or_quiet r w a with ⟨trigger, captures, hmatch⟩ | ⟨hnone, -⟩
  · have hready := ready_opening h hplace hheld hlast trigger captures
    have hspares := h.spares trigger captures hmatch
    have hnodes := node?_of_visits r w a.message a.world
    rw [takes, comes]
    rw [visits_of_match hmatch] at hspares hnodes ⊢
    exact any_takes_iff hready (Workflow.led_trail w _ _ _) (start_ne_setting hmatch c) (Threads.trail w _ _ _) hnodes
      hspares
  · rw [takes, comes, hnone]
    rfl

/-- A run that takes the first slot leaves the moment at the place, and any other leaves what was there. -/
theorem run_held (hreturns : c.takes r a = true → a.Returns r w) : (a.left r w).store.contents (c.place a.user) =
    (if c.takes r a then some a.second else last).map .int := by
  rcases match_or_quiet r w a with ⟨trigger, captures, hmatch⟩ | ⟨hnone, hleft⟩
  · have hready := ready_opening h hplace hheld hlast trigger captures
    have hspares := h.spares trigger captures hmatch
    have hnodes := node?_of_visits r w a.message a.world
    have hset := any_isSet hmatch hreturns
    rw [visits_of_match hmatch] at hspares hnodes hset
    obtain ⟨-, hend⟩ := hready.threads (Threads.trail w _ _ _) hnodes hspares
    rw [lastAfter, hset] at hend
    rw [left_of_match hmatch]
    exact hend.held
  · have hnever : c.takes r a = false := by
      rw [takes, hnone]
      rfl
    rw [hleft, hheld, hnever]
    rfl

end Fitting

/-! ### Messages one after the other -/

theorem lastUse_cons (c : Cooldown w) (r : Runner) (user : Text) (b : Arrival) (messages : List Arrival) :
    c.lastUse r user (b :: messages) =
      (c.lastUse r user messages).or (if b.user = user ∧ c.takes r b = true then some b else none) := by
  unfold lastUse
  by_cases huse : b.user = user ∧ c.takes r b = true
  · rw [List.filter_cons_of_pos (by simpa using huse), List.getLast?_cons, if_pos huse]
    cases (messages.filter fun a => a.user = user && c.takes r a).getLast? with
    | none => rfl
    | some a => rfl
  · rw [List.filter_cons_of_neg (by simpa using huse), if_neg huse, Option.or_none]

/-- Behind some messages, the place of the user holds the moment of the last one that took the first slot. -/
theorem held_before (hplace : (c.place user).isEncodable = true)
    (h : c.Course r user (last.map .int) (before ++ a :: after))
    (hreturns : ∀ b ∈ before, b.user = user → c.takes r b = true → b.Returns r w)
    (hlast : ∀ n ∈ last, Moment.IsSecond n) :
    let held := ((c.lastUse r user before).map Arrival.second).or last
    a.world.store.contents (c.place user) = held.map .int ∧ (∀ n ∈ held, Moment.IsSecond n) ∧
      (a.user = user → c.Fits r a) := by
  induction before generalizing last with
  | nil => exact ⟨h.1, hlast, h.2.1⟩
  | cons b before ih =>
      obtain ⟨hheld, hfits, hrest⟩ := h
      -- what the first run leaves is what the others begin with
      have hnext : ∃ next : Option Int, (b.left r w).store.contents (c.place user) = next.map .int ∧
          (∀ n ∈ next, Moment.IsSecond n) ∧
          ((c.lastUse r user (b :: before)).map Arrival.second).or last =
            ((c.lastUse r user before).map Arrival.second).or next := by
        by_cases huser : b.user = user
        · subst huser
          refine ⟨_, run_held (hfits rfl) hplace hheld hlast (hreturns b List.mem_cons_self rfl), ?_, ?_⟩
          · split
            · rintro n ⟨⟩
              exact (hfits rfl).clock.isSecond
            · exact hlast
          · rw [lastUse_cons]
            cases c.lastUse r b.user before with
            | some d => rfl
            | none =>
                cases c.takes r b with
                | true => simp
                | false => simp
        · refine ⟨last, ?_, hlast, ?_⟩
          · rw [← hheld]
            exact execute_contents_of_other r w b.message b.world huser
          · rw [lastUse_cons, if_neg (fun huse => huser huse.1), Option.or_none]
      obtain ⟨next, hleft, hseconds, hsame⟩ := hnext
      rw [hleft] at hrest
      rw [hsame]
      exact ih hrest (fun d hd => hreturns d (List.mem_cons_of_mem b hd)) hseconds

/-- Messages come one after the other, each in whatever surroundings, and the key of a cooldown is unset at first. Of
the messages of a user, one that comes to the condition takes its first slot exactly if none of the user did before,
or if the last one that did came at least as many seconds ago as the condition asks for. What other users do in
between makes no difference. -/
theorem takes_iff_cooled (c : Cooldown w) (r : Runner) (huser : user.isWellFormed = true)
    (hkey : c.storing.key.isWellFormed = true) (h : c.Course r user none (before ++ a :: after))
    (hreturns : ∀ b ∈ before, b.user = user → c.takes r b = true → b.Returns r w) (ha : a.user = user)
    (hcomes : c.comes r a = true) :
    c.takes r a = true ↔ ∀ b ∈ c.lastUse r user before, b.second + c.wait ≤ a.second := by
  have hplace : (c.place user).isEncodable = true := by
    rw [Place.isEncodable, place, Bool.and_eq_true]
    exact ⟨huser, hkey⟩
  have hcourse : c.Course r user ((none : Option Int).map .int) (before ++ a :: after) := h
  obtain ⟨hheld, hseconds, hfits⟩ := held_before hplace hcourse hreturns (fun n hn => by cases hn)
  subst ha
  rw [run_takes (hfits rfl) hplace hheld hseconds, hcomes, Bool.true_and, hasPassed, decide_eq_true_eq, Option.or_none]
  simp only [Option.mem_map, forall_exists_index, and_imp, forall_apply_eq_imp_iff₂]

/-! ### Small runs -/

/-- A condition that asks whether a minute has passed since the moment under a key. -/
def sampleAsking (key : Text) : Node := ⟨"c", none, none, .condition ⟨"cooldown", key ++ ",60", [], []⟩, []⟩

/-- The node that sets the key. -/
def sampleSetting (key : Text) : Node :=
  ⟨"s", none, none, .storage ⟨.shared .set, key, Piece.written "timestamp", "v", .null, []⟩, []⟩

/-- The trigger leads to the condition, and the first slot of this one to some other nodes, and then to the node that
sets. -/
def sampleWaiting (key : Text) (others : List Node) (connections : List Connection) : Workflow :=
  sampleFlow (sampleAsking key :: sampleSetting key :: others)
    (connections ++ [⟨"t", "c", .first⟩, ⟨"c", "s", .first⟩])

/-- Its nodes, as long as the other nodes and connections have nothing to do with the one that sets. -/
def sampleCooldown (key : Text) (others : List Node) (connections : List Connection)
    (hkey : key ≠ [] ∧ key.trim = key ∧ .scalar ',' ∉ key ∧ .scalar '{' ∉ key)
    (hids : Workflow.idsDiffer (sampleWaiting key others connections).nodes)
    (htargets : ∀ e ∈ connections, e.target ≠ "s") : Cooldown (sampleWaiting key others connections) where
  asking := sampleAsking key
  setting := sampleSetting key
  question := ⟨"cooldown", key ++ ",60", [], []⟩
  storing := ⟨.shared .set, key, Piece.written "timestamp", "v", .null, []⟩
  wait := 60
  differ := hids
  asking_mem := List.mem_cons_of_mem _ List.mem_cons_self
  setting_mem := List.mem_cons_of_mem _ (List.mem_cons_of_mem _ List.mem_cons_self)
  asking_body := rfl
  setting_body := rfl
  kind := rfl
  asks := rfl
  op := rfl
  sets := rfl
  key_ne_nil := hkey.1
  key_trim := hkey.2.1
  key_comma := hkey.2.2.1
  key_brace := hkey.2.2.2
  leads := List.mem_append_right _ (List.mem_cons_of_mem _ List.mem_cons_self)
  only := by
    intro e he htarget
    rcases List.mem_append.mp he with hother | hown
    · exact absurd htarget (htargets e hother)
    · rcases List.mem_cons.mp hown with rfl | hlast
      · exact absurd htarget (show ("c" : Text) ≠ "s" by decide)
      · exact List.mem_singleton.mp hlast

/-- A user sends the word of the trigger at a second. -/
def sampleArrival (id : Text) (second : Int) (store : Store) : Arrival :=
  ⟨⟨.ofUser id, "go"⟩, { Act.sampleWorld store with clock := ⟨second * 1000000⟩ }⟩

theorem contents_sampleArrival (id : Text) (second : Int) (store : Store) (p : Place) :
    (sampleArrival id second store).world.store.contents p = store.contents p := rfl

/-- Nothing but the condition and the node that sets stands behind the trigger. -/
def sampleMinute : Cooldown (sampleWaiting "k" [] []) := sampleCooldown "k" [] [] (by decide) (by decide) (by decide)

/-- A user takes the first slot, another one does in between, and the first one comes back a second too early, and
then in time. -/
def sampleUse : Arrival := sampleArrival "u" 1000 .empty

def sampleOther : Arrival := sampleArrival "v" 1010 (sampleUse.left sampleRunner (sampleWaiting "k" [] [])).store

def sampleEarly : Arrival := sampleArrival "u" 1059 (sampleOther.left sampleRunner (sampleWaiting "k" [] [])).store

def sampleDue : Arrival := sampleArrival "u" 1060 (sampleEarly.left sampleRunner (sampleWaiting "k" [] [])).store

/-- At 59 seconds, the user is sent away by the second slot, and at 60 the first one is taken. -/
theorem takes_iff_cooled_after_minute :
    sampleMinute.Course sampleRunner "u" none [sampleUse, sampleOther, sampleEarly, sampleDue] ∧
      sampleMinute.takes sampleRunner sampleEarly = false ∧ sampleMinute.takes sampleRunner sampleDue = true := by
  have hkinds : ∀ n ∈ (sampleWaiting "k" [] []).nodes, n.id ≠ "s" → n.body.kind ≠ .storage := by decide
  have hcourse : sampleMinute.Course sampleRunner "u" none [sampleUse, sampleOther, sampleEarly, sampleDue] := by
    refine ⟨rfl, fun _ => ?_, contents_sampleArrival "v" 1010 _ _, fun hother => absurd hother (by decide),
      contents_sampleArrival "u" 1059 _ _, fun _ => ?_, contents_sampleArrival "u" 1060 _ _, fun _ => ?_, trivial⟩
    · exact fits_of_kinds ⟨by decide, by decide, by decide⟩ (by decide) rfl hkinds
    · exact fits_of_kinds ⟨by decide, by decide, by decide⟩ (by decide) (by decide +kernel) hkinds
    · exact fits_of_kinds ⟨by decide, by decide, by decide⟩ (by decide) (by decide +kernel) hkinds
  have hends : ∀ b ∈ [sampleUse, sampleOther, sampleEarly],
      (sampleRunner.execute (sampleWaiting "k" [] []) b.message b.world).1.toOption.join.isSome = true := by
    decide +kernel
  have hlast : (sampleMinute.lastUse sampleRunner "u" [sampleUse, sampleOther]).map Arrival.second = some 1000 ∧
      (sampleMinute.lastUse sampleRunner "u" [sampleUse, sampleOther, sampleEarly]).map Arrival.second = some 1000 := by
    decide +kernel
  have hcomes : sampleMinute.comes sampleRunner sampleEarly = true ∧
      sampleMinute.comes sampleRunner sampleDue = true := by
    decide +kernel
  have hreturns : ∀ b ∈ [sampleUse, sampleOther, sampleEarly], b.Returns sampleRunner (sampleWaiting "k" [] []) :=
    fun b hb => Arrival.returns_of_isSome (hends b hb)
  have hearly : sampleMinute.takes sampleRunner sampleEarly = true ↔
      ∀ b ∈ sampleMinute.lastUse sampleRunner "u" [sampleUse, sampleOther], b.second + 60 ≤ sampleEarly.second :=
    takes_iff_cooled sampleMinute sampleRunner rfl rfl hcourse
      (fun b hb _ _ => hreturns b (List.mem_append_left [sampleEarly] hb)) rfl hcomes.1
  have hdue : sampleMinute.takes sampleRunner sampleDue = true ↔
      ∀ b ∈ sampleMinute.lastUse sampleRunner "u" [sampleUse, sampleOther, sampleEarly],
        b.second + 60 ≤ sampleDue.second :=
    takes_iff_cooled sampleMinute sampleRunner rfl rfl hcourse (fun b hb _ _ => hreturns b hb) rfl hcomes.2
  refine ⟨hcourse, Bool.eq_false_iff.mpr fun htakes => ?_, hdue.mpr fun b hb => ?_⟩
  · obtain ⟨b, hb, hsecond⟩ := Option.map_eq_some_iff.mp hlast.1
    have hpassed := hearly.mp htakes b hb
    rw [hsecond] at hpassed
    exact absurd hpassed (by decide)
  · have hsecond := hlast.2
    rw [hb, Option.map_some, Option.some.injEq] at hsecond
    rw [hsecond]
    decide

/-- The first slot leads to a node of a cycle first, and then to the node that sets. -/
def sampleLooped : Workflow := sampleWaiting "k" [sampleStep "a"] [⟨"c", "a", .first⟩, ⟨"a", "a", .first⟩]

/-- The user comes again in the same second. -/
def sampleAgain : Arrival := sampleArrival "u" 1000 (sampleUse.left sampleRunner sampleLooped).store

/-- With a key that cannot be encoded, the first slot is not taken even once. And where a run is broken off before the
moment is set, the slot is taken again at once. -/
theorem not_cooled_of_surrogate_or_cycle :
    (∃ c : Cooldown (sampleWaiting [.surrogate 0] [] []), c.Course sampleRunner "u" none [sampleUse] ∧
      c.comes sampleRunner sampleUse = true ∧
      ¬ (c.takes sampleRunner sampleUse = true ↔
        ∀ b ∈ c.lastUse sampleRunner "u" [], b.second + c.wait ≤ sampleUse.second)) ∧
    ∃ c : Cooldown sampleLooped, c.Course sampleRunner "u" none [sampleUse, sampleAgain] ∧
      c.comes sampleRunner sampleAgain = true ∧
      ¬ (c.takes sampleRunner sampleAgain = true ↔
        ∀ b ∈ c.lastUse sampleRunner "u" [sampleUse], b.second + c.wait ≤ sampleAgain.second) := by
  have hwhole : sampleUse.world.clock.IsWhole := ⟨by decide, by decide, by decide⟩
  constructor
  · let c : Cooldown (sampleWaiting [.surrogate 0] [] []) :=
      sampleCooldown [.surrogate 0] [] [] (by decide) (by decide) (by decide)
    have hruns : c.comes sampleRunner sampleUse = true ∧ c.takes sampleRunner sampleUse = false := by decide +kernel
    refine ⟨c, ⟨rfl, fun _ => fits_of_kinds hwhole (by decide) rfl (by decide), trivial⟩, hruns.1, fun hiff => ?_⟩
    have htakes := hiff.mpr nofun
    rw [hruns.2] at htakes
    cases htakes
  · let c : Cooldown sampleLooped :=
      sampleCooldown "k" [sampleStep "a"] [⟨"c", "a", .first⟩, ⟨"a", "a", .first⟩] (by decide) (by decide) (by decide)
    have hkinds : ∀ n ∈ sampleLooped.nodes, n.id ≠ "s" → n.body.kind ≠ .storage := by decide
    have hruns : c.comes sampleRunner sampleAgain = true ∧ c.takes sampleRunner sampleAgain = true ∧
        (c.lastUse sampleRunner "u" [sampleUse]).map Arrival.second = some 1000 := by
      decide +kernel
    refine ⟨c, ⟨rfl, fun _ => fits_of_kinds hwhole (by decide) rfl hkinds, contents_sampleArrival "u" 1000 _ _,
      fun _ => fits_of_kinds hwhole (by decide) (by decide +kernel) hkinds, trivial⟩, hruns.1, fun hiff => ?_⟩
    obtain ⟨b, hb, hsecond⟩ := Option.map_eq_some_iff.mp hruns.2.2
    have hpassed := hiff.mp hruns.2.1 b hb
    rw [hsecond] at hpassed
    exact absurd hpassed (by decide)

end Cooldown

end ChatFlow
