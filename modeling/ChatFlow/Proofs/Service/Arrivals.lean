import ChatFlow.Proofs.Catalog.Deeds
import ChatFlow.Proofs.Workflow.Settled
import ChatFlow.Service.Routes

/-!
# Requests that arrive

A body is looked at by the form that its route asks for, and only then does the route do something. Whoever has to be
the master is refused unless the request supplies the password, in its query or in its body.

* `Request.document?`, `Request.Supplies`: what is in a request.
* `Service.withBody_cases`: a body of the right form is answered, and any other does nothing.
* `Service.isDenied_of_not_supplies`: who is refused.
* `Service.Footprint`: what a request leaves of the password and of the catalog.
* `Service.Arrival`, `Service.past`: requests one after the other, while time passes.
-/

namespace ChatFlow

namespace Request

/-- The document in the body of a request. -/
def document? (r : Request) : Option Value := (Encoding.documentText? r.body).bind Json.read?

/-- Does a request supply a password, in its query or in its body? -/
def Supplies (r : Request) (password : Text) : Prop :=
  r.query.get? Service.passwordName = some password ∨
    (r.document?.getD .null).fieldOrNull Service.passwordName = .text password

instance (r : Request) (password : Text) : Decidable (r.Supplies password) :=
  inferInstanceAs (Decidable (_ ∨ _))

/-- A request that sends a document of ASCII code points. -/
def post (path : Text) (query : Fields Text) (document : Value) : Request :=
  ⟨"POST", path, query, (Json.text .line document).map fun c => .ofNat c.toNat⟩

end Request

namespace Service

variable {s : Service} {r : Request}

/-! ## Answers and their bodies -/

/-- What is responded does not change the service any more. -/
@[simp]
theorem respond_snd (a : Answer) : (respond a).2 = a.2 := by
  rcases a with ⟨fault | v, s⟩
  · rfl
  · rfl

section Bodies

variable {α : Type} {form : Value → Check α} {answer : α → Answer}

/-- A body of the right form is answered. -/
theorem withBody_of_document {v : Value} {a : α} (hdocument : r.document? = some v) (hform : form v = .accepted a) :
    s.withBody r form answer = respond (answer a) := by
  obtain ⟨t, ht, hread⟩ := Option.bind_eq_some_iff.mp hdocument
  rw [withBody, ht]
  simp only [hread, Option.bind_some, hform, Check.toOption]

/-- A body of the right form is answered, and any other does nothing. -/
theorem withBody_cases (s : Service) (r : Request) (form : Value → Check α) (answer : α → Answer) :
    (∃ v a, r.document? = some v ∧ form v = .accepted a ∧ s.withBody r form answer = respond (answer a)) ∨
      (s.withBody r form answer).2 = s := by
  cases ht : Encoding.documentText? r.body with
  | none =>
      right
      rw [withBody, ht]
  | some t =>
      cases hread : Json.read? t with
      | none =>
          right
          simp only [withBody, ht, hread, Option.bind_none]
      | some v =>
          have hdocument : r.document? = some v := by
            rw [Request.document?, ht, Option.bind_some, hread]
          cases hform : form v with
          | accepted a =>
              left
              exact ⟨v, a, hdocument, hform, withBody_of_document hdocument hform⟩
          | refused count =>
              right
              simp only [withBody, ht, hread, Option.bind_some, hform, Check.toOption]

/-- A route that leaves the service alone for every body of its form leaves it alone. -/
theorem withBody_snd (h : ∀ v a, r.document? = some v → form v = .accepted a → (answer a).2 = s) :
    (s.withBody r form answer).2 = s := by
  rcases withBody_cases s r form answer with ⟨v, a, hdocument, hform, hanswer⟩ | hsame
  · rw [hanswer, respond_snd]
    exact h v a hdocument hform
  · exact hsame

end Bodies

/-! ## The password -/

/-- The password of a body is that of the field. -/
theorem Named.password_eq {v : Value} {n : Named} (h : Named.check v = .accepted n) (hfilled : n.password ≠ []) :
    v.fieldOrNull passwordName = .text n.password := by
  cases v with
  | object fs =>
      obtain ⟨f, password, hid, hpassword, rfl⟩ := Check.seq_eq_accepted.mp h
      obtain ⟨id, -, rfl⟩ := Check.map_eq_accepted.mp hid
      unfold Check.fieldOr at hpassword
      show (Fields.get? fs passwordName).getD .null = Value.text password
      cases hget : Fields.get? fs passwordName with
      | none =>
          rw [hget] at hpassword
          exact absurd (Check.accepted.inj hpassword).symm hfilled
      | some u =>
          rw [hget] at hpassword
          cases u with
          | text t =>
              cases hpassword
              rfl
          | _ => cases hpassword
  | _ => cases h

/-- Somebody who does not supply the password is refused. -/
theorem isDenied_of_not_supplies {inBody : Value} (hmaster : s.master ≠ []) (hunknown : ¬ r.Supplies s.master)
    (hbody : inBody = .text s.master → (r.document?.getD .null).fieldOrNull passwordName = .text s.master) :
    s.isDenied r inBody = true := by
  have hnotEmpty : (!s.master.isEmpty) = true := by
    simpa using hmaster
  have hother : supplied r inBody ≠ .text s.master := by
    intro hsupplied
    unfold supplied at hsupplied
    split at hsupplied
    · -- the body holds it
      exact hunknown (.inr (hbody hsupplied))
    · -- the query holds it: one that is absent counts as empty, which the password is not
      have hquery := Value.text.inj hsupplied
      cases hget : r.query.get? passwordName with
      | none =>
          rw [hget] at hquery
          exact hmaster hquery.symm
      | some p =>
          rw [hget] at hquery
          exact hunknown (.inl (hget.trans (congrArg some hquery)))
  rw [isDenied, hnotEmpty, Bool.true_and]
  exact decide_eq_true hother

/-- A document without the password is refused. -/
theorem isDenied_of_document {fs : Fields Value} (hmaster : s.master ≠ []) (hunknown : ¬ r.Supplies s.master)
    (hdocument : r.document? = some (.object fs)) :
    s.isDenied r ((fs.get? passwordName).getD .null) = true := by
  apply isDenied_of_not_supplies hmaster hunknown
  intro hbody
  rw [hdocument]
  exact hbody

/-- A named id without the password is refused. -/
theorem isDenied_of_named {v : Value} {n : Named} (hmaster : s.master ≠ []) (hunknown : ¬ r.Supplies s.master)
    (hdocument : r.document? = some v) (hform : Named.check v = .accepted n) :
    s.isDenied r (.text n.password) = true := by
  apply isDenied_of_not_supplies hmaster hunknown
  intro hbody
  have hpassword : n.password = s.master := Value.text.inj hbody
  rw [hdocument, ← hpassword]
  exact Named.password_eq hform (hpassword ▸ hmaster)

/-! ## What a request changes -/

/-- What a request may do to the catalog: what it sends is taken in if it does not need the master, or comes from
there. -/
def MayDo (s : Service) (r : Request) : Catalog.Deed → Prop
  | .accept _ payload => ∃ fs : Fields Value, r.document? = some (.object fs) ∧ payload = withoutPassword fs ∧
      (needsMaster (.object fs) = .ok false ∨ s.isDenied r ((fs.get? passwordName).getD .null) = false)
  | _ => True

/-- What a request leaves of a service: the password as it is, and the catalog, or one thing has been done to it. -/
structure Footprint (s : Service) (r : Request) (s' : Service) : Prop where
  master : s'.master = s.master
  catalog : s'.catalog = s.catalog ∨
    ∃ deed d, s'.catalog = (Catalog.Deed.perform deed ⟨s.catalog, d⟩).2.catalog ∧ s.MayDo r deed

theorem Footprint.refl (s : Service) (r : Request) : s.Footprint r s := ⟨rfl, .inl rfl⟩

theorem footprint_saveWorkflow {fs : Fields Value} (hdocument : r.document? = some (.object fs)) :
    s.Footprint r (s.saveWorkflow r fs).2 := by
  unfold saveWorkflow
  rcases hneeded : needsMaster (.object fs) with fault | needed
  · exact .refl s r
  · dsimp only
    split
    · exact .refl s r
    · next hallowed =>
        refine ⟨rfl, .inr ⟨.accept s.seconds (withoutPassword fs), s.world.dice, rfl, fs, hdocument, rfl, ?_⟩⟩
        cases needed with
        | false => exact .inl hneeded
        | true =>
            right
            rw [Bool.true_and] at hallowed
            exact Bool.eq_false_of_not_eq_true hallowed

/-- What a request to a route leaves. -/
theorem answerRoute_footprint (s : Service) (r : Request) (route : Route) : s.Footprint r (s.answerRoute r route).2 := by
  have hbody : ∀ {α : Type} (form : Value → Check α) (answer : α → Answer),
      (∀ v a, r.document? = some v → form v = .accepted a → s.Footprint r (answer a).2) →
        s.Footprint r (s.withBody r form answer).2 := by
    intro α form answer h
    rcases withBody_cases s r form answer with ⟨v, a, hdocument, hform, hanswer⟩ | hsame
    · rw [hanswer, respond_snd]
      exact h v a hdocument hform
    · rw [hsame]
      exact .refl s r
  have htask : ∀ change, (∀ id, s.Footprint r (change id).2) →
      s.Footprint r (s.withBody r Named.check fun n => s.onTask r n change).2 := by
    intro change h
    apply hbody
    intro v n _ _
    unfold onTask
    split
    · exact .refl s r
    · split
      · exact .refl s r
      · exact h n.id
  -- the two changes of a workflow are deeds that everybody may do
  have hworkflow : ∀ message change (deed : Text → Catalog.Deed), (∀ id, s.MayDo r (deed id)) →
      (∀ id, (change s.catalog id).2 = ((deed id).perform ⟨s.catalog, s.world.dice⟩).2.catalog) →
        s.Footprint r (s.withBody r Named.check fun n => s.changeWorkflow n.id message change).2 := by
    intro message change deed hmay hdeed
    apply hbody
    intro v n _ _
    unfold changeWorkflow
    split
    · exact .refl s r
    · exact ⟨rfl, .inr ⟨deed n.id, s.world.dice, hdeed n.id, hmay n.id⟩⟩
  cases route with
  | health => exact .refl s r
  | config => exact .refl s r
  | tasks => exact .refl s r
  | workflows => exact ⟨rfl, .inr ⟨.load, s.world.dice, rfl, trivial⟩⟩
  | event =>
      apply hbody
      intro v fs _ _
      unfold answerEvent receive
      rcases Event.ofPost? (.object fs) with fault | _ | e
      · exact .refl s r
      · exact .refl s r
      · exact ⟨rfl, .inr ⟨.load, s.world.dice, rfl, trivial⟩⟩
  | verifyMaster => exact hbody _ _ fun v password _ _ => .refl s r
  | saveWorkflow =>
      apply hbody
      intro v fs hdocument hform
      cases v with
      | object fields =>
          cases hform
          exact footprint_saveWorkflow hdocument
      | _ => cases hform
  | deleteWorkflow => exact hworkflow _ _ Catalog.Deed.delete (fun _ => trivial) fun _ => rfl
  | toggleWorkflow => exact hworkflow _ _ Catalog.Deed.toggle (fun _ => trivial) fun _ => rfl
  | trial => exact hbody _ _ fun v t _ _ => ⟨rfl, .inl rfl⟩
  | addTask =>
      apply hbody
      intro v fs _ _
      unfold addTask
      split
      · exact .refl s r
      · exact ⟨rfl, .inl rfl⟩
  | deleteTask => exact htask _ fun id => ⟨rfl, .inl rfl⟩
  | toggleTask => exact htask _ fun id => ⟨rfl, .inl rfl⟩
  | runTask => exact htask _ fun id => ⟨rfl, .inl rfl⟩

/-- What any request leaves. -/
theorem answer_footprint (s : Service) (r : Request) : s.Footprint r (s.answer r).2 := by
  unfold answer
  rcases Fields.get? Route.paths r.path with _ | route
  · exact .refl s r
  · dsimp only
    split
    · exact answerRoute_footprint s r route
    · exact .refl s r

/-! ## One after the other -/

/-- A request, what has changed around the service until it arrives, and when it does, in seconds since 1970. -/
structure Arrival where
  request : Request
  meanwhile : World → World
  seconds : Double

/-- The service when a request arrives. -/
def Arrival.before (a : Arrival) (s : Service) : Service :=
  { s with world := a.meanwhile s.world, seconds := a.seconds }

/-- The response to a request that arrives, and the service after it. -/
def Arrival.answer (a : Arrival) (s : Service) : Response × Service := (a.before s).answer a.request

/-- The service after requests that arrived one after the other. -/
def past : List Arrival → Service → Service
  | [], s => s
  | a :: arrivals, s => past arrivals (a.answer s).2

end Service

end ChatFlow
