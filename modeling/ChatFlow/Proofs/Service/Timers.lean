import ChatFlow.Proofs.Catalog.Reached
import ChatFlow.Proofs.Service.Tasks
import ChatFlow.Proofs.Workflow.Kinds

/-!
# Workflows of the clock

Workflows that the clock runs may be saved by the master only. What an editor sent is looked at before it is read: the
names of kinds are compared as they stand, while a trigger takes its name without the blanks around it. So nobody else
stores a kind of the clock by its very name, but everybody can store one with blanks around the name.

* `Service.Writes`: the names of kinds that are looked at.
* `Service.not_clockKind_of_writes`: the names that everybody may save.
* `Service.stored_answer`: what is stored behind a request without the password.
* `Service.clockKinds_padded`: which kinds of the clock can be stored without the password.
* `Service.clockKind_saved`: one that is.
-/

namespace ChatFlow

/-- The names of kinds of the clock in a workflow are among some. -/
def Workflow.ClockNamesIn (K : Text → Prop) (w : Workflow) : Prop :=
  ∀ kind ∈ w.kinds, Trigger.isClock kind = true → K kind

namespace Service

/-! ## What is looked at -/

/-- Is the name of a kind written where one stands, as that of the workflow or of one of its triggers? -/
def Writes (payload : Value) (kind : Text) : Prop :=
  payload.fieldOrNull "trigger_type" = .text kind ∨
    ∃ nodes, sentNodes payload = .ok nodes ∧ ∃ node ∈ nodes, node.NodeWrites kind

theorem isClockTrigger_of_any {nodes : List Value} (h : anyClockTrigger nodes = .ok false) :
    ∀ node ∈ nodes, isClockTrigger node = .ok false := by
  induction nodes with
  | nil =>
      intro node hnode
      cases hnode
  | cons first rest ih =>
      rw [anyClockTrigger] at h
      rcases hfirst : isClockTrigger first with fault | found
      · rw [hfirst] at h
        cases h
      · rw [hfirst] at h
        cases found with
        | true => cases h
        | false =>
            intro node hnode
            rcases List.mem_cons.mp hnode with rfl | hrest
            · exact hfirst
            · exact ih h node hrest

/-- A trigger that is not of the clock writes none of its names. -/
theorem not_clockKind_of_node {node : Value} {kind : Text} (h : isClockTrigger node = .ok false)
    (hwrites : node.NodeWrites kind) : kind ∉ Trigger.clockKinds := by
  obtain ⟨htype, hname⟩ := hwrites
  intro hkind
  have hcontains : Trigger.clockKinds.contains kind = true := List.contains_iff_mem.mpr hkind
  rw [isClockTrigger, if_neg (not_not_intro htype)] at h
  cases hdata : node.fieldOrNull "data" with
  | object fs =>
      rw [hdata] at h hname
      simp only [hname, isClockKind, hcontains] at h
      cases h
  | _ =>
      rw [hdata] at hname
      cases hname

/-- What everybody may save has no kind of the clock by its very name. -/
theorem not_clockKind_of_writes {fs : Fields Value} {kind : Text} (h : needsMaster (.object fs) = .ok false)
    (hwrites : Writes (.object fs) kind) : kind ∉ Trigger.clockKinds := by
  rw [needsMaster] at h
  split at h
  · cases h
  · next hown =>
      rcases hwrites with hname | ⟨nodes, hnodes, node, hnode, hname⟩
      · intro hkind
        rw [hname, isClockKind] at hown
        exact hown (List.contains_iff_mem.mpr hkind)
      · rw [hnodes] at h
        exact not_clockKind_of_node (isClockTrigger_of_any h node hnode) hname

/-- The password is no name of a kind. -/
theorem writes_withoutPassword {fs : Fields Value} {kind : Text} (h : Writes (withoutPassword fs) kind) :
    Writes (.object fs) kind := by
  have hfield : ∀ name, name ≠ passwordName →
      (withoutPassword fs).fieldOrNull name = (Value.object fs).fieldOrNull name := by
    intro name hname
    rw [withoutPassword, Value.fieldOrNull, Value.field?, Fields.get?_erase_of_ne _ hname]
    rfl
  rcases h with hname | ⟨nodes, hnodes, hnode⟩
  · left
    rw [← hfield "trigger_type" (by decide)]
    exact hname
  · right
    refine ⟨nodes, ?_, hnode⟩
    rw [sentNodes, hfield "nodes" (by decide)] at hnodes
    exact hnodes

/-! ## What is stored of it -/

/-- The nodes that are taken in are those that are looked at. -/
theorem sentNodes_of_nodesOf {payload : Value} {nodes : List Value} (h : Catalog.nodesOf payload = .ok nodes) :
    sentNodes payload = .ok nodes := by
  rw [Catalog.nodesOf] at h
  rw [sentNodes]
  split at h
  · next n ns hlist =>
      rw [hlist]
      cases h
      rfl
  · next n ns hobject =>
      rw [hobject]
      cases h
      rfl
  · cases h

/-- A name of a kind of the clock in a workflow that was taken in was sent, or stood in the head. -/
theorem writes_of_document {payload : Value} {nodes : List Value} {head : Fields Value} {w : Workflow} {kind other : Text}
    (h : Workflow.check (Catalog.documentOf payload nodes head) = .accepted w)
    (hnodes : Catalog.nodesOf payload = .ok nodes)
    (hhead : head.get? "trigger_type" =
      some (Catalog.orOther (payload.fieldOrNull "trigger_type") (.text other)))
    (hkind : kind ∈ w.kinds) (hclock : Trigger.isClock kind = true) : Writes payload kind ∨ kind = other := by
  have hget : ∀ (fs : Fields Value) (v u : Value), Fields.get? ((fs.set "nodes" v).set "connections" u) "nodes" = some v := by
    intro fs v u
    rw [Fields.get?_set, if_neg (by decide), Fields.get?_set, if_pos rfl]
  have hname : ∀ (stop v u : Value), Fields.get?
      (((head.set "stop_propagation" stop).set "nodes" v).set "connections" u) "trigger_type" =
        head.get? "trigger_type" := by
    intro stop v u
    rw [Fields.get?_set, if_neg (by decide), Fields.get?_set, if_neg (by decide), Fields.get?_set, if_neg (by decide)]
  rcases Workflow.written_of_check h (hget _ _ _) hkind hclock with hown | ⟨node, hnode, hwrites⟩
  · rw [hname, hhead, Catalog.orOther] at hown
    split at hown
    · exact .inl (.inl (Option.some.inj hown))
    · exact .inr (Value.text.inj (Option.some.inj hown)).symm
  · exact .inl (.inr ⟨nodes, sentNodes_of_nodesOf hnodes, node, hnode, hwrites⟩)

/-- The names of kinds of the clock in workflows that are written were there, or were sent. -/
theorem clockNames_of_write {K : Text → Prop} {deed : Catalog.Deed} {s : Catalog.Desk} {ws : List Workflow}
    {reply : Except Fault Bool → Catalog.Answer} (h : (deed.comesTo s).1 = .write ws reply)
    (hsent : deed.Sent fun payload => ∀ kind, Trigger.isClock kind = true → Writes payload kind → K kind)
    (hkept : ∀ w ∈ s.catalog.current.workflows, w.ClockNamesIn K) : ∀ w ∈ ws, w.ClockNamesIn K := by
  obtain ⟨id, -, rfl, -⟩ | ⟨id, -, htoggled, -⟩ | ⟨_, payload, nodes, head, new, rfl, hnodes, hcheck, -, hput⟩ :=
    Catalog.Deed.outcome_write h
  · intro w hw
    exact hkept w (List.mem_filter.mp hw).1
  · intro w hw
    obtain ⟨u, hu, b, rfl⟩ := Catalog.Deed.exists_of_toggled? htoggled hw
    exact hkept u hu
  · obtain ⟨known, hknown, rfl, rfl⟩ | ⟨id, rfl, rfl⟩ := hput
    · have hhead : (Catalog.headOf payload known).get? "trigger_type" =
          some (Catalog.orOther (payload.fieldOrNull "trigger_type") (.text known.triggerKind)) := by
        rw [Catalog.headOf, Fields.get?_set, if_neg (by decide), Fields.get?_set, if_neg (by decide), Fields.get?_set,
          if_pos rfl]
      intro w hw
      rcases Catalog.Deed.mem_replaced hw with rfl | hold
      · intro kind hkind hclock
        rcases writes_of_document hcheck hnodes hhead hkind hclock with hwrites | rfl
        · exact hsent kind hclock hwrites
        · exact hkept known hknown _ List.mem_cons_self hclock
      · exact hkept w hold
    · intro w hw
      rcases List.mem_append.mp hw with hold | hadded
      · exact hkept w hold
      · obtain rfl := List.mem_singleton.mp hadded
        intro kind hkind hclock
        have hname : Writes payload kind ∨ kind = "exact" := writes_of_document hcheck hnodes rfl hkind hclock
        rcases hname with hwrites | rfl
        · exact hsent kind hclock hwrites
        · cases hclock

variable {s : Service} {r : Request}

/-! ## Any number of requests -/

/-- What is without the password stays a document. -/
theorem isDocument_withoutPassword {fs : Fields Value} (h : (Value.object fs).IsDocument) :
    (withoutPassword fs).IsDocument := by
  refine .object ?_ ?_
  · rw [Fields.names_erase]
    exact h.names_nodup.filter _
  · intro f hf
    exact h.field f (List.mem_filter.mp hf).1

/-- A request without the password stores no names of kinds of the clock but those that it writes, none of which is
that of a kind itself. -/
theorem stored_answer {K : Text → Prop} (hmaster : s.master ≠ []) (hunknown : ¬ r.Supplies s.master)
    (hsound : s.catalog.Sound) (hstored : ∀ w ∈ s.catalog.stored, w.ClockNamesIn K)
    (hsent : ∀ payload kind, r.document? = some payload → Writes payload kind → kind ∉ Trigger.clockKinds → K kind) :
    (s.answer r).2.catalog.Sound ∧ ∀ w ∈ (s.answer r).2.catalog.stored, w.ClockNamesIn K := by
  rcases (answer_footprint s r).catalog with hsame | ⟨deed, d, hdone, hmay⟩
  · rw [hsame]
    exact ⟨hsound, hstored⟩
  · -- what is taken in is a document, and was let pass because it does not need the master
    have hpassed : ∀ {seconds payload}, deed = .accept seconds payload →
        payload.IsDocument ∧ ∀ kind, Trigger.isClock kind = true → Writes payload kind → K kind := by
      rintro seconds payload rfl
      obtain ⟨fs, hdocument, rfl, hneeded⟩ := hmay
      obtain ⟨t, -, hread⟩ := Option.bind_eq_some_iff.mp hdocument
      refine ⟨isDocument_withoutPassword (Json.isDocument_of_read? hread), ?_⟩
      intro kind hclock hwrites
      have hwritten := writes_withoutPassword hwrites
      rcases hneeded with hfree | hallowed
      · exact hsent _ kind hdocument hwritten (not_clockKind_of_writes hfree hwritten)
      · rw [isDenied_of_document hmaster hunknown hdocument] at hallowed
        cases hallowed
    have hdeed : deed.Sent Value.IsDocument ∧
        deed.Sent fun payload => ∀ kind, Trigger.isClock kind = true → Writes payload kind → K kind := by
      cases deed with
      | accept seconds payload => exact hpassed rfl
      | _ => exact ⟨trivial, trivial⟩
    rw [hdone]
    refine ⟨hsound.perform (s := ⟨s.catalog, d⟩) hdeed.1, ?_⟩
    apply Catalog.Deed.stored_perform (s := ⟨s.catalog, d⟩) hsound hdeed.1 _ _ hstored
    · intro w u hw hcheck kind hkind
      rw [Workflow.kinds_of_check_toValue hcheck] at hkind
      exact hw kind hkind
    · intro ws reply hcomes
      exact clockNames_of_write hcomes hdeed.2 fun w hw => hstored w (List.mem_append_left _ hw)

/-- Requests without the password store no names of kinds of the clock but those that they write, none of which is
that of a kind itself. -/
theorem stored_past {K : Text → Prop} {arrivals : List Arrival} (hmaster : s.master ≠ [])
    (hunknown : ∀ a ∈ arrivals, ¬ a.request.Supplies s.master) (hsound : s.catalog.Sound)
    (hstored : ∀ w ∈ s.catalog.stored, w.ClockNamesIn K)
    (hsent : ∀ a ∈ arrivals, ∀ payload kind, a.request.document? = some payload → Writes payload kind →
      kind ∉ Trigger.clockKinds → K kind) :
    ∀ w ∈ (past arrivals s).catalog.stored, w.ClockNamesIn K := by
  induction arrivals generalizing s with
  | nil => exact hstored
  | cons a arrivals ih =>
      obtain ⟨hfirst, hrest⟩ := List.forall_mem_cons.mp hunknown
      obtain ⟨hsentFirst, hsentRest⟩ := List.forall_mem_cons.mp hsent
      have hkept : (a.answer s).2.master = s.master := (answer_footprint (a.before s) a.request).master
      obtain ⟨hsound, hstored⟩ := stored_answer (s := a.before s) hmaster hfirst hsound hstored hsentFirst
      apply ih
      · rw [hkept]
        exact hmaster
      · rw [hkept]
        exact hrest
      · exact hsound
      · exact hstored
      · exact hsentRest

/-- Where no kind of the clock is stored at first, requests without the password can store one only under a name with
blanks around it, which one of them has to write. -/
theorem clockKinds_padded (s : Service) (arrivals : List Arrival) (hmaster : s.master ≠ [])
    (hreached : s.catalog.Reached) (hstart : ∀ w ∈ s.catalog.stored, ∀ kind ∈ w.kinds, Trigger.isClock kind = false)
    (hunknown : ∀ a ∈ arrivals, ¬ a.request.Supplies s.master) :
    ∀ w ∈ (past arrivals s).catalog.stored, ∀ kind ∈ w.kinds, Trigger.isClock kind = true →
      kind ∉ Trigger.clockKinds ∧
        ∃ a ∈ arrivals, ∃ payload, a.request.document? = some payload ∧ Writes payload kind := by
  have hpast := stored_past (K := fun kind => kind ∉ Trigger.clockKinds ∧
    ∃ a ∈ arrivals, ∃ payload, a.request.document? = some payload ∧ Writes payload kind) hmaster hunknown hreached.sound
  apply hpast
  · intro w hw kind hkind hclock
    rw [hstart w hw kind hkind] at hclock
    cases hclock
  · intro a ha payload kind hdocument hwrites hother
    exact ⟨hother, a, ha, payload, hdocument, hwrites⟩

/-! ## Samples -/

/-- A service with a password and no workflows. -/
def lockedService : Service := { sampleService with master := "secret" }

/-- A workflow with a tab behind the name of its kind, and a blank before that of its trigger. -/
def paddedWorkflow : Value :=
  .object [("id", .text "w"), ("trigger_type", .text "timer\t"),
    ("nodes", .list [.object [("id", .text "t"), ("type", .text "trigger"),
      ("data", .object [("trigger_type", .text " scheduled")])]])]

/-- Somebody saves the workflow without the password. -/
def paddedSave : Arrival := ⟨.post "/api/workflows/save" [] paddedWorkflow, id, .zero⟩

theorem clockKinds_padded_of_save :
    lockedService.catalog.stored = [] ∧
      ∀ w ∈ (past [paddedSave] lockedService).catalog.stored, ∀ kind ∈ w.kinds, Trigger.isClock kind = true →
        kind ∉ Trigger.clockKinds ∧
          ∃ a ∈ [paddedSave], ∃ payload, a.request.document? = some payload ∧ Writes payload kind := by
  have hreached : lockedService.catalog.Reached := ⟨.absent, .ofNumbers [], [], by simp, rfl⟩
  have hnone : lockedService.catalog.stored = [] := rfl
  have hstart : ∀ w ∈ lockedService.catalog.stored, ∀ kind ∈ w.kinds, Trigger.isClock kind = false := by
    intro w hw
    rw [hnone] at hw
    cases hw
  have hunknown : ∀ a ∈ [paddedSave], ¬ a.request.Supplies lockedService.master := by
    decide +kernel
  exact ⟨hnone, clockKinds_padded lockedService [paddedSave] (by decide) hreached hstart hunknown⟩

/-- Then a workflow of the clock is stored: the guard knows neither name, and a trigger takes each for one of its
kinds. -/
theorem clockKind_saved :
    (lockedService.master ≠ [] ∧ lockedService.catalog.stored = [] ∧
        ¬ paddedSave.request.Supplies lockedService.master) ∧
      ((past [paddedSave] lockedService).catalog.stored.map fun w => w.kinds.map Trigger.isClock) =
        [[true, true], [true, true]] := by
  decide +kernel

end Service

end ChatFlow
