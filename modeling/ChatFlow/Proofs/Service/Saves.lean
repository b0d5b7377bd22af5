import ChatFlow.Proofs.Catalog.Reports
import ChatFlow.Proofs.Service.Timers

/-!
# Workflows that are saved

Whoever saves a workflow is told what came of it, in a document: it was saved, or there is a reason that it was not, or
it takes the master. Before that it is looked at whether it takes the master, and there the request breaks if something
stands where nodes or their settings should that is neither such nor empty.

* `Service.Stumbles`: the documents that cannot be looked at.
* `Service.exists_needsMaster_iff`: of all others it is known whether they take the master.
* `Service.IsSaveAnswer`: what somebody can be told.
* `Service.save_answered`: who is told something, and whose request breaks.
* `Service.save_breaks`: two requests that break.
-/

namespace ChatFlow.Service

variable {s : Service} {r : Request} {fs : Fields Value}

/-! ## Documents that cannot be looked at -/

/-- Can a value be gone through as nodes, or does it count as none? -/
def holdsNodes : Value → Bool
  | .list _ | .object _ | .text _ => true
  | v => !v.truthy

/-- Can a value be looked into as the settings of a node, or does it count as none? -/
def holdsSettings : Value → Bool
  | .object _ => true
  | v => !v.truthy

/-- A trigger whose settings cannot be looked into. -/
def IsSealed (node : Value) : Prop :=
  node.fieldOrNull "type" = .text "trigger" ∧ holdsSettings (node.fieldOrNull "data") = false

/-- A document that cannot be looked at: it is no workflow of the clock by its own kind, and its nodes cannot be gone
through, or among them comes a trigger whose settings cannot be looked into, before any trigger of the clock. -/
def Stumbles (payload : Value) : Prop :=
  isClockKind (payload.fieldOrNull "trigger_type") = false ∧
    (holdsNodes (payload.fieldOrNull "nodes") = false ∨
      ∃ before node after, sentNodes payload = .ok (before ++ node :: after) ∧
        (∀ u ∈ before, isClockTrigger u = .ok false) ∧ IsSealed node)

theorem exists_sentNodes {payload : Value} (h : holdsNodes (payload.fieldOrNull "nodes") = true) :
    ∃ nodes, sentNodes payload = .ok nodes := by
  unfold sentNodes
  unfold holdsNodes at h
  cases hnodes : payload.fieldOrNull "nodes" with
  | list nodes => exact ⟨_, rfl⟩
  | object nodes => exact ⟨_, rfl⟩
  | text t => exact ⟨_, rfl⟩
  | _ =>
      rw [hnodes] at h
      dsimp only at h ⊢
      rw [Bool.not_eq_true'] at h
      rw [h]
      exact ⟨_, rfl⟩

theorem sentNodes_of_not_holds {payload : Value} (h : holdsNodes (payload.fieldOrNull "nodes") = false) :
    sentNodes payload = .error .noItems := by
  unfold sentNodes
  unfold holdsNodes at h
  cases hnodes : payload.fieldOrNull "nodes" with
  | list nodes =>
      rw [hnodes] at h
      cases h
  | object nodes =>
      rw [hnodes] at h
      cases h
  | text t =>
      rw [hnodes] at h
      cases h
  | _ =>
      rw [hnodes] at h
      dsimp only at h ⊢
      rw [Bool.not_eq_false'] at h
      rw [if_pos h]

/-- A trigger whose settings cannot be looked into breaks the look at the nodes. -/
theorem isClockTrigger_of_sealed {node : Value} (h : IsSealed node) : isClockTrigger node = .error .noFields := by
  obtain ⟨htype, hdata⟩ := h
  rw [isClockTrigger, if_neg (not_not_intro htype)]
  unfold holdsSettings at hdata
  cases hsettings : node.fieldOrNull "data" with
  | object fields =>
      rw [hsettings] at hdata
      cases hdata
  | _ =>
      rw [hsettings] at hdata
      dsimp only at hdata ⊢
      rw [Bool.not_eq_false'] at hdata
      rw [if_pos hdata]

/-- Any other node can be looked at. -/
theorem exists_isClockTrigger {node : Value} (h : ¬ IsSealed node) : ∃ found, isClockTrigger node = .ok found := by
  unfold isClockTrigger
  split
  · exact ⟨_, rfl⟩
  · next htype =>
      have hopen : holdsSettings (node.fieldOrNull "data") = true := by
        by_contra hsealed
        exact h ⟨not_not.mp htype, Bool.eq_false_of_not_eq_true hsealed⟩
      unfold holdsSettings at hopen
      cases hsettings : node.fieldOrNull "data" with
      | object fields => exact ⟨_, rfl⟩
      | _ =>
          rw [hsettings] at hopen
          dsimp only at hopen ⊢
          rw [Bool.not_eq_true'] at hopen
          rw [hopen]
          exact ⟨_, rfl⟩

/-- The look at the nodes ends at the first trigger of the clock, or breaks at a node before it. -/
theorem exists_anyClockTrigger_iff (nodes : List Value) :
    (∃ found, anyClockTrigger nodes = .ok found) ↔
      ¬ ∃ before node after, nodes = before ++ node :: after ∧ (∀ u ∈ before, isClockTrigger u = .ok false) ∧
        IsSealed node := by
  induction nodes with
  | nil =>
      constructor
      · rintro - ⟨before, node, after, hnodes, -⟩
        exact List.append_ne_nil_of_right_ne_nil _ (List.cons_ne_nil _ _) hnodes.symm
      · intro _
        exact ⟨false, rfl⟩
  | cons first rest ih =>
      by_cases hsealed : IsSealed first
      · -- it breaks at once
        constructor
        · rintro ⟨found, hfound⟩
          rw [anyClockTrigger, isClockTrigger_of_sealed hsealed] at hfound
          cases hfound
        · intro hnone
          exact absurd ⟨[], first, rest, rfl, by simp, hsealed⟩ hnone
      · obtain ⟨found, hfirst⟩ := exists_isClockTrigger hsealed
        cases found with
        | true =>
            constructor
            · rintro - ⟨before, node, after, hnodes, hbefore, hnode⟩
              rcases List.cons_eq_append_iff.mp hnodes with ⟨rfl, hsame⟩ | ⟨before', rfl, -⟩
              · cases hsame
                exact hsealed hnode
              · have hfalse := hbefore first List.mem_cons_self
                rw [hfirst] at hfalse
                cases hfalse
            · intro _
              refine ⟨true, ?_⟩
              rw [anyClockTrigger, hfirst]
              rfl
        | false =>
            have hrest : anyClockTrigger (first :: rest) = anyClockTrigger rest := by
              rw [anyClockTrigger, hfirst]
              rfl
            rw [hrest, ih]
            apply not_congr
            constructor
            · rintro ⟨before, node, after, rfl, hbefore, hnode⟩
              exact ⟨first :: before, node, after, rfl, List.forall_mem_cons.mpr ⟨hfirst, hbefore⟩, hnode⟩
            · rintro ⟨before, node, after, hnodes, hbefore, hnode⟩
              rcases List.cons_eq_append_iff.mp hnodes with ⟨rfl, hfirst⟩ | ⟨before', rfl, hlater⟩
              · cases hfirst
                exact absurd hnode hsealed
              · exact ⟨before', node, after, hlater, (List.forall_mem_cons.mp hbefore).2, hnode⟩

/-- It is known whether a document takes the master, unless it cannot be looked at. -/
theorem exists_needsMaster_iff (fs : Fields Value) :
    (∃ needed, needsMaster (.object fs) = .ok needed) ↔ ¬ Stumbles (.object fs) := by
  unfold needsMaster Stumbles
  dsimp only
  cases hown : isClockKind ((Value.object fs).fieldOrNull "trigger_type") with
  | true =>
      constructor
      · rintro - ⟨⟨⟩, -⟩
      · intro _
        exact ⟨true, rfl⟩
  | false =>
      rw [if_neg Bool.false_ne_true]
      cases hholds : holdsNodes ((Value.object fs).fieldOrNull "nodes") with
      | false =>
          rw [sentNodes_of_not_holds hholds]
          constructor
          · rintro ⟨needed, ⟨⟩⟩
          · intro hopen
            exact absurd ⟨rfl, .inl rfl⟩ hopen
      | true =>
          obtain ⟨nodes, hnodes⟩ := exists_sentNodes hholds
          have hlook : (do anyClockTrigger (← sentNodes (.object fs))) = anyClockTrigger nodes := by
            rw [hnodes]
            rfl
          rw [hlook, exists_anyClockTrigger_iff]
          apply not_congr
          constructor
          · rintro ⟨before, node, after, rfl, hbefore, hnode⟩
            exact ⟨rfl, .inr ⟨before, node, after, hnodes, hbefore, hnode⟩⟩
          · rintro ⟨-, hstuck⟩
            rcases hstuck with hfalse | ⟨before, node, after, hsent, hbefore, hnode⟩
            · cases hfalse
            · rw [hnodes] at hsent
              exact ⟨before, node, after, Except.ok.inj hsent, hbefore, hnode⟩

/-! ## What is answered -/

/-- What somebody who saves a workflow is told: that it takes the master, that it was saved under an id, or for which
reason it was not. -/
def IsSaveAnswer (document : Value) : Prop :=
  document = denial ∨ ∃ r : Report, Catalog.IsSaveReport r ∧ document = r.toValue

/-- A report can be sent. -/
theorem responseOf_report {r : Report} (h : Catalog.IsSaveReport r) : responseOf r.toValue = .done r.toValue := by
  have hwf : (Json.text .line r.toValue).isWellFormed = r.toValue.isEncodable := Json.isWellFormed_textAt rfl 0 _
  unfold responseOf
  rcases h with ⟨id, hid, rfl⟩ | ⟨reason, hreason, -, rfl⟩
  · have hencodable : (Report.done "已保存" [("id", .text id)]).toValue.isEncodable = true := by
      simp [Report.done, Report.toValue, Value.isEncodable, Value.fieldsEncodable, hid]
    rw [hwf, if_pos hencodable]
    rfl
  · have hencodable : (Report.failed reason).toValue.isEncodable = true := by
      simp [Report.failed, Report.toValue, Value.isEncodable, Value.fieldsEncodable, hreason]
    rw [hwf, if_pos hencodable]
    rfl

/-- What is without the password has no surrogates either. -/
theorem isEncodable_withoutPassword (h : (Value.object fs).isEncodable = true) :
    (withoutPassword fs).isEncodable = true := by
  apply Value.isEncodable_object.mpr
  intro f hf
  exact Value.isEncodable_object.mp h f (List.mem_filter.mp hf).1

/-- Who saves a workflow that can be looked at is told what came of it. -/
theorem saveWorkflow_answered (hdocument : (Value.object fs).IsDocument)
    (hencodable : (Value.object fs).isEncodable = true) (hsound : s.catalog.Sound) (hall : s.catalog.IsEncodable)
    {needed : Bool} (hneeded : needsMaster (.object fs) = .ok needed) :
    ∃ document, (respond (s.saveWorkflow r fs)).1 = .done document ∧ IsSaveAnswer document := by
  unfold saveWorkflow
  rw [hneeded]
  dsimp only
  split
  · exact ⟨denial, rfl, .inl rfl⟩
  · obtain ⟨report, hreport, hkind⟩ := Catalog.accept_report (s := ⟨s.catalog, s.world.dice⟩)
      (isDocument_withoutPassword hdocument) (isEncodable_withoutPassword hencodable) hsound hall
    have haccept : (s.accept (withoutPassword fs)).1 = .ok report := Catalog.Answer.report.inj hreport
    refine ⟨report.toValue, ?_, .inr ⟨report, hkind, rfl⟩⟩
    rw [reported, haccept]
    exact responseOf_report hkind

/-- Whatever object without surrogates somebody sends who saves a workflow, and whatever the password is: if it can be
looked at, it is known whether it takes the master, and what came of it is told. If it cannot, the request breaks, and
nothing is done. -/
theorem save_answered (s : Service) (r : Request) (fs : Fields Value) (hpath : r.path = "/api/workflows/save")
    (hmethod : r.method = "POST") (hdocument : r.document? = some (.object fs))
    (hencodable : (Value.object fs).isEncodable = true) (hreached : s.catalog.Reached) (hall : s.catalog.IsEncodable) :
    (¬ Stumbles (.object fs) → (∃ needed, needsMaster (.object fs) = .ok needed) ∧
      ∃ document, (s.answer r).1 = .done document ∧ IsSaveAnswer document) ∧
    (Stumbles (.object fs) →
      ∃ fault, needsMaster (.object fs) = .error fault ∧ s.answer r = (.broken fault, s)) := by
  have hanswer : s.answer r = respond (s.saveWorkflow r fs) := by
    have hroute : Fields.get? Route.paths "/api/workflows/save" = some .saveWorkflow := rfl
    rw [answer, hpath, hroute]
    exact (if_pos hmethod).trans (withBody_of_document hdocument rfl)
  have hread : (Value.object fs).IsDocument := by
    obtain ⟨t, -, hread⟩ := Option.bind_eq_some_iff.mp hdocument
    exact Json.isDocument_of_read? hread
  constructor
  · intro hopen
    obtain ⟨needed, hneeded⟩ := (exists_needsMaster_iff fs).mpr hopen
    refine ⟨⟨needed, hneeded⟩, ?_⟩
    rw [hanswer]
    exact saveWorkflow_answered hread hencodable hreached.sound hall hneeded
  · intro hstuck
    cases hneeded : needsMaster (.object fs) with
    | ok needed => exact absurd hstuck ((exists_needsMaster_iff fs).mp ⟨needed, hneeded⟩)
    | error fault =>
        refine ⟨fault, rfl, ?_⟩
        rw [hanswer, saveWorkflow, hneeded]
        rfl

/-! ## Samples -/

/-- A request that saves a workflow. -/
def saveRequest (fs : Fields Value) : Request := .post "/api/workflows/save" [] (.object fs)

/-- A workflow with a trigger whose settings are null, and a node behind it that is a number. -/
def oddFields : Fields Value :=
  [("nodes", .list [.object [("type", .text "trigger"), ("data", .null)], .int 3])]

theorem save_answered_of_odd :
    (¬ Stumbles (.object oddFields) → (∃ needed, needsMaster (.object oddFields) = .ok needed) ∧
      ∃ document, (lockedService.answer (saveRequest oddFields)).1 = .done document ∧ IsSaveAnswer document) ∧
    (Stumbles (.object oddFields) → ∃ fault, needsMaster (.object oddFields) = .error fault ∧
      lockedService.answer (saveRequest oddFields) = (.broken fault, lockedService)) := by
  have hdocument : (saveRequest oddFields).document? = some (.object oddFields) := by
    decide +kernel
  have hencodable : (Value.object oddFields).isEncodable = true := by
    decide +kernel
  have hreached : lockedService.catalog.Reached := ⟨.absent, .ofNumbers [], [], by simp, rfl⟩
  have hall : lockedService.catalog.IsEncodable := by
    constructor
    · decide +kernel
    · decide +kernel
  exact save_answered lockedService (saveRequest oddFields) oddFields rfl rfl hdocument hencodable hreached hall

/-- A number for the nodes, and a text for the settings of a trigger: neither has surrogates, and both requests
break. -/
theorem save_breaks :
    (lockedService.answer (saveRequest [("nodes", .int 3)])).1.status = 500 ∧
      (lockedService.answer (saveRequest [("nodes", .list [.object
        [("type", .text "trigger"), ("data", .text "x")]])])).1.status = 500 ∧
      needsMaster (.object [("nodes", .int 3)]) = .error .noItems ∧
      needsMaster (.object [("nodes", .list [.object [("type", .text "trigger"), ("data", .text "x")]])]) =
        .error .noFields := by
  refine ⟨?_, ?_, rfl, rfl⟩
  · decide +kernel
  · decide +kernel

end ChatFlow.Service
