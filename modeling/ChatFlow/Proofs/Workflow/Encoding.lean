import ChatFlow.File
import ChatFlow.Proofs.Json.Encoding
import ChatFlow.Proofs.Json.RoundTrip
import ChatFlow.Proofs.Workflow.Settled

/-!
# Workflows that are written into files

Whatever a reader of a workflow takes over from a document without surrogates has none: it takes a text as it
is, or the text that shows a value, or a text of its own. So the workflow is written into a file, and what is
found there is the workflow that was written.

* `Value.isEncodable_settled`, `Loose.isWellFormed_text`, `Check.isWellFormed_of_field`: the parts.
* `Node.isEncodable_toValue`, `Workflow.isEncodable_toValue`: what is written of a workflow that was read.
* `File.document?_writeDocument`: a file holds what was written into it.
* `Workflow.check_written`: a workflow that was read once is read again as it was, from a file too.
-/

namespace ChatFlow

variable {fs gs : Fields Value} {v : Value}

/-! ## Fields -/

namespace Value

theorem fieldsEncodable_append :
    fieldsEncodable (fs ++ gs) = true ↔ fieldsEncodable fs = true ∧ fieldsEncodable gs = true := by
  rw [fieldsEncodable_iff, fieldsEncodable_iff, fieldsEncodable_iff]
  exact List.forall_mem_append

mutual

/-- Null has no surrogate, so that it can stand for a number that is not finite. -/
theorem isEncodable_settled : ∀ v : Value, v.settled.isEncodable = v.isEncodable
  | .float x => by
      rw [settled]
      split <;> rfl
  | .list items => itemsEncodable_settledItems items
  | .object fields => fieldsEncodable_settledFields fields
  | .null | .bool _ | .int _ | .text _ | .bytes _ => rfl

theorem itemsEncodable_settledItems : ∀ vs : List Value, itemsEncodable (settledItems vs) = itemsEncodable vs
  | [] => rfl
  | v :: rest => congrArg₂ and (isEncodable_settled v) (itemsEncodable_settledItems rest)

theorem fieldsEncodable_settledFields :
    ∀ fs : List (Text × Value), fieldsEncodable (settledFields fs) = fieldsEncodable fs
  | [] => rfl
  | (name, v) :: rest =>
      congrArg₂ and (congrArg (name.isWellFormed && ·) (isEncodable_settled v))
        (fieldsEncodable_settledFields rest)

end

theorem fieldsEncodable_without (h : fieldsEncodable fs = true) (names : List Text) :
    fieldsEncodable (fs.without names) = true := by
  refine fieldsEncodable_iff.mpr ?_
  rintro ⟨name, v⟩ hf
  exact fieldsEncodable_iff.mp h _ (Fields.mem_without.mp hf).1

theorem isEncodable_of_get? (h : fieldsEncodable fs = true) {name : Text} (hget : fs.get? name = some v) :
    v.isEncodable = true :=
  (fieldsEncodable_iff.mp h _ (Fields.mem_of_get? hget)).2

end Value

open Value (fieldsEncodable)

namespace Check

variable {t : Text}

theorem isWellFormed_of_text (h : text v = accepted t) (hv : v.isEncodable = true) :
    t.isWellFormed = true := by
  cases v with
  | text u =>
      cases h
      exact hv
  | int n =>
      cases h
      exact Text.isWellFormed_ofInt n
  | float x =>
      cases h
      exact Double.isWellFormed_toText x
  | _ => cases h

theorem isWellFormed_of_field (hfs : fieldsEncodable fs = true) {name : Text}
    (h : field fs name text = accepted t) : t.isWellFormed = true := by
  unfold field at h
  cases hget : fs.get? name with
  | none =>
      rw [hget] at h
      cases h
  | some v =>
      rw [hget] at h
      exact isWellFormed_of_text h (Value.isEncodable_of_get? hfs hget)

theorem isWellFormed_of_fieldOr (hfs : fieldsEncodable fs = true) {name other : Text}
    (hother : other.isWellFormed = true) (h : fieldOr fs name other text = accepted t) :
    t.isWellFormed = true := by
  unfold fieldOr at h
  cases hget : fs.get? name with
  | none =>
      rw [hget] at h
      cases h
      exact hother
  | some v =>
      rw [hget] at h
      exact isWellFormed_of_text h (Value.isEncodable_of_get? hfs hget)

end Check

/-! ## Settings -/

namespace Loose

/-- A value that is not a text is taken as the text that shows it. -/
theorem isWellFormed_text (hfs : fieldsEncodable fs = true) (name : Text) {other : Text}
    (hother : other.isWellFormed = true) : (text fs name other).isWellFormed = true := by
  unfold text
  cases hget : fs.get? name with
  | none => exact hother
  | some v =>
      have hv := Value.isEncodable_of_get? hfs hget
      have hshown : (Json.text .line v).isWellFormed = true := (Json.isWellFormed_textAt rfl 0 v).trans hv
      cases v with
      | null => exact hother
      | bool b => cases b <;> rfl
      | int n => exact Text.isWellFormed_ofInt n
      | float x => exact Double.isWellFormed_toText x
      | text t => exact hv
      | bytes b => exact hshown
      | list items => exact hshown
      | object fields => exact hshown

theorem isEncodable_any (hfs : fieldsEncodable fs = true) (name : Text) {other : Value}
    (hother : other.isEncodable = true) : (any fs name other).isEncodable = true := by
  unfold any
  split
  · exact hother
  · exact hother
  · next hget => exact Value.isEncodable_of_get? hfs hget

end Loose

namespace NodeBody

theorem isWellFormed_label (k : NodeKind) : k.label.isWellFormed = true := by
  cases k <;> rfl

/-- The settings of every kind are texts that are taken over, words, truth values and numbers; only what
stands in for a stored value is any value. -/
theorem fieldsEncodable_declared (k : NodeKind) (hfs : fieldsEncodable fs = true) :
    fieldsEncodable (ofFields k fs).declared = true := by
  have htext : ∀ name {other : Text}, other.isWellFormed = true →
      (Loose.text fs name other).isWellFormed = true := fun name _ => Loose.isWellFormed_text hfs name
  have hempty : ∀ name, (Loose.text fs name []).isWellFormed = true := fun name => htext name rfl
  have hany : (Loose.any fs "default_value" (.int 0)).isEncodable = true :=
    Loose.isEncodable_any hfs _ rfl
  have hshared : ∀ op : SharedOp, op.label.isWellFormed = true := by
    intro op
    cases op <;> rfl
  have huser : ∀ op : UserOp, op.label.isWellFormed = true := by
    intro op
    cases op with
    | shared op => exact hshared op
    | delete => rfl
  have hquery : ∀ query : RankingQuery, query.label.isWellFormed = true := by
    intro query
    cases query <;> rfl
  have hsender : ActionData.sender.isWellFormed = true := rfl
  have hparams : ActionData.noParams.isWellFormed = true := rfl
  cases k with
  | trigger =>
      simp [declared, ofFields, TriggerData.declared, TriggerData.ofFields, fieldsEncodable,
        Value.isEncodable, htext, hempty]
  | condition =>
      simp [declared, ofFields, ConditionData.declared, ConditionData.ofFields, fieldsEncodable,
        Value.isEncodable, htext, hempty]
  | action =>
      simp [declared, ofFields, ActionData.declared, ActionData.ofFields, fieldsEncodable,
        Value.isEncodable, htext, hempty, hsender, hparams]
  | delay =>
      simp [declared, ofFields, DelayData.declared, DelayData.ofFields, fieldsEncodable, Value.isEncodable]
  | setVar =>
      simp [declared, ofFields, SetVarData.declared, SetVarData.ofFields, fieldsEncodable,
        Value.isEncodable, hempty]
  | storage =>
      simp [declared, ofFields, StorageData.declared, StorageData.ofUserFields, StorageData.ofFields,
        fieldsEncodable, Value.isEncodable, htext, hempty, hany, huser]
  | sharedStorage =>
      simp [declared, ofFields, StorageData.declared, StorageData.ofSharedFields, StorageData.ofFields,
        fieldsEncodable, Value.isEncodable, htext, hempty, hany, hshared]
  | leaderboard =>
      simp [declared, ofFields, LeaderboardData.declared, LeaderboardData.ofFields, fieldsEncodable,
        Value.isEncodable, htext, hquery]
  | listRandom =>
      simp [declared, ofFields, ListRandomData.declared, ListRandomData.ofFields, fieldsEncodable,
        Value.isEncodable, htext, hempty]

theorem fieldsEncodable_toFields (k : NodeKind) (hfs : fieldsEncodable fs = true) :
    fieldsEncodable (ofFields k fs).toFields = true := by
  rw [toFields_eq, extra_ofFields]
  exact Value.fieldsEncodable_append.mpr
    ⟨fieldsEncodable_declared k hfs, Value.fieldsEncodable_without hfs _⟩

end NodeBody

/-! ## Nodes and connections -/

namespace Node

/-- What is written of a node that was read of a document without surrogates has none. -/
theorem isEncodable_toValue {n : Node} (h : check v = .accepted n) (hv : v.isEncodable = true) :
    n.toValue.isEncodable = true := by
  obtain ⟨fs, k, body, rfl, hid, hbody, hn⟩ := exists_fields h
  have hfs : fieldsEncodable fs = true := hv
  have hname := Check.isWellFormed_of_field hfs hid
  obtain ⟨data, rfl, hdata⟩ := exists_data hbody
  have hsettings : fieldsEncodable (NodeBody.ofFields k data).toFields = true := by
    refine NodeBody.fieldsEncodable_toFields k ?_
    rcases hdata with rfl | hmem
    · rfl
    · exact (Value.fieldsEncodable_iff.mp hfs _ hmem).2
  have hcoordinate : ∀ x, (coordinate x).isEncodable = true := by
    intro x
    cases x <;> rfl
  generalize n.id = id at hn hname
  subst hn
  rw [toValue_eq]
  refine Value.fieldsEncodable_append.mpr ⟨?_, ?_⟩
  · have hobject : (Value.object (NodeBody.ofFields k data).toFields).settled.isEncodable = true :=
      (Value.isEncodable_settled _).trans hsettings
    simp [declared, fieldsEncodable, hcoordinate, hobject, Value.isEncodable, hname,
      NodeBody.isWellFormed_label]
  · rw [Value.fieldsEncodable_settledFields]
    exact Value.fieldsEncodable_without hfs _

end Node

namespace Connection

theorem isWellFormed_checkEnd {fs : Fields Value} (hv : (Value.object fs).IsDocument)
    (hfs : fieldsEncodable fs = true) {name older t : Text}
    (h : checkEnd (either? fs name older) = .accepted t) : t.isWellFormed = true := by
  have hend : ∀ u, either? fs name older = some u → u.IsDocument ∧ u.isEncodable = true := by
    intro u hu
    have hmem : ∃ n, (n, u) ∈ fs := by
      unfold either? at hu
      cases hget : fs.get? name with
      | none =>
          rw [hget] at hu
          exact ⟨older, Fields.mem_of_get? hu⟩
      | some u' =>
          rw [hget] at hu
          cases hu
          exact ⟨name, Fields.mem_of_get? hget⟩
    obtain ⟨n, hn⟩ := hmem
    exact ⟨hv.field _ hn, (Value.fieldsEncodable_iff.mp hfs _ hn).2⟩
  unfold checkEnd at h
  split at h
  · cases h
  · cases h
  · next u _ hu =>
      obtain ⟨hdocument, hencodable⟩ := hend u hu
      cases hplain : u.plain with
      | error e =>
          rw [hplain] at h
          cases h
      | ok s =>
          rw [hplain] at h
          cases h
          exact Value.isWellFormed_plain hdocument hencodable hplain

/-- What is written of a connection that was read of a document without surrogates has none. -/
theorem isEncodable_toValue {c : Connection} (h : check v = .accepted c) (hdocument : v.IsDocument)
    (hv : v.isEncodable = true) : c.toValue.isEncodable = true := by
  unfold check at h
  split at h
  · next fs =>
      obtain ⟨f₂, slot, h₂, -, rfl⟩ := Check.seq_eq_accepted.mp h
      obtain ⟨f₁, target, h₁, htarget, rfl⟩ := Check.seq_eq_accepted.mp h₂
      obtain ⟨origin, horigin, rfl⟩ := Check.map_eq_accepted.mp h₁
      have hstart := isWellFormed_checkEnd hdocument hv horigin
      have hstop := isWellFormed_checkEnd hdocument hv htarget
      have hslot : slot.label.isWellFormed = true := by
        cases slot <;> rfl
      show fieldsEncodable _ = true
      simp [fieldsEncodable, Value.isEncodable, hstart, hstop, hslot]
  · cases h

end Connection

/-! ## Workflows -/

namespace Workflow

variable {w : Workflow}

theorem fieldsEncodable_nodesOf (hfs : fieldsEncodable fs = true) : fieldsEncodable (nodesOf fs) = true := by
  unfold nodesOf
  split
  · next nodes hnodes =>
      have hobject : fieldsEncodable nodes = true := Value.isEncodable_of_get? hfs hnodes
      refine Value.fieldsEncodable_iff.mpr ?_
      intro f hf
      rcases Fields.mem_set hf with hold | rfl
      · exact Value.fieldsEncodable_iff.mp hfs f hold
      · refine ⟨rfl, Value.isEncodable_list.mpr ?_⟩
        intro v hv
        obtain ⟨g, hg, rfl⟩ := List.mem_map.mp hv
        exact (Value.fieldsEncodable_iff.mp hobject g hg).2
  · exact hfs

/-- What is written of a workflow that was read of a document without surrogates has none. -/
theorem isEncodable_toValue (h : check v = .accepted w) (hdocument : v.IsDocument)
    (hv : v.isEncodable = true) : w.toValue.isEncodable = true := by
  obtain ⟨fs, rfl, hparts⟩ := exists_parts h
  have hfs := fieldsEncodable_nodesOf hv
  have hobject := (nodesOf_spec hdocument).1
  have hid := Check.isWellFormed_of_field hfs hparts.id
  have hname := Check.isWellFormed_of_fieldOr hfs rfl hparts.name
  have hkind := Check.isWellFormed_of_fieldOr hfs rfl hparts.triggerKind
  have hcontent := Check.isWellFormed_of_fieldOr hfs rfl hparts.triggerContent
  have hnodes : (Value.list (w.nodes.map Node.toValue)).isEncodable = true := by
    refine Value.isEncodable_list.mpr ?_
    intro v hv
    obtain ⟨n, hn, rfl⟩ := List.mem_map.mp hv
    obtain ⟨vs, u, hvs, hu, hcheck⟩ := hparts.exists_node n hn
    have hlist := (Value.fieldsEncodable_iff.mp hfs _ hvs).2
    exact Node.isEncodable_toValue hcheck (Value.isEncodable_list.mp hlist u hu)
  have hconnections : (Value.list (w.connections.map Connection.toValue)).isEncodable = true := by
    refine Value.isEncodable_list.mpr ?_
    intro v hv
    obtain ⟨c, hc, rfl⟩ := List.mem_map.mp hv
    obtain ⟨vs, u, hvs, hu, hcheck⟩ := Check.exists_of_fieldOr hparts.connections c hc
    have hlist := (Value.fieldsEncodable_iff.mp hfs _ hvs).2
    exact Connection.isEncodable_toValue hcheck ((hobject.field _ hvs).item u hu)
      (Value.isEncodable_list.mp hlist u hu)
  rw [toValue_eq]
  refine Value.fieldsEncodable_append.mpr ⟨?_, ?_⟩
  · simp only [Value.isEncodable] at hnodes hconnections
    simp [declared, fieldsEncodable, Value.isEncodable, hid, hname, hkind, hcontent, hnodes, hconnections]
  · rw [Value.fieldsEncodable_settledFields, hparts.extra]
    exact Value.fieldsEncodable_without hfs _

end Workflow

/-! ## Files -/

namespace File

/-- A document without surrogates can be written wherever there is a place, and stands there then. -/
theorem document?_writeDocument {f : File} (hfree : f.blocked = false) (hv : v.IsDocument)
    (hencodable : v.isEncodable = true) :
    (f.writeDocument v).1 = .ok true ∧ (f.writeDocument v).2.document? = some v := by
  have htext : (Json.text .file v).isWellFormed = true := (Json.isWellFormed_textAt rfl 0 v).trans hencodable
  have hwrite : f.writeDocument v = (.ok true, ⟨some (Json.text .file v), f.version + 1, false⟩) := by
    rw [writeDocument, write, put, hfree, htext]
    rfl
  rw [hwrite]
  exact ⟨rfl, Json.read?_text rfl hv⟩

end File

namespace Workflow

/-- A workflow that was read of a document is read again as it was, of what is written of it and of a file
into which this is written. The document has no numbers that are not finite and no surrogates; older forms
and values of neighbouring kinds may stand in it. -/
theorem check_written {v : Value} {w : Workflow} (h : check v = .accepted w) (hdocument : v.IsDocument)
    (hfinite : v.settled = v) (hencodable : v.isEncodable = true) :
    check w.toValue = .accepted w ∧
      ∀ f : File, f.blocked = false → (f.writeDocument w.toValue).1 = .ok true ∧
        (f.writeDocument w.toValue).2.document?.map check = some (.accepted w) := by
  have hsettled := settled_of_check h hdocument hfinite
  have hback := hsettled.check_toValue
  refine ⟨hback, ?_⟩
  intro f hfree
  obtain ⟨hwritten, hread⟩ := File.document?_writeDocument hfree hsettled.toWritable.isDocument
    (isEncodable_toValue h hdocument hencodable)
  refine ⟨hwritten, ?_⟩
  rw [hread, Option.map_some, hback]

/-- A workflow as an older editor wrote it: nodes under names, numbers as texts and texts as numbers, and a
connection in the older form. -/
def olderForm : Value :=
  .object [("id", .int 7),
    ("nodes", .object [
      ("first", .object [("id", .text "t"), ("type", .text "trigger"), ("x", .text "12.5")]),
      ("second", .object [("id", .int 3), ("type", .text "delay"),
        ("data", .object [("seconds", .text " 2.5 "), ("note", .null)])])]),
    ("connections", .list [.object [("from", .text "t"), ("to", .int 3), ("port", .text "output-2")]])]

theorem check_written_of_olderForm : ∃ w, (check olderForm = .accepted w ∧ olderForm.IsDocument ∧
      olderForm.settled = olderForm ∧ olderForm.isEncodable = true) ∧
    check w.toValue = .accepted w ∧
      ∀ f : File, f.blocked = false → (f.writeDocument w.toValue).1 = .ok true ∧
        (f.writeDocument w.toValue).2.document?.map check = some (.accepted w) := by
  have hdocument : olderForm.IsDocument :=
    Json.isDocument_of_read? (t := Json.text .line olderForm) (by decide +kernel)
  have hfinite : olderForm.settled = olderForm := by decide +kernel
  have hencodable : olderForm.isEncodable = true := by decide +kernel
  have haccepted : (check olderForm).toOption.isSome = true := by decide +kernel
  cases hread : check olderForm with
  | accepted w =>
      exact ⟨w, ⟨rfl, hdocument, hfinite, hencodable⟩, check_written hread hdocument hfinite hencodable⟩
  | refused n =>
      rw [hread] at haccepted
      cases haccepted

end Workflow

end ChatFlow
