import ChatFlow.Proofs.Text.Cuts
import ChatFlow.Proofs.Text.Digits
import ChatFlow.Proofs.Workflow.Settled
import ChatFlow.Workflow.Trigger

/-!
# Kinds of triggers

A trigger takes the name of its kind without the blanks around it. A name that comes to a kind of the clock so was
written as a text: numbers, truth values, lists and objects are taken for texts too, but for none with such a name.

* `Trigger.kindOf`, `Trigger.isClock`: the kind that a name stands for.
* `Trigger.captures?_of_isClock`: triggers of the clock are set off by no message.
* `Workflow.kinds`: the names of kinds in a workflow, its own and those of its nodes.
* `Node.written_of_check`, `Workflow.written_of_check`: where in a document such a name was written.
* `Workflow.kinds_of_check_toValue`: the names are written and read again as they are.
-/

namespace ChatFlow

/-! ## Names of kinds -/

namespace Trigger

variable {kind : Text} {c : CodePoint}

/-- The kind that a name stands for. -/
def kindOf (kind : Text) : Text := (if kind.isEmpty then ("exact" : Text) else kind).trim

/-- Does a name stand for a kind of triggers that the clock sets off? -/
def isClock (kind : Text) : Bool := clockKinds.contains (kindOf kind)

/-- No message sets off a trigger of the clock. -/
theorem captures?_of_isClock (h : isClock kind = true) (content pattern : Text) :
    captures? kind content pattern = .ok none := by
  have hclock : clockKinds.contains (if kind.isEmpty then ("exact" : Text) else kind).trim = true := h
  rw [captures?, hclock]
  rfl

/-- The name of a kind of the clock has no letters but those of the kind. -/
theorem not_mem_of_isClock (h : isClock kind = true) (hc : c.isBlank = false) (hother : ∀ k ∈ clockKinds, c ∉ k) :
    c ∉ kind := by
  intro hmem
  have hfilled : kind.isEmpty = false := List.isEmpty_eq_false_iff.mpr (List.ne_nil_of_mem hmem)
  have hkind : kindOf kind = kind.trim := by
    rw [kindOf, hfilled]
    rfl
  have hclock : kindOf kind ∈ clockKinds := List.contains_iff_mem.mp h
  exact hother _ hclock (hkind ▸ Text.mem_trim hmem hc)

/-- The name of a kind of the clock has no digit. -/
theorem not_isDigit_of_isClock (h : isClock kind = true) (hc : c ∈ kind) : Json.isDigit c = false := by
  by_contra hdigit
  rw [Bool.not_eq_false, Json.isDigit, Bool.and_eq_true, decide_eq_true_eq, decide_eq_true_eq] at hdigit
  have hblank : c.isBlank = false := by
    simp only [CodePoint.isBlank, Bool.or_eq_false_iff, Bool.and_eq_false_iff, beq_eq_false_iff_ne,
      decide_eq_false_iff_not]
    omega
  -- the letters of the kinds come after the digits
  have hletters : ∀ k ∈ clockKinds, ∀ d ∈ k, 0x39 < d.toNat := by decide
  apply not_mem_of_isClock h hblank _ hc
  intro k hk hmem
  have hbehind := hletters k hk c hmem
  omega

end Trigger

/-! ## Texts of other values -/

/-- There is a digit among the digits of a number. -/
theorem Text.exists_digit_ofNat (n : Nat) : ∃ c ∈ ofNat n, Json.isDigit c = true := by
  obtain ⟨c, hc⟩ := List.exists_mem_of_ne_nil _ (ofNat_ne_nil n)
  exact ⟨c, hc, isDigit_of_mem_ofNat hc⟩

theorem Text.exists_digit_ofInt (n : Int) : ∃ c ∈ ofInt n, Json.isDigit c = true := by
  obtain ⟨c, hc, hdigit⟩ := exists_digit_ofNat n.natAbs
  refine ⟨c, ?_, hdigit⟩
  rw [ofInt]
  split
  · exact List.mem_append_right _ hc
  · exact hc

namespace Double

theorem mem_signed {t : Text} {c : CodePoint} (h : c ∈ t) (negative : Bool) : c ∈ signed negative t := by
  rw [signed]
  split
  · exact List.mem_append_right _ h
  · exact h

/-- There is a digit in the text of a decimal. -/
theorem exists_digit_decimalText (d : Decimal) : ∃ c ∈ decimalText d, Json.isDigit c = true := by
  obtain ⟨c, hc, hdigit⟩ := Text.exists_digit_ofNat d.digits
  have hscientific : ∀ {t : Text}, c ∈ t → c ∈ scientificDigits t := by
    intro t ht
    unfold scientificDigits
    split
    · exact ht
    · exact ht
    · rcases List.mem_cons.mp ht with rfl | hrest
      · exact List.mem_cons_self
      · exact List.mem_cons_of_mem _ (List.mem_cons_of_mem _ hrest)
  refine ⟨c, ?_, hdigit⟩
  unfold decimalText
  dsimp only
  split
  · exact List.mem_append_left _ (hscientific hc)
  · split
    · exact List.mem_append_right _ hc
    · split
      · exact List.mem_append_left _ (List.mem_append_left _ hc)
      · -- the point stands between the digits
        rw [List.append_assoc, List.mem_append, List.mem_append]
        rw [← List.take_append_drop (Int.toNat _) (Text.ofNat d.digits), List.mem_append] at hc
        exact hc.imp_right .inr

/-- The text of a double has a digit, or the `n` of the words for what is no number. -/
theorem exists_toText (x : Double) : ∃ c ∈ x.toText, Json.isDigit c = true ∨ c = .scalar 'n' := by
  cases x with
  | nan => exact ⟨.scalar 'n', by decide, .inr rfl⟩
  | infinite s => exact ⟨.scalar 'n', mem_signed (by decide) s, .inr rfl⟩
  | finite s m =>
      rw [toText]
      split
      · exact ⟨.scalar '0', mem_signed (by decide) s, .inl rfl⟩
      · obtain ⟨c, hc, hdigit⟩ := exists_digit_decimalText m.shortest
        exact ⟨c, mem_signed hc s, .inl hdigit⟩

end Double

namespace Trigger

variable {kind : Text} {v : Value}

theorem ofInt_of_isClock (h : isClock kind = true) (n : Int) : Text.ofInt n ≠ kind := by
  rintro rfl
  obtain ⟨c, hc, hdigit⟩ := Text.exists_digit_ofInt n
  rw [not_isDigit_of_isClock h hc] at hdigit
  cases hdigit

theorem toText_of_isClock (h : isClock kind = true) (x : Double) : x.toText ≠ kind := by
  rintro rfl
  obtain ⟨c, hc, hdigit | rfl⟩ := x.exists_toText
  · rw [not_isDigit_of_isClock h hc] at hdigit
    cases hdigit
  · exact not_mem_of_isClock h (by decide) (by decide) hc

/-- What is taken for the name of a kind of the clock was written as it. -/
theorem written_of_text (hkind : Check.text v = .accepted kind) (h : isClock kind = true) : v = .text kind := by
  cases v with
  | text t =>
      cases hkind
      rfl
  | int n => exact absurd (Check.accepted.inj hkind) (ofInt_of_isClock h n)
  | float x => exact absurd (Check.accepted.inj hkind) (toText_of_isClock h x)
  | _ => cases hkind

/-- What is taken loosely for the name of a kind of the clock was written as it. -/
theorem written_of_loose {fs : Fields Value} {name : Text} (hkind : Loose.text fs name "exact" = kind)
    (h : isClock kind = true) : fs.get? name = some (.text kind) := by
  have hexact : isClock "exact" = false := by decide
  have hwords : isClock "true" = false ∧ isClock "false" = false ∧ isClock "null" = false := by decide
  have hopen : ∀ c, c.isBlank = false → (∀ k ∈ clockKinds, c ∉ k) → ∀ rest, c :: rest ≠ kind := by
    rintro c hblank hother rest rfl
    exact not_mem_of_isClock h hblank hother List.mem_cons_self
  unfold Loose.text at hkind
  split at hkind
  · rw [← hkind, hexact] at h
    cases h
  · rw [← hkind, hexact] at h
    cases h
  · next t ht => rw [ht, hkind]
  · next b _ =>
      cases b with
      | true =>
          rw [← hkind, if_pos rfl, hwords.1] at h
          cases h
      | false =>
          rw [← hkind, if_neg Bool.false_ne_true, hwords.2.1] at h
          cases h
  · next n _ => exact absurd hkind (ofInt_of_isClock h n)
  · next x _ => exact absurd hkind (toText_of_isClock h x)
  · next u hnull htext hbool hint hfloat hget =>
      -- what is left begins with a bracket, or has no text at all
      cases u with
      | list items =>
          cases items with
          | nil => exact absurd hkind (hopen (.scalar '[') (by decide) (by decide) _)
          | cons u items => exact absurd hkind (hopen (.scalar '[') (by decide) (by decide) _)
      | object fields =>
          cases fields with
          | nil => exact absurd hkind (hopen (.scalar '{') (by decide) (by decide) _)
          | cons f fields => exact absurd hkind (hopen (.scalar '{') (by decide) (by decide) _)
      | bytes b =>
          have hnull : Json.text .line (.bytes b) = "null" := rfl
          rw [← hkind, hnull, hwords.2.2] at h
          cases h
      | null => exact absurd rfl hnull
      | text t => exact absurd rfl (htext t)
      | bool b => exact absurd rfl (hbool b)
      | int n => exact absurd rfl (hint n)
      | float x => exact absurd rfl (hfloat x)

end Trigger

/-! ## Names of kinds in a workflow -/

/-- The name of the kind of a trigger. -/
def Node.triggerKind? (n : Node) : Option Text :=
  match n.body with
  | .trigger d => some d.kind
  | _ => none

/-- The names of kinds in a workflow, its own and those of its nodes. -/
def Workflow.kinds (w : Workflow) : List Text := w.triggerKind :: w.nodes.filterMap Node.triggerKind?

/-- Where the name of a kind is written in a node of a document. -/
def Value.NodeWrites (node : Value) (kind : Text) : Prop :=
  node.fieldOrNull "type" = .text "trigger" ∧ (node.fieldOrNull "data").fieldOrNull "trigger_type" = .text kind

instance (node : Value) (kind : Text) : Decidable (node.NodeWrites kind) := inferInstanceAs (Decidable (_ ∧ _))

namespace Node

variable {n : Node} {v : Value} {kind : Text}

/-- A node is of the kind that it names. -/
theorem written_of_word {fs : Fields Value} {k : NodeKind}
    (h : Check.field fs "type" (Check.word NodeKind.words) = .accepted k) :
    (Value.object fs).fieldOrNull "type" = .text k.label := by
  rw [Value.fieldOrNull, Value.field?]
  rw [Check.field] at h
  cases hget : Fields.get? fs "type" with
  | none =>
      rw [hget] at h
      cases h
  | some u =>
      rw [hget] at h
      cases u with
      | text t =>
          have hword : Check.ofOption (Fields.get? NodeKind.words t) = .accepted k := h
          cases hfound : Fields.get? NodeKind.words t with
          | none =>
              rw [hfound] at hword
              cases hword
          | some k' =>
              rw [hfound] at hword
              cases hword
              obtain ⟨k', -, hpair⟩ := List.mem_map.mp (Fields.mem_of_get? hfound)
              cases hpair
              rfl
      | _ => cases h

/-- A trigger has the settings of its document. -/
theorem exists_trigger {d : TriggerData} (h : check v = .accepted n) (hbody : n.body = .trigger d) :
    v.fieldOrNull "type" = .text "trigger" ∧
      ∃ data, d = .ofFields data ∧ (data = [] ∨ v.fieldOrNull "data" = .object data) := by
  unfold check at h
  split at h
  · next fs =>
      split at h
      · next k hk =>
          obtain ⟨g, body, hg, hread, hn⟩ := Check.seq_eq_accepted.mp h
          obtain ⟨id, -, rfl⟩ := Check.map_eq_accepted.mp hg
          subst hn
          obtain rfl : body = .trigger d := hbody
          -- the settings are those of a trigger, so that is what the node names as its kind
          have hdata : ∃ data, .trigger d = NodeBody.ofFields k data ∧
              (data = [] ∨ (Value.object fs).fieldOrNull "data" = .object data) := by
            unfold checkBody at hread
            split at hread
            · exact ⟨[], (Check.accepted.inj hread).symm, .inl rfl⟩
            · exact ⟨[], (Check.accepted.inj hread).symm, .inl rfl⟩
            · next u _ hget =>
                obtain ⟨data, hobject, hofFields⟩ := Check.map_eq_accepted.mp hread
                cases u with
                | object fields =>
                    cases hobject
                    refine ⟨_, hofFields.symm, .inr ?_⟩
                    rw [Value.fieldOrNull, Value.field?, hget]
                    rfl
                | _ => cases hobject
          obtain ⟨data, hofFields, hplace⟩ := hdata
          have hkind : k = .trigger := by
            rw [← NodeBody.kind_ofFields k data, ← hofFields]
            rfl
          subst hkind
          exact ⟨written_of_word hk, data, NodeBody.trigger.inj hofFields, hplace⟩
      · cases h
  · cases h

/-- A trigger of the clock is written as one in its document. -/
theorem written_of_check (h : check v = .accepted n) (hkind : n.triggerKind? = some kind)
    (hclock : Trigger.isClock kind = true) : v.NodeWrites kind := by
  unfold triggerKind? at hkind
  split at hkind
  · next d hbody =>
      obtain rfl := Option.some.inj hkind
      obtain ⟨htype, data, hdata, hplace⟩ := exists_trigger h hbody
      have hname : Fields.get? data "trigger_type" = some (.text d.kind) :=
        Trigger.written_of_loose (congrArg TriggerData.kind hdata).symm hclock
      refine ⟨htype, ?_⟩
      rcases hplace with rfl | hobject
      · cases hname
      · rw [hobject, Value.fieldOrNull, Value.field?, hname]
        rfl
  · cases hkind

/-- The name of a kind is written and read again as it is. -/
theorem exists_check_toValue_kind (n : Node) : ∃ m, check n.toValue = .accepted m ∧ m.triggerKind? = n.triggerKind? := by
  have hkind : Check.field (n.declared ++ Value.settledFields n.extra) "type" (Check.word NodeKind.words) =
      .accepted n.body.kind := by
    show Check.ofOption (Fields.get? NodeKind.words n.body.kind.label) = _
    rw [get?_label]
    rfl
  rw [toValue_eq, check, hkind]
  refine ⟨_, rfl, ?_⟩
  unfold triggerKind?
  cases n.body with
  | trigger d => rfl
  | _ => rfl

end Node

namespace Workflow

variable {w u : Workflow} {kind : Text}

/-- The names of kinds are written and read again as they are. -/
theorem kinds_of_check_toValue (h : check w.toValue = .accepted u) : u.kinds = w.kinds := by
  obtain ⟨fs, hobject, hparts⟩ := exists_parts h
  cases hobject
  have hself : nodesOf w.toFields = w.toFields := rfl
  rw [hself] at hparts
  have hname : Check.accepted w.triggerKind = .accepted u.triggerKind := hparts.triggerKind
  have hread : Check.items Node.check (w.nodes.map Node.toValue) = .accepted u.nodes := hparts.nodes
  obtain ⟨nodes, hnodes, hkinds⟩ := Check.exists_items_map Node.exists_check_toValue_kind w.nodes
  rw [hread] at hnodes
  cases hnodes
  -- nodes of the same kinds, one by one, have the same names among them
  have hfilter : ∀ ns : List Node, ns.filterMap Node.triggerKind? = (ns.map Node.triggerKind?).filterMap fun k => k := by
    intro ns
    rw [List.filterMap_map]
    rfl
  rw [kinds, kinds, Check.accepted.inj hname, hfilter, hkinds, hfilter]

/-- Names of kinds of the clock are written in the document of a workflow, as its own or in its nodes. -/
theorem written_of_check {fs : Fields Value} {vs : List Value} (h : check (.object fs) = .accepted w)
    (hnodes : fs.get? "nodes" = some (.list vs)) (hkind : kind ∈ w.kinds) (hclock : Trigger.isClock kind = true) :
    fs.get? "trigger_type" = some (.text kind) ∨ ∃ v ∈ vs, v.NodeWrites kind := by
  obtain ⟨fs', hobject, hparts⟩ := exists_parts h
  cases hobject
  have hself : nodesOf fs = fs := by
    unfold nodesOf
    rw [hnodes]
  rw [hself] at hparts
  rcases List.mem_cons.mp hkind with hown | hnode
  · left
    have hname := hparts.triggerKind
    rw [← hown, Check.fieldOr] at hname
    cases hget : fs.get? "trigger_type" with
    | none =>
        rw [hget] at hname
        rw [← Check.accepted.inj hname] at hclock
        cases hclock
    | some v =>
        rw [hget] at hname
        rw [Trigger.written_of_text hname hclock]
  · right
    obtain ⟨n, hn, hread⟩ := List.mem_filterMap.mp hnode
    have hitems := hparts.nodes
    rw [Check.fieldOr, hnodes] at hitems
    obtain ⟨v, hv, hcheck⟩ := Check.exists_of_items hitems n hn
    exact ⟨v, hv, Node.written_of_check hcheck hread hclock⟩

end Workflow

end ChatFlow
