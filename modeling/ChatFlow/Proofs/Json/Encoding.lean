import ChatFlow.Proofs.Json.Documents
import ChatFlow.Value.Literal

/-!
# Texts that can be encoded

A text without surrogates can be encoded. What is written of numbers and what stands between the parts of a
document never has one, so a document can be encoded if the texts in it can, and those that are names of
fields.

* `Text.isWellFormed`: what it is of texts that are put together.
* `Value.isEncodable`: values without surrogates.
* `Json.isWellFormed_textAt`: the text of a value can be encoded exactly if the value has none.
* `Value.isWellFormed_plain`: nor has the text then that shows it.
-/

namespace ChatFlow

/-! ## Texts that are put together -/

namespace Text

variable {t u : Text}

@[simp] theorem isWellFormed_nil : isWellFormed [] = true := rfl

@[simp] theorem isWellFormed_scalar (c : Char) (t : Text) :
    isWellFormed (.scalar c :: t) = t.isWellFormed := rfl

@[simp] theorem isWellFormed_append (t u : Text) :
    (t ++ u).isWellFormed = (t.isWellFormed && u.isWellFormed) := List.all_append

@[simp] theorem isWellFormed_ofString (s : String) : (ofString s).isWellFormed = true := by
  simp [isWellFormed, ofString, CodePoint.toChar?]

theorem isWellFormed_flatMap (f : CodePoint → Text) (t : Text) :
    isWellFormed (t.flatMap f) = t.all fun c => isWellFormed (f c) := List.all_flatMap

/-- What is taken out of a text has no surrogate that the text has not. -/
theorem isWellFormed_of_subset (h : u ⊆ t) (ht : t.isWellFormed = true) : u.isWellFormed = true :=
  List.all_eq_true.mpr fun c hc => List.all_eq_true.mp ht c (h hc)

@[simp] theorem isWellFormed_replicate (n : Nat) (c : Char) :
    isWellFormed (List.replicate n (.scalar c)) = true := by
  simp [isWellFormed, CodePoint.toChar?]

@[simp] theorem isWellFormed_ofNat (n : Nat) : (ofNat n).isWellFormed = true := isWellFormed_ofString _

@[simp] theorem isWellFormed_ofInt (n : Int) : (ofInt n).isWellFormed = true := by
  rw [ofInt]
  split <;> simp

@[simp] theorem isWellFormed_padded (width n : Nat) : (padded width n).isWellFormed = true := by
  simp [padded]

end Text

/-! ## Numbers -/

namespace Double

theorem isWellFormed_signed (negative : Bool) (t : Text) :
    (signed negative t).isWellFormed = t.isWellFormed := by
  rw [signed]
  split <;> simp

theorem isWellFormed_scientificDigits {t : Text} (h : t.isWellFormed = true) :
    (scientificDigits t).isWellFormed = true := by
  refine List.all_eq_true.mpr ?_
  intro c hc
  have hall := List.all_eq_true.mp h
  unfold scientificDigits at hc
  split at hc
  · cases hc
  · exact hall c hc
  · rcases List.mem_cons.mp hc with rfl | hc
    · exact hall _ List.mem_cons_self
    · rcases List.mem_cons.mp hc with rfl | hc
      · rfl
      · exact hall c (List.mem_cons_of_mem _ hc)

theorem isWellFormed_decimalText (d : Decimal) : (decimalText d).isWellFormed = true := by
  have hdigits := Text.isWellFormed_ofNat d.digits
  have htake : ∀ n, Text.isWellFormed ((Text.ofNat d.digits).take n) = true := fun n =>
    Text.isWellFormed_of_subset (List.take_subset n _) hdigits
  have hdrop : ∀ n, Text.isWellFormed ((Text.ofNat d.digits).drop n) = true := fun n =>
    Text.isWellFormed_of_subset (List.drop_subset n _) hdigits
  unfold decimalText
  dsimp only
  split
  · rw [Text.isWellFormed_append, isWellFormed_scientificDigits hdigits, exponentText]
    split <;> simp
  · split
    · simp
    · split
      · simp
      · simp [htake, hdrop]

@[simp] theorem isWellFormed_toText (x : Double) : x.toText.isWellFormed = true := by
  cases x with
  | nan => rfl
  | infinite s => exact isWellFormed_signed s _
  | finite s m =>
      rw [toText, isWellFormed_signed]
      split
      · rfl
      · exact isWellFormed_decimalText _

end Double

/-! ## Values -/

mutual

/-- Has no text in the value a surrogate, and no name of a field? -/
def Value.isEncodable : Value → Bool
  | .text t => t.isWellFormed
  | .list items => itemsEncodable items
  | .object fields => fieldsEncodable fields
  | _ => true

/-- Has none of the items a surrogate? -/
def Value.itemsEncodable : List Value → Bool
  | [] => true
  | v :: rest => v.isEncodable && itemsEncodable rest

/-- Has none of the fields a surrogate? -/
def Value.fieldsEncodable : List (Text × Value) → Bool
  | [] => true
  | (name, v) :: rest => name.isWellFormed && v.isEncodable && fieldsEncodable rest

end

namespace Value

theorem itemsEncodable_iff {vs : List Value} : itemsEncodable vs = true ↔ ∀ v ∈ vs, v.isEncodable = true := by
  induction vs with
  | nil => simp [itemsEncodable]
  | cons v vs ih => simp [itemsEncodable, ih]

theorem fieldsEncodable_iff {fs : List (Text × Value)} :
    fieldsEncodable fs = true ↔ ∀ f ∈ fs, f.1.isWellFormed = true ∧ f.2.isEncodable = true := by
  induction fs with
  | nil => simp [fieldsEncodable]
  | cons f fs ih => simp [fieldsEncodable, ih]

theorem isEncodable_list {vs : List Value} :
    (list vs).isEncodable = true ↔ ∀ v ∈ vs, v.isEncodable = true := itemsEncodable_iff

theorem isEncodable_object {fs : List (Text × Value)} :
    (object fs).isEncodable = true ↔ ∀ f ∈ fs, f.1.isWellFormed = true ∧ f.2.isEncodable = true :=
  fieldsEncodable_iff

end Value

namespace Json

variable {style : Style}

/-! ## JSON -/

theorem isWellFormed_escapeUnit (n : Nat) : (escapeUnit n).isWellFormed = true := by
  simp [escapeUnit]

/-- A code point outside ASCII is written as it is, if it may be. -/
theorem isWellFormed_escape (hascii : style.ascii = false) (c : CodePoint) :
    (escape style c).isWellFormed = c.toChar?.isSome := by
  cases c with
  | scalar c =>
      have hself : Text.isWellFormed [CodePoint.scalar c] = true := rfl
      show _ = true
      simp only [escape, hascii, Bool.false_and, Bool.false_eq_true, if_false, apply_ite Text.isWellFormed,
        isWellFormed_escapeUnit, Text.isWellFormed_ofString, hself, ite_self]
  | surrogate n =>
      have hlarge : ∀ k < 0xD800, (CodePoint.surrogate n).toNat ≠ k := by
        intro k hk
        rw [CodePoint.toNat]
        omega
      have hcontrol : ¬ (CodePoint.surrogate n).toNat < 0x20 := by
        rw [CodePoint.toNat]
        omega
      have hself : escape style (.surrogate n) = [.surrogate n] := by
        simp [escape, hascii, hlarge, hcontrol]
      rw [hself]
      rfl

theorem isWellFormed_quoted (hascii : style.ascii = false) (t : Text) :
    (quoted style t).isWellFormed = t.isWellFormed := by
  have hpoints : t.all (fun c => Text.isWellFormed (escape style c)) = t.isWellFormed := by
    simp only [isWellFormed_escape hascii]
    rfl
  rw [quoted, Text.isWellFormed_scalar, Text.isWellFormed_append, Text.isWellFormed_flatMap, hpoints,
    Text.isWellFormed_scalar, Text.isWellFormed_nil, Bool.and_true]

@[simp] theorem isWellFormed_floatText (x : Double) : (floatText x).isWellFormed = true := by
  cases x with
  | nan => rfl
  | infinite s => exact Double.isWellFormed_signed s _
  | finite s m => exact Double.isWellFormed_toText (.finite s m)

@[simp] theorem isWellFormed_lineBreak (style : Style) (depth : Nat) :
    (style.lineBreak depth).isWellFormed = true := by
  rw [Style.lineBreak]
  split <;> simp

@[simp] theorem isWellFormed_separator (style : Style) (depth : Nat) :
    (style.separator depth).isWellFormed = true := by
  rw [Style.separator]
  split <;> simp

mutual

/-- The text of a value can be encoded exactly if there is no surrogate in the value. -/
theorem isWellFormed_textAt (hascii : style.ascii = false) (depth : Nat) :
    ∀ v : Value, (textAt style depth v).isWellFormed = v.isEncodable
  | .null => rfl
  | .bool b => by cases b <;> rfl
  | .int n => Text.isWellFormed_ofInt n
  | .float x => isWellFormed_floatText x
  | .text t => isWellFormed_quoted hascii t
  | .bytes _ => rfl
  | .list [] => rfl
  | .list (v :: vs) => by
      simp only [textAt, Text.isWellFormed_scalar, Text.isWellFormed_append, isWellFormed_lineBreak,
        isWellFormed_textAt hascii (depth + 1) v, isWellFormed_itemsText hascii (depth + 1) vs,
        Text.isWellFormed_ofString, Bool.true_and, Bool.and_true]
      rfl
  | .object [] => rfl
  | .object ((name, v) :: rest) => by
      simp only [textAt, Text.isWellFormed_scalar, Text.isWellFormed_append, isWellFormed_lineBreak,
        isWellFormed_quoted hascii, isWellFormed_textAt hascii (depth + 1) v,
        isWellFormed_fieldsText hascii (depth + 1) rest, Text.isWellFormed_ofString, Text.isWellFormed_nil,
        Bool.true_and, Bool.and_true]
      rfl

theorem isWellFormed_itemsText (hascii : style.ascii = false) (depth : Nat) :
    ∀ vs : List Value, (itemsText style depth vs).isWellFormed = Value.itemsEncodable vs
  | [] => rfl
  | v :: vs => by
      rw [itemsText, Text.isWellFormed_append, Text.isWellFormed_append, isWellFormed_separator,
        isWellFormed_textAt hascii depth v, isWellFormed_itemsText hascii depth vs]
      rfl

theorem isWellFormed_fieldsText (hascii : style.ascii = false) (depth : Nat) :
    ∀ fs : List (Text × Value), (fieldsText style depth fs).isWellFormed = Value.fieldsEncodable fs
  | [] => rfl
  | (name, v) :: rest => by
      simp only [fieldsText, Text.isWellFormed_append, isWellFormed_separator, isWellFormed_quoted hascii,
        isWellFormed_textAt hascii depth v, isWellFormed_fieldsText hascii depth rest,
        Text.isWellFormed_ofString, Bool.true_and, Bool.and_true]
      rfl

end

end Json

/-! ## Texts that show values -/

namespace Text

@[simp] theorem isWellFormed_hexDigits (width n : Nat) : (hexDigits width n).isWellFormed = true := by
  induction width generalizing n with
  | zero => rfl
  | succ width ih => simp [hexDigits, ih]

/-- A scalar value is shown without surrogates, whether it is printable or not. -/
theorem isWellFormed_literalPoint (ascii : Bool) (quote : Char) {c : CodePoint} (hc : c.toChar?.isSome) :
    (literalPoint ascii quote c).isWellFormed = true := by
  have hself : isWellFormed [c] = true := by
    rw [isWellFormed, List.all_cons, hc]
    rfl
  simp only [literalPoint, apply_ite isWellFormed, isWellFormed_append, isWellFormed_ofString,
    isWellFormed_hexDigits, isWellFormed_scalar, hself, Bool.and_true, ite_self]

theorem isWellFormed_literal (ascii : Bool) {t : Text} (ht : t.isWellFormed = true) :
    (t.literal ascii).isWellFormed = true := by
  rw [literal, isWellFormed_scalar, isWellFormed_append, isWellFormed_flatMap, isWellFormed_scalar,
    isWellFormed_nil, Bool.and_true]
  refine List.all_eq_true.mpr ?_
  intro c hc
  exact isWellFormed_literalPoint ascii _ (List.all_eq_true.mp ht c hc)

end Text

namespace Value

theorem isWellFormed_literalItems {ascii : Bool} {vs : List Value}
    (h : ∀ v ∈ vs, (literalText ascii v).isWellFormed = true) :
    (literalItems ascii vs).isWellFormed = true := by
  induction vs with
  | nil => rfl
  | cons v vs ih =>
      obtain ⟨hv, hvs⟩ := List.forall_mem_cons.mp h
      cases vs with
      | nil => exact hv
      | cons w rest => simp [literalItems, hv, ih hvs]

theorem isWellFormed_literalFields {ascii : Bool} {fs : List (Text × Value)}
    (h : ∀ f ∈ fs, f.1.isWellFormed = true ∧ (literalText ascii f.2).isWellFormed = true) :
    (literalFields ascii fs).isWellFormed = true := by
  induction fs with
  | nil => rfl
  | cons f fs ih =>
      obtain ⟨name, v⟩ := f
      obtain ⟨⟨hname, hv⟩, hfs⟩ := List.forall_mem_cons.mp h
      have hliteral := Text.isWellFormed_literal ascii hname
      cases fs with
      | nil => simp [literalFields, hliteral, hv]
      | cons g rest =>
          have hrest := ih hfs
          simp [literalFields, hliteral, hv, hrest]

/-- The notation of a document without surrogates has none. -/
theorem IsDocument.isWellFormed_literalText {v : Value} (hv : v.IsDocument) (h : v.isEncodable = true)
    (ascii : Bool) : (literalText ascii v).isWellFormed = true := by
  induction hv with
  | null => rfl
  | bool b => cases b <;> rfl
  | @int n _ => exact Text.isWellFormed_ofInt n
  | float x => exact Double.isWellFormed_toText x
  | text t => exact Text.isWellFormed_literal ascii h
  | list _ ih =>
      have hitems := isWellFormed_literalItems fun v hv => ih v hv (isEncodable_list.mp h v hv)
      simp [literalText, hitems]
  | object _ _ ih =>
      have hfields := isWellFormed_literalFields fun f hf =>
        ⟨(isEncodable_object.mp h f hf).1, ih f hf (isEncodable_object.mp h f hf).2⟩
      simp [literalText, hfields]

/-- The text that shows a document without surrogates has none. -/
theorem isWellFormed_plain {v : Value} {t : Text} (hv : v.IsDocument) (h : v.isEncodable = true)
    (ht : v.plain = .ok t) : t.isWellFormed = true := by
  unfold plain at ht
  split at ht
  · cases ht
    exact h
  · rw [literal] at ht
    split at ht
    · cases ht
    · cases ht
      exact hv.isWellFormed_literalText h false

end Value

end ChatFlow
