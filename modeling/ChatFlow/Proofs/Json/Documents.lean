import ChatFlow.Proofs.Json.Numbers
import Mathlib.Data.List.Nodup

/-!
# Values that documents hold

A document holds neither bytes nor integers with too many digits, and no object with two fields of one name.
Whatever is read is of this kind.

* `Value.IsDocument`: values that a document can hold.
* `Fields.ofList_of_nodup`, `Fields.nodup_ofList`, `Fields.get?_of_mem`: fields of different names.
* `Json.isDocument_of_read?`: what is read is a document.
-/

namespace ChatFlow

/-- A document can hold the value. -/
inductive Value.IsDocument : Value → Prop where
  | null : IsDocument .null
  | bool (b : Bool) : IsDocument (.bool b)
  | int {n : Int} (h : integerTooLong n = false) : IsDocument (.int n)
  | float (x : Double) : IsDocument (.float x)
  | text (t : Text) : IsDocument (.text t)
  | list {items : List Value} (h : ∀ v ∈ items, IsDocument v) : IsDocument (.list items)
  | object {fields : Fields Value} (hnames : fields.names.Nodup) (h : ∀ f ∈ fields, IsDocument f.2) :
      IsDocument (.object fields)

namespace Value.IsDocument

variable {items : List Value} {fields : Fields Value}

theorem item (h : (Value.list items).IsDocument) : ∀ v ∈ items, v.IsDocument := by
  cases h with
  | list hitems => exact hitems

theorem names_nodup (h : (Value.object fields).IsDocument) : fields.names.Nodup := by
  cases h with
  | object hnames _ => exact hnames

theorem field (h : (Value.object fields).IsDocument) : ∀ f ∈ fields, f.2.IsDocument := by
  cases h with
  | object _ hfields => exact hfields

end Value.IsDocument

namespace Fields

variable {α : Type}

theorem set_of_notMem {fields : Fields α} {name : Text} (h : name ∉ fields.names) (a : α) :
    fields.set name a = fields ++ [(name, a)] := by
  induction fields with
  | nil => rfl
  | cons entry rest ih =>
      obtain ⟨n, b⟩ := entry
      have hne : n ≠ name := fun hsame => h (hsame ▸ List.mem_cons_self)
      have hrest : name ∉ Fields.names rest := fun hmem => h (List.mem_cons_of_mem _ hmem)
      rw [set, if_neg hne, ih hrest, List.cons_append]

/-- Fields of different names stay as they are. -/
theorem ofList_of_nodup {fields : Fields α} (h : fields.names.Nodup) : ofList fields = fields := by
  have hset : ∀ (rest done : Fields α), (Fields.names (done ++ rest)).Nodup →
      setAll done rest = done ++ rest := by
    intro rest
    induction rest with
    | nil => simp [setAll]
    | cons entry rest ih =>
        intro done hnames
        obtain ⟨name, a⟩ := entry
        have hnew : name ∉ Fields.names done := by
          intro hmem
          rw [Fields.names, List.map_append, List.nodup_append'] at hnames
          exact hnames.2.2 hmem List.mem_cons_self
        have hmore := ih (done ++ [(name, a)]) (by simpa using hnames)
        have hfirst : setAll done ((name, a) :: rest) = setAll (done.set name a) rest := rfl
        rw [hfirst, set_of_notMem hnew, hmore, List.append_assoc, List.singleton_append]
  exact hset fields [] h

theorem nodup_set {fields : Fields α} (h : fields.names.Nodup) (name : Text) (a : α) :
    (fields.set name a).names.Nodup := by
  rw [names_set]
  split
  · exact h
  · next hnew => exact List.Nodup.append h (List.nodup_singleton _) (by simpa using hnew)

theorem mem_set {fields : Fields α} {name : Text} {a : α} {f : Text × α} (h : f ∈ fields.set name a) :
    f ∈ fields ∨ f = (name, a) := by
  induction fields with
  | nil => exact .inr (List.mem_singleton.mp h)
  | cons entry rest ih =>
      obtain ⟨n, b⟩ := entry
      rw [set] at h
      split at h
      · next hsame =>
          rcases List.mem_cons.mp h with rfl | hrest
          · exact .inr (by rw [hsame])
          · exact .inl (List.mem_cons_of_mem _ hrest)
      · rcases List.mem_cons.mp h with rfl | hrest
        · exact .inl List.mem_cons_self
        · rcases ih hrest with hmem | hnew
          · exact .inl (List.mem_cons_of_mem _ hmem)
          · exact .inr hnew

theorem mem_of_get? {fields : Fields α} {name : Text} {a : α} (h : fields.get? name = some a) :
    (name, a) ∈ fields := by
  induction fields with
  | nil => cases h
  | cons entry rest ih =>
      obtain ⟨n, b⟩ := entry
      rw [get?] at h
      split at h
      · next hsame =>
          cases h
          exact hsame ▸ List.mem_cons_self
      · exact List.mem_cons_of_mem _ (ih h)

theorem get?_eq_none_iff {fields : Fields α} {name : Text} : fields.get? name = none ↔ name ∉ fields.names := by
  induction fields with
  | nil => simp [get?, names]
  | cons entry rest ih =>
      obtain ⟨n, a⟩ := entry
      rw [get?]
      split
      · next hsame => simp [names, hsame]
      · next hne =>
          rw [ih, names, names, List.map_cons, List.mem_cons, not_or]
          exact ⟨fun h => ⟨Ne.symm hne, h⟩, fun h => h.2⟩

theorem mem_names_of_get? {fields : Fields α} {name : Text} {a : α} (h : fields.get? name = some a) :
    name ∈ fields.names := by
  by_contra hnone
  rw [get?_eq_none_iff.mpr hnone] at h
  cases h

/-- Where all names differ, an entry is the one that is found. -/
theorem get?_of_mem {fields : Fields α} (hnames : fields.names.Nodup) {name : Text} {a : α}
    (h : (name, a) ∈ fields) : fields.get? name = some a := by
  induction fields with
  | nil => cases h
  | cons entry rest ih =>
      obtain ⟨n, b⟩ := entry
      obtain ⟨hnew, hrest⟩ := List.nodup_cons.mp hnames
      rcases List.mem_cons.mp h with hsame | hmem
      · cases hsame
        rw [get?, if_pos rfl]
      · have hname : name ∈ names rest := List.mem_map_of_mem hmem
        have hne : n ≠ name := by
          rintro rfl
          exact hnew hname
        rw [get?, if_neg hne, ih hrest hmem]

theorem names_erase (fields : Fields α) (name : Text) :
    (fields.erase name).names = fields.names.filter (· ≠ name) := by
  rw [names, names, erase, List.filter_map]
  rfl

theorem get?_erase_of_ne (fields : Fields α) {name other : Text} (h : other ≠ name) :
    (fields.erase name).get? other = fields.get? other := by
  induction fields with
  | nil => rfl
  | cons entry rest ih =>
      obtain ⟨n, a⟩ := entry
      rw [erase, List.filter_cons]
      by_cases hn : n = name
      · have hne : n ≠ other := fun hsame => h (hsame.symm.trans hn)
        rw [if_neg (by simpa using hn), get?, if_neg hne]
        exact ih
      · rw [if_pos (by simpa using hn), get?, get?]
        split
        · rfl
        · exact ih

/-- The fields of a list have different names, and each of them has a value of the list. -/
theorem nodup_ofList (entries : List (Text × α)) :
    (ofList entries).names.Nodup ∧ ∀ f ∈ ofList entries, ∃ e ∈ entries, e.2 = f.2 := by
  have hset : ∀ (rest : List (Text × α)) (done : Fields α), done.names.Nodup →
      (setAll done rest).names.Nodup ∧
        ∀ f ∈ setAll done rest, f ∈ done ∨ ∃ e ∈ rest, e.2 = f.2 := by
    intro rest
    induction rest with
    | nil => exact fun done h => ⟨h, fun f hf => .inl hf⟩
    | cons entry rest ih =>
        intro done h
        obtain ⟨name, a⟩ := entry
        obtain ⟨hnames, hmem⟩ := ih (done.set name a) (nodup_set h name a)
        refine ⟨hnames, ?_⟩
        intro f hf
        rcases hmem f hf with hset | ⟨e, he, hvalue⟩
        · rcases mem_set hset with hdone | hnew
          · exact .inl hdone
          · exact .inr ⟨(name, a), List.mem_cons_self, congrArg Prod.snd hnew.symm⟩
        · exact .inr ⟨e, List.mem_cons_of_mem _ he, hvalue⟩
  obtain ⟨hnames, hmem⟩ := hset entries [] List.nodup_nil
  refine ⟨hnames, ?_⟩
  intro f hf
  rcases hmem f hf with hnone | hentry
  · cases hnone
  · exact hentry

end Fields

namespace Json

/-! ## What is read -/

theorem digitsValue_lt {ds : Text} (hds : ∀ c ∈ ds, isDigit c = true) : digitsValue ds < 10 ^ ds.length := by
  induction ds with
  | nil => decide
  | cons c ds ih =>
      have hless := ih fun x hx => hds x (List.mem_cons_of_mem _ hx)
      have hc : c.toNat - 0x30 ≤ 9 := by
        have hdigit := hds c List.mem_cons_self
        simp only [isDigit, Bool.and_eq_true, decide_eq_true_eq] at hdigit
        omega
      have hmost := Nat.mul_le_mul_right (10 ^ ds.length) hc
      rw [digitsValue_cons, List.length_cons, Nat.pow_succ]
      omega

theorem wholeDigits_isDigit (t : Text) : ∀ c ∈ wholeDigits t, isDigit c = true := by
  unfold wholeDigits
  split
  · decide
  · intro c hc
    exact List.all_eq_true.mp List.all_takeWhile c hc

theorem isDocument_of_number? {negative : Bool} {t r : Text} {v : Value}
    (h : number? negative t = some (v, r)) : v.IsDocument := by
  unfold number? at h
  dsimp only at h
  split at h
  · cases h
  · split at h
    · split at h
      · cases h
      · next hlength =>
          -- few digits make no integer that is too long
          have hvalue := digitsValue_lt (wholeDigits_isDigit t)
          have hpow := Nat.pow_le_pow_right (n := 10) (by decide) (Nat.not_lt.mp hlength)
          cases h
          refine .int ?_
          rw [integerTooLong, decide_eq_false_iff_not, Nat.not_le]
          refine Nat.lt_of_lt_of_le ?_ hpow
          split
          · simpa using hvalue
          · simpa using hvalue
    · cases h
      exact .float _

theorem isDocument_of_word? {t r : Text} {v : Value} (h : word? t = some (v, r)) : v.IsDocument := by
  unfold word? at h
  obtain ⟨w, hw, hpair⟩ := Option.map_eq_some_iff.mp h
  have hmem := List.mem_of_find?_eq_some hw
  cases hpair
  simp only [words, List.mem_cons, List.not_mem_nil, or_false] at hmem
  rcases hmem with rfl | rfl | rfl | rfl | rfl | rfl
  · exact .null
  · exact .bool _
  · exact .bool _
  · exact .float _
  · exact .float _
  · exact .float _

section Parts

variable {fuel : Nat} (hvalue : ∀ t v r, value? fuel t = some (v, r) → v.IsDocument)
  (hitems : ∀ t vs r, items? fuel t = some (vs, r) → ∀ v ∈ vs, v.IsDocument)
  (hfields : ∀ t fs r, fields? fuel t = some (fs, r) → ∀ f ∈ fs, f.2.IsDocument)

include hitems hfields in
theorem isDocument_of_value? (t : Text) (v : Value) (r : Text) (h : value? (fuel + 1) t = some (v, r)) :
    v.IsDocument := by
  rw [value?.eq_def] at h
  dsimp only at h
  split at h
  · obtain ⟨⟨s, r'⟩, -, hfound⟩ := Option.bind_eq_some_iff.mp h
    cases hfound
    exact .text s
  · split at h
    · cases h
      exact .list (by simp)
    · obtain ⟨⟨vs, r'⟩, hvs, hfound⟩ := Option.bind_eq_some_iff.mp h
      cases hfound
      exact .list (hitems _ _ _ hvs)
  · split at h
    · cases h
      exact .object List.nodup_nil (by simp)
    · obtain ⟨⟨fs, r'⟩, hfs, hfound⟩ := Option.bind_eq_some_iff.mp h
      cases hfound
      -- of fields of one name that were read, the object has the last one only
      obtain ⟨hnames, hmem⟩ := Fields.nodup_ofList fs
      refine .object hnames ?_
      intro f hf
      obtain ⟨e, he, hsame⟩ := hmem f hf
      exact hsame ▸ hfields _ _ _ hfs e he
  · split at h
    · next hword =>
        cases h
        exact isDocument_of_word? hword
    · split at h
      · exact isDocument_of_number? h
      · exact isDocument_of_number? h

include hvalue

include hitems in
theorem isDocument_of_items? (t : Text) (vs : List Value) (r : Text)
    (h : items? (fuel + 1) t = some (vs, r)) : ∀ v ∈ vs, v.IsDocument := by
  rw [items?] at h
  obtain ⟨⟨v, r₁⟩, hv, h⟩ := Option.bind_eq_some_iff.mp h
  have hfirst := hvalue _ _ _ hv
  dsimp only at h
  split at h
  · cases h
    simpa using hfirst
  · obtain ⟨⟨rest, r₂⟩, hrest, hfound⟩ := Option.bind_eq_some_iff.mp h
    cases hfound
    exact List.forall_mem_cons.mpr ⟨hfirst, hitems _ _ _ hrest⟩
  · cases h

include hfields in
theorem isDocument_of_fields? (t : Text) (fs : List (Text × Value)) (r : Text)
    (h : fields? (fuel + 1) t = some (fs, r)) : ∀ f ∈ fs, f.2.IsDocument := by
  rw [fields?.eq_def] at h
  dsimp only at h
  split at h
  · obtain ⟨⟨name, r₁⟩, -, h⟩ := Option.bind_eq_some_iff.mp h
    dsimp only at h
    split at h
    · obtain ⟨⟨v, r₂⟩, hv, h⟩ := Option.bind_eq_some_iff.mp h
      have hfirst := hvalue _ _ _ hv
      dsimp only at h
      split at h
      · cases h
        simpa using hfirst
      · obtain ⟨⟨rest, r₃⟩, hrest, hfound⟩ := Option.bind_eq_some_iff.mp h
        cases hfound
        exact List.forall_mem_cons.mpr ⟨hfirst, hfields _ _ _ hrest⟩
      · cases h
    · cases h
  · cases h

end Parts

/-- Every part of the reader gives documents. The induction is on what bounds the nesting. -/
theorem isDocument_of_parts (fuel : Nat) :
    (∀ t v r, value? fuel t = some (v, r) → v.IsDocument) ∧
    (∀ t vs r, items? fuel t = some (vs, r) → ∀ v ∈ vs, v.IsDocument) ∧
    (∀ t fs r, fields? fuel t = some (fs, r) → ∀ f ∈ fs, f.2.IsDocument) := by
  induction fuel with
  | zero =>
      refine ⟨?_, ?_, ?_⟩
      · rintro t v r ⟨⟩
      · rintro t vs r ⟨⟩
      · rintro t fs r ⟨⟩
  | succ fuel ih =>
      obtain ⟨hvalue, hitems, hfields⟩ := ih
      exact ⟨isDocument_of_value? hitems hfields, isDocument_of_items? hvalue hitems,
        isDocument_of_fields? hvalue hfields⟩

/-- What is read of a text is a document. -/
theorem isDocument_of_read? {t : Text} {v : Value} (h : read? t = some v) : v.IsDocument := by
  unfold read? at h
  split at h
  · next found r hvalue =>
      split at h
      · cases h
        exact (isDocument_of_parts _).1 _ _ _ hvalue
      · cases h
  · cases h

/-! ## What can be written -/

theorem itemsFault?_eq_none {vs : List Value} : itemsFault? vs = none ↔ ∀ v ∈ vs, fault? v = none := by
  induction vs with
  | nil => simp [itemsFault?]
  | cons v vs ih => simp [itemsFault?, ih]

theorem fieldsFault?_eq_none {fs : List (Text × Value)} :
    fieldsFault? fs = none ↔ ∀ f ∈ fs, fault? f.2 = none := by
  induction fs with
  | nil => simp [fieldsFault?]
  | cons f fs ih => simp [fieldsFault?, ih]

end Json

end ChatFlow
