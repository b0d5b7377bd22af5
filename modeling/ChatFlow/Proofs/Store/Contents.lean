import ChatFlow.Proofs.Double.Integers
import ChatFlow.Proofs.Store.Frame
import ChatFlow.Proofs.Workflow.Encoding
import ChatFlow.Store.Document
import Mathlib.Data.List.Induction

/-!
# What a store holds

A store is a table of texts. What it holds is a value, or none, at every place, which is an owner and a key. Each
change of the store is one of what it holds: writing and adding put a value at their place, removing takes the value
of a place away, and opening the store anew changes nothing. The rows stand in the order in which their places came
to hold a value, and a place has one row at most.

* `Contents`: what is held.
* `Store.Change`: writing, adding, removing, opening anew; `Change.make` and `Change.effect` are what each makes of a
  store and of what is held.
* `Store.Holds`: a store in which everything can be found again.
* `Holds.make`: every change keeps this, and has its effect.
* `HeldSince`: after how many changes a place came to hold its value.
* `Store.holds_what_was_written`: a store after any changes.
-/

namespace ChatFlow

/-- Where a value is kept: whose it is, and its key. -/
abbrev Place := Owner × Text

/-- The place of a row. -/
def Row.place (row : Row) : Place := (row.owner, row.key)

/-- Can the names of the place be encoded? -/
def Place.isEncodable (p : Place) : Bool :=
  (match p.1 with
    | .user id => id.isWellFormed
    | .shared => true) && p.2.isWellFormed

/-- The names and the text of the row can be encoded. -/
def Row.Encodable (row : Row) : Prop := row.place.isEncodable = true ∧ row.text.isWellFormed = true

/-- What is held: a value, or none, at every place. -/
abbrev Contents := Place → Option Value

namespace Contents

/-- Nothing is held. -/
def nothing : Contents := fun _ => none

/-- The value at a place, with a stand-in for null and for no value. -/
def valueOr (held : Contents) (p : Place) (other : Value) : Value :=
  match held p with
  | none | some .null => other
  | some v => v

end Contents

/-! ## Values that can be written -/

/-- A document has no part that cannot be written. -/
theorem Value.IsDocument.fault?_eq_none {v : Value} (h : v.IsDocument) : Json.fault? v = none := by
  induction h with
  | null => rfl
  | bool b => rfl
  | float x => rfl
  | text t => rfl
  | int hn =>
      rw [Json.fault?, hn]
      rfl
  | list _ ih => exact Json.itemsFault?_eq_none.mpr ih
  | object _ _ ih => exact Json.fieldsFault?_eq_none.mpr ih

/-- A value of a document can be shown. -/
theorem Value.IsDocument.exists_display {v : Value} (h : v.IsDocument) : ∃ t, v.display = .ok t := by
  have hwrite : Json.write .line v = .ok (Json.text .line v) := by
    rw [Json.write, h.fault?_eq_none]
  cases v with
  | null => exact ⟨_, rfl⟩
  | bool b => exact ⟨_, rfl⟩
  | int n =>
      have hfault := h.fault?_eq_none
      rw [Json.fault?, ite_eq_right_iff] at hfault
      refine ⟨Text.ofInt n, ?_⟩
      rw [display, integerText, if_neg]
      intro hlong
      cases hfault hlong
  | float x => exact ⟨_, rfl⟩
  | text t => exact ⟨_, rfl⟩
  | bytes b => exact ⟨_, rfl⟩
  | list items => exact ⟨Json.text .line (.list items), by rw [display, hwrite]; rfl⟩
  | object fields => exact ⟨Json.text .line (.object fields), by rw [display, hwrite]; rfl⟩

/-- An integer that is the short form of a double was cut from it. -/
theorem Double.exact_of_rounded {x : Double} {n : Int} (h : x.rounded = .int n) : Exact n := by
  unfold rounded at h
  split at h
  · cases h
    cases htruncated : x.truncate? with
    | none => exact exact_of_natAbs_le (Nat.zero_le _)
    | some n => exact exact_of_truncate? htruncated
  · cases h

/-- The short form of a double is a document: an integer that was cut from one is not too long. -/
theorem Double.isDocument_rounded (x : Double) : x.rounded.IsDocument := by
  cases hrounded : x.rounded with
  | int n => exact .int (exact_of_rounded hrounded).not_integerTooLong
  | float y => exact .float y
  | _ =>
      unfold rounded at hrounded
      split at hrounded
      · cases hrounded
      · cases hrounded

theorem Double.isEncodable_rounded (x : Double) : x.rounded.isEncodable = true := by
  unfold rounded
  split
  · rfl
  · rfl

/-! ## Changes -/

/-- What a value becomes when an amount is added. -/
def Value.plus (v amount : Value) : Except Fault Value := do
  let base ← v.toDouble .nan
  let x ← amount.exactDouble
  .ok (base.add x).rounded

namespace Store

/-- What the store holds. -/
def contents (s : Store) : Contents := fun p => (s.textOf p.1 p.2).map valueOfText

/-- The places of the rows. -/
def places (s : Store) : List Place := s.rows.map Row.place

/-- A change of a store. -/
inductive Change where
  | write (p : Place) (v : Value)
  /-- Adds an amount to the value at a place, or to a value to begin with. -/
  | incr (p : Place) (amount start : Value)
  | remove (id key : Text)
  /-- Closes the store and opens it again. -/
  | reopen

namespace Change

/-- What it makes of a store. -/
def make : Change → Store → Store
  | write p v, s => (s.write p.1 p.2 v).2
  | incr p amount start, s => ((s.incr p.1 p.2 amount start).map Prod.snd).toOption.getD s
  | remove id key, s => ((s.remove id key).map Prod.snd).toOption.getD s
  | reopen, s => s.reopen

/-- What it makes of what is held. -/
def effect : Change → Contents → Contents
  | write p v, held => Function.update held p (some v)
  | incr p amount start, held =>
    match (held.valueOr p start).plus amount with
    | .ok v => Function.update held p (some v)
    | .error _ => held
  | remove id key, held => Function.update held (.user id, key) none
  | reopen, held => held

/-- The place that it is about. -/
def place? : Change → Option Place
  | write p _ => some p
  | incr p _ _ => some p
  | remove id key => some (.user id, key)
  | reopen => none

/-- The names and values of the change can be written. -/
def Writable : Change → Prop
  | write p v => p.isEncodable = true ∧ v.IsDocument ∧ v.isEncodable = true
  | incr p _ _ => p.isEncodable = true
  | remove id key => Place.isEncodable (.user id, key) = true
  | reopen => True

end Change

/-- The store after all changes. -/
def afterChanges (changes : List Change) (s : Store) : Store := changes.foldl (fun s c => c.make s) s

/-- What is held after all changes, if nothing was held before. -/
def heldAfter (changes : List Change) : Contents := changes.foldl (fun held c => c.effect held) .nothing

/-- The place has held a value since the first `n` changes and the one behind them, and held none before that one. -/
def HeldSince (changes : List Change) (p : Place) (n : Nat) : Prop :=
  n < changes.length ∧ heldAfter (changes.take n) p = none ∧
    ∀ m, n < m → m ≤ changes.length → heldAfter (changes.take m) p ≠ none

/-- The first place came to hold its value before the second one did. -/
def HeldBefore (changes : List Change) (p q : Place) : Prop :=
  ∃ m n, HeldSince changes p m ∧ HeldSince changes q n ∧ m < n

variable {s : Store} {held : Contents} {p q : Place} {v amount start other : Value} {c : Change}
  {changes : List Change} {row : Row} {rows : List Row}

/-! ## The operations -/

theorem canFind_place (s : Store) (p : Place) :
    s.canFind p.1 p.2 = if !p.isEncodable then .error .unencodable
      else if s.intact then .ok () else .error .storeLost := rfl

theorem canFind_eq (hintact : s.intact = true) (hp : p.isEncodable = true) : s.canFind p.1 p.2 = .ok () := by
  rw [canFind_place, hp, hintact]
  rfl

theorem canFind_unencodable (hp : p.isEncodable = false) : s.canFind p.1 p.2 = .error .unencodable := by
  rw [canFind_place, hp]
  rfl

theorem read_eq (hintact : s.intact = true) (hp : p.isEncodable = true) (other : Value) :
    s.read p.1 p.2 other = .ok (s.contents.valueOr p other) := by
  have hvalue : s.value p.1 p.2 = (s.contents p).getD .null := rfl
  rw [read, canFind_eq hintact hp, hvalue, Contents.valueOr]
  cases s.contents p with
  | none => rfl
  | some v => cases v <;> rfl

/-- A document without surrogates is written as its text. -/
theorem write_eq (hintact : s.intact = true) (hp : p.isEncodable = true) (hv : v.IsDocument)
    (hencodable : v.isEncodable = true) : s.write p.1 p.2 v = (true, s.put p.1 p.2 (Json.text .line v)) := by
  have htext : (Json.text .line v).isWellFormed = true := (Json.isWellFormed_textAt rfl 0 v).trans hencodable
  have hwrite : Json.write .line v = .ok (Json.text .line v) := by
    rw [Json.write, hv.fault?_eq_none]
  rw [write, hwrite, canFind_eq hintact hp]
  dsimp only
  rw [if_pos htext]

theorem incr_eq (hintact : s.intact = true) (hp : p.isEncodable = true) (amount start : Value) :
    s.incr p.1 p.2 amount start =
      ((s.contents.valueOr p start).plus amount).map fun v => (v, (s.write p.1 p.2 v).2) := by
  rw [incr, read_eq hintact hp]
  unfold Value.plus
  simp only [bind, Except.bind]
  cases (s.contents.valueOr p start).toDouble .nan with
  | error fault => rfl
  | ok base =>
      dsimp only
      cases amount.exactDouble with
      | error fault => rfl
      | ok x => rfl

/-- What adding an amount gives is the short form of a double. -/
theorem exists_rounded_of_plus (h : v.plus amount = .ok other) : ∃ x : Double, other = x.rounded := by
  unfold Value.plus at h
  simp only [bind, Except.bind] at h
  cases hbase : v.toDouble .nan with
  | error fault =>
      rw [hbase] at h
      cases h
  | ok base =>
      rw [hbase] at h
      dsimp only at h
      cases hamount : amount.exactDouble with
      | error fault =>
          rw [hamount] at h
          cases h
      | ok x =>
          rw [hamount] at h
          cases h
          exact ⟨base.add x, rfl⟩

/-- What adding an amount gives can be written. -/
theorem isDocument_of_plus (h : v.plus amount = .ok other) : other.IsDocument ∧ other.isEncodable = true := by
  obtain ⟨x, rfl⟩ := exists_rounded_of_plus h
  exact ⟨x.isDocument_rounded, x.isEncodable_rounded⟩

/-- A text that was written of a document is the text of its value. -/
theorem valueOfText_text (hv : v.IsDocument) : valueOfText (Json.text .line v) = v := by
  rw [valueOfText, Json.read?_text rfl hv]
  rfl

/-! ## Rows -/

theorem isAt_iff : isAt p.1 p.2 row = true ↔ row.place = p := by
  rw [isAt, Bool.and_eq_true, decide_eq_true_eq, decide_eq_true_eq, Row.place, Prod.ext_iff]

/-- A row is put in the place of the one that is there, or at the end. -/
theorem map_place_putRow (row : Row) (rows : List Row) :
    (putRow row rows).map Row.place =
      if row.place ∈ rows.map Row.place then rows.map Row.place else rows.map Row.place ++ [row.place] := by
  induction rows with
  | nil => rfl
  | cons r rows ih =>
      have hat : isAt row.owner row.key r = true ↔ r.place = row.place := isAt_iff (p := row.place)
      rw [putRow]
      by_cases hr : r.place = row.place
      · rw [if_pos (hat.mpr hr)]
        simp [hr]
      · have hne : ¬ row.place = r.place := fun h => hr h.symm
        rw [if_neg (fun h => hr (hat.mp h)), List.map_cons, ih]
        by_cases hmem : row.place ∈ rows.map Row.place
        · rw [if_pos hmem, List.map_cons, if_pos (List.mem_cons_of_mem _ hmem)]
        · rw [if_neg hmem, List.map_cons, if_neg, List.cons_append]
          simp only [List.mem_cons, not_or]
          exact ⟨hne, hmem⟩

theorem mem_putRow {r : Row} (h : r ∈ putRow row rows) : r = row ∨ r ∈ rows := by
  induction rows with
  | nil => exact .inl (List.mem_singleton.mp h)
  | cons first rows ih =>
      rw [putRow] at h
      split at h
      · rcases List.mem_cons.mp h with rfl | hrest
        · exact .inl rfl
        · exact .inr (List.mem_cons_of_mem _ hrest)
      · rcases List.mem_cons.mp h with rfl | hrest
        · exact .inr List.mem_cons_self
        · exact (ih hrest).imp_right (List.mem_cons_of_mem _)

/-- A place holds something exactly if a row has it. -/
theorem contents_ne_none_iff : s.contents p ≠ none ↔ p ∈ s.places := by
  rw [contents, textOf, Option.map_map, Ne, Option.map_eq_none_iff, places, List.mem_map]
  constructor
  · intro hfound
    obtain ⟨row, hrow⟩ := Option.ne_none_iff_exists'.mp hfound
    exact ⟨row, List.mem_of_find?_eq_some hrow, isAt_iff.mp (List.find?_some hrow)⟩
  · rintro ⟨row, hmem, hplace⟩ hnone
    exact List.find?_eq_none.mp hnone row hmem (isAt_iff.mpr hplace)

theorem contents_put (s : Store) (p : Place) (hv : v.IsDocument) :
    (s.put p.1 p.2 (Json.text .line v)).contents = Function.update s.contents p (some v) := by
  funext q
  rw [contents, textOf_put]
  by_cases hq : q = p
  · rw [hq, if_pos ⟨rfl, rfl⟩, Function.update_self, Option.map_some, valueOfText_text hv]
  · rw [Function.update_of_ne hq, if_neg]
    · rfl
    · rintro ⟨howner, hkey⟩
      exact hq (Prod.ext howner.symm hkey.symm)

/-- The store without the rows of a place. -/
def without (s : Store) (p : Place) : Store := { s with rows := s.rows.filter fun row => !isAt p.1 p.2 row }

theorem places_without (s : Store) (p : Place) : (s.without p).places = s.places.filter (· ≠ p) := by
  rw [places, places, without, List.filter_map]
  apply congrArg (List.map Row.place)
  apply List.filter_congr
  intro row _
  by_cases hrow : row.place = p
  · have hat : isAt p.1 p.2 row = true := isAt_iff.mpr hrow
    simp [hat, hrow]
  · have hat : isAt p.1 p.2 row = false := Bool.eq_false_iff.mpr fun h => hrow (isAt_iff.mp h)
    simp [hat, hrow]

theorem contents_without (s : Store) (p : Place) : (s.without p).contents = Function.update s.contents p none := by
  funext q
  by_cases hq : q = p
  · rw [hq, Function.update_self]
    by_contra hsome
    rw [← Ne, contents_ne_none_iff, places_without, List.mem_filter] at hsome
    exact of_decide_eq_true hsome.2 rfl
  · -- the row of another place is not among those that are taken out
    have hother : ∀ row, isAt q.1 q.2 row = true → (!isAt p.1 p.2 row) = true := by
      intro row hrow
      rw [Bool.not_eq_true', Bool.eq_false_iff]
      intro hat
      exact hq ((isAt_iff.mp hrow).symm.trans (isAt_iff.mp hat))
    rw [Function.update_of_ne hq, contents, contents, textOf, textOf, without, List.find?_filter]
    have hsame : (fun row => decide ((!isAt p.1 p.2 row) = true ∧ isAt q.1 q.2 row = true)) = isAt q.1 q.2 := by
      funext row
      cases hrow : isAt q.1 q.2 row with
      | false => simp
      | true => simp [hother row hrow]
    rw [hsame]

/-! ## Opening anew -/

theorem putEntry_entryOf (s : Store) (row : Row) : s.putEntry (entryOf row) = s.put row.owner row.key row.text := by
  obtain ⟨owner, key, text⟩ := row
  cases owner with
  | user id => rfl
  | shared => rfl

/-- Rows of different places that are read one after the other stand behind those that were there. -/
theorem foldl_putEntry (s : Store) (rows : List Row) (h : ((s.rows ++ rows).map Row.place).Nodup) :
    (rows.map entryOf).foldl putEntry s = { s with rows := s.rows ++ rows } := by
  induction rows generalizing s with
  | nil => rw [List.append_nil, List.map_nil, List.foldl_nil]
  | cons row rows ih =>
      have hnew : row.place ∉ s.rows.map Row.place := by
        intro hmem
        rw [List.map_append, List.nodup_append'] at h
        exact h.2.2 hmem List.mem_cons_self
      have hput : ∀ rows : List Row, row.place ∉ rows.map Row.place → putRow row rows = rows ++ [row] := by
        intro rows hrows
        induction rows with
        | nil => rfl
        | cons r rows ih =>
            rw [List.map_cons, List.mem_cons, not_or] at hrows
            have hat : ¬ isAt row.owner row.key r = true := by
              intro hat
              exact hrows.1 (isAt_iff (p := row.place).mp hat).symm
            rw [putRow, if_neg hat, ih hrows.2, List.cons_append]
      have hfirst : s.putEntry (entryOf row) = { s with rows := s.rows ++ [row] } := by
        rw [putEntry_entryOf, put]
        exact congrArg (fun rows => { s with rows := rows }) (hput s.rows hnew)
      rw [List.map_cons, List.foldl_cons, hfirst, ih _ (by simpa using h)]
      simp

/-- A store of different places, all of which can be encoded, is opened again as it was. -/
theorem reopen_eq (hintact : s.intact = true) (hnodup : s.places.Nodup) (hrows : ∀ row ∈ s.rows, row.Encodable) :
    s.reopen = s := by
  have hdocument : s.toValue.IsDocument := by
    apply Value.IsDocument.list
    intro entry hentry
    obtain ⟨⟨owner, key, text⟩, -, rfl⟩ := List.mem_map.mp hentry
    apply Value.IsDocument.list
    cases owner with
    | user id => simp [Value.IsDocument.text]
    | shared => simp [Value.IsDocument.text, Value.IsDocument.null]
  have hencodable : s.toValue.isEncodable = true := by
    apply Value.isEncodable_list.mpr
    intro entry hentry
    obtain ⟨⟨owner, key, text⟩, hmem, rfl⟩ := List.mem_map.mp hentry
    obtain ⟨hplace, htext⟩ := hrows _ hmem
    rw [Place.isEncodable, Bool.and_eq_true] at hplace
    obtain ⟨howner, hkey⟩ := hplace
    apply Value.isEncodable_list.mpr
    cases owner with
    | user id => simpa [Value.isEncodable] using ⟨howner, hkey, htext⟩
    | shared => simpa [Value.isEncodable] using ⟨hkey, htext⟩
  have hread : (File.absent.writeDocument s.toValue).2.document? = some s.toValue :=
    (File.document?_writeDocument rfl hdocument hencodable).2
  rw [reopen, if_pos hintact, ofFile, hread]
  have hback : ofValue s.toValue = (s.rows.map entryOf).foldl putEntry empty := rfl
  rw [Option.map_some, Option.getD_some, hback, foldl_putEntry empty s.rows hnodup]
  obtain ⟨rows, intact⟩ := s
  obtain rfl : intact = true := hintact
  rfl

/-! ## Stores in which everything is found again -/

/-- The store holds what it should, in rows of different places, and everything can be encoded. -/
structure Holds (s : Store) (held : Contents) : Prop where
  intact : s.intact = true
  nodup : s.places.Nodup
  rows : ∀ row ∈ s.rows, row.Encodable
  contents : s.contents = held

theorem holds_empty : Holds empty .nothing := ⟨rfl, List.nodup_nil, by simp [empty], rfl⟩

theorem places_put (s : Store) (p : Place) (text : Text) :
    (s.put p.1 p.2 text).places = if p ∈ s.places then s.places else s.places ++ [p] :=
  map_place_putRow ⟨p.1, p.2, text⟩ s.rows

namespace Holds

variable (h : s.Holds held)

include h

theorem mem_places : p ∈ s.places ↔ held p ≠ none := by
  rw [← contents_ne_none_iff, h.contents]

theorem put (hp : p.isEncodable = true) (hv : v.IsDocument) (hencodable : v.isEncodable = true) :
    (s.put p.1 p.2 (Json.text .line v)).Holds (Function.update held p (some v)) where
  intact := h.intact
  nodup := by
    rw [places_put]
    split
    · exact h.nodup
    · next hnew => exact List.Nodup.append h.nodup (List.nodup_singleton _) (by simpa using hnew)
  rows := by
    intro row hrow
    rcases mem_putRow hrow with rfl | hold
    · exact ⟨hp, (Json.isWellFormed_textAt rfl 0 v).trans hencodable⟩
    · exact h.rows row hold
  contents := by rw [contents_put s p hv, h.contents]

theorem without (p : Place) : (s.without p).Holds (Function.update held p none) where
  intact := h.intact
  nodup := by
    rw [places_without]
    exact h.nodup.filter _
  rows := fun row hrow => h.rows row (List.mem_filter.mp hrow).1
  contents := by rw [contents_without, h.contents]

theorem make_write (hp : p.isEncodable = true) (hv : v.IsDocument) (hencodable : v.isEncodable = true) :
    (Change.write p v).make s = s.put p.1 p.2 (Json.text .line v) :=
  congrArg Prod.snd (write_eq h.intact hp hv hencodable)

/-- Adding writes the sum, if there is one. -/
theorem make_incr (hp : p.isEncodable = true) (amount start : Value) :
    (Change.incr p amount start).make s =
      match (held.valueOr p start).plus amount with
      | .ok v => (Change.write p v).make s
      | .error _ => s := by
  rw [Change.make, incr_eq h.intact hp, h.contents]
  cases (held.valueOr p start).plus amount with
  | error fault => rfl
  | ok v => rfl

theorem make_remove {id key : Text} (hp : Place.isEncodable (.user id, key) = true) :
    (Change.remove id key).make s = s.without (.user id, key) := by
  have hfind : s.canFind (.user id) key = .ok () := canFind_eq (p := (.user id, key)) h.intact hp
  rw [Change.make, remove, hfind]
  rfl

theorem make_reopen : Change.reopen.make s = s := reopen_eq h.intact h.nodup h.rows

/-- Every change has its effect, and everything is found again afterwards. -/
theorem make (hc : c.Writable) : (c.make s).Holds (c.effect held) := by
  cases c with
  | write p v =>
      obtain ⟨hp, hv, hencodable⟩ := hc
      rw [h.make_write hp hv hencodable]
      exact h.put hp hv hencodable
  | incr p amount start =>
      rw [h.make_incr hc, Change.effect]
      cases hplus : (held.valueOr p start).plus amount with
      | error fault => exact h
      | ok v =>
          obtain ⟨hv, hencodable⟩ := isDocument_of_plus hplus
          dsimp only
          rw [h.make_write hc hv hencodable]
          exact h.put hc hv hencodable
  | remove id key =>
      rw [h.make_remove hc]
      exact h.without (.user id, key)
  | reopen =>
      rw [h.make_reopen]
      exact h

/-- A change leaves the places of the rows as they are, or adds one at the end, or takes one out. -/
theorem places_make (hc : c.Writable) :
    (c.make s).places = s.places ∨ (∃ p, p ∉ s.places ∧ (c.make s).places = s.places ++ [p]) ∨
      ∃ p, (c.make s).places = s.places.filter (· ≠ p) := by
  have hwrite : ∀ p v, p.isEncodable = true → v.IsDocument → v.isEncodable = true →
      ((Change.write p v).make s).places = s.places ∨
        ∃ q, q ∉ s.places ∧ ((Change.write p v).make s).places = s.places ++ [q] := by
    intro p v hp hv hencodable
    rw [h.make_write hp hv hencodable, places_put]
    split
    · exact .inl rfl
    · next hnew => exact .inr ⟨p, hnew, rfl⟩
  cases c with
  | write p v =>
      obtain ⟨hp, hv, hencodable⟩ := hc
      exact (hwrite p v hp hv hencodable).imp_right .inl
  | incr p amount start =>
      rw [h.make_incr hc]
      cases hplus : (held.valueOr p start).plus amount with
      | error fault => exact .inl rfl
      | ok v =>
          obtain ⟨hv, hencodable⟩ := isDocument_of_plus hplus
          dsimp only
          exact (hwrite p v hc hv hencodable).imp_right .inl
  | remove id key =>
      rw [h.make_remove hc]
      exact .inr (.inr ⟨(.user id, key), places_without s _⟩)
  | reopen =>
      rw [h.make_reopen]
      exact .inl rfl

end Holds

/-! ## Since when a value is held -/

theorem heldAfter_concat (changes : List Change) (c : Change) :
    heldAfter (changes ++ [c]) = c.effect (heldAfter changes) := List.foldl_concat ..

theorem afterChanges_concat (changes : List Change) (c : Change) (s : Store) :
    afterChanges (changes ++ [c]) s = c.make (afterChanges changes s) := List.foldl_concat ..

/-- A value that is held is held further on, as long as there is one. -/
theorem HeldSince.concat {n : Nat} (h : HeldSince changes p n) (hp : heldAfter (changes ++ [c]) p ≠ none) :
    HeldSince (changes ++ [c]) p n := by
  obtain ⟨hn, hnone, hsince⟩ := h
  refine ⟨?_, ?_, ?_⟩
  · rw [List.length_append]
    omega
  · rw [List.take_append_of_le_length (Nat.le_of_lt hn)]
    exact hnone
  · intro m hm hlength
    rw [List.length_append, List.length_singleton] at hlength
    rcases Nat.lt_or_ge changes.length m with hlast | hearlier
    · rw [List.take_of_length_le (by rw [List.length_append, List.length_singleton]; omega)]
      exact hp
    · rw [List.take_append_of_le_length hearlier]
      exact hsince m hm hearlier

/-- A value that comes is held since the change that it comes with. -/
theorem heldSince_length (hnone : heldAfter changes p = none) (hp : heldAfter (changes ++ [c]) p ≠ none) :
    HeldSince (changes ++ [c]) p changes.length := by
  refine ⟨?_, ?_, ?_⟩
  · rw [List.length_append, List.length_singleton]
    omega
  · rw [List.take_append_of_le_length (Nat.le_refl _), List.take_length]
    exact hnone
  · intro m hm hlength
    rw [List.take_of_length_le (by rw [List.length_append, List.length_singleton]; omega)]
    exact hp

theorem exists_heldSince (h : heldAfter changes p ≠ none) : ∃ n, HeldSince changes p n := by
  induction changes using List.reverseRecOn with
  | nil => exact absurd rfl h
  | append_singleton changes c ih =>
      by_cases hnone : heldAfter changes p = none
      · exact ⟨_, heldSince_length hnone h⟩
      · obtain ⟨n, hn⟩ := ih hnone
        exact ⟨n, hn.concat h⟩

/-- The rows stand in the order in which their places came to hold a value. -/
theorem pairwise_heldBefore (h : ∀ c ∈ changes, c.Writable) :
    (afterChanges changes empty).Holds (heldAfter changes) ∧
      (afterChanges changes empty).places.Pairwise (HeldBefore changes) := by
  induction changes using List.reverseRecOn with
  | nil => exact ⟨holds_empty, List.Pairwise.nil⟩
  | append_singleton changes c ih =>
      have hc : c.Writable := h c (List.mem_append_right _ (List.mem_singleton.mpr rfl))
      obtain ⟨hholds, horder⟩ := ih fun c hc => h c (List.mem_append_left _ hc)
      have hnext : (afterChanges (changes ++ [c]) empty).Holds (heldAfter (changes ++ [c])) := by
        rw [afterChanges_concat, heldAfter_concat]
        exact hholds.make hc
      refine ⟨hnext, ?_⟩
      -- places that stay keep their order
      have hstay : ∀ ps : List Place, ps ⊆ (afterChanges (changes ++ [c]) empty).places →
          ps.Pairwise (HeldBefore changes) → ps.Pairwise (HeldBefore (changes ++ [c])) := by
        intro ps hps
        apply List.Pairwise.imp_of_mem
        rintro p q hp hq ⟨m, n, hm, hn, hless⟩
        exact ⟨m, n, hm.concat (hnext.mem_places.mp (hps hp)), hn.concat (hnext.mem_places.mp (hps hq)), hless⟩
      have hplaces := hholds.places_make hc
      rw [← afterChanges_concat] at hplaces
      rcases hplaces with hsame | ⟨p, hnew, hadded⟩ | ⟨p, hremoved⟩
      · rw [hsame] at hstay ⊢
        exact hstay _ (List.Subset.refl _) horder
      · rw [hadded] at hstay ⊢
        apply List.pairwise_append.mpr
        refine ⟨hstay _ (List.subset_append_left _ _) horder, List.pairwise_singleton _ _, ?_⟩
        -- the new place came last
        intro q hq r hr
        obtain rfl := List.mem_singleton.mp hr
        have hheld : ∀ q ∈ (afterChanges changes empty).places ++ [r], heldAfter (changes ++ [c]) q ≠ none := by
          intro q hq
          rw [← hadded] at hq
          exact hnext.mem_places.mp hq
        obtain ⟨n, hn⟩ := exists_heldSince (hholds.mem_places.mp hq)
        have hnone : heldAfter changes r = none := by
          by_contra hsome
          exact hnew (hholds.mem_places.mpr hsome)
        exact ⟨n, changes.length, hn.concat (hheld q (List.mem_append_left _ hq)),
          heldSince_length hnone (hheld r (List.mem_append_right _ hr)), hn.1⟩
      · rw [hremoved] at hstay ⊢
        exact hstay _ (List.Subset.refl _) (horder.filter _)

/-! ## A store after any changes -/

/-- Rows of other places stay what they are, in their order. -/
theorem Holds.differsIn_make (h : s.Holds held) (c : Change) :
    DiffersIn (fun row => c.place? = some row.place) s (c.make s) := by
  have hplace : ∀ p : Place, ∀ row, isAt p.1 p.2 row = true → decide (some p = some row.place) = true := by
    intro p row hrow
    exact decide_eq_true (congrArg some (isAt_iff.mp hrow).symm)
  cases c with
  | write p v => exact (differsIn_write s p.1 p.2 v).mono (hplace p)
  | incr p amount start =>
      rw [Change.make]
      cases hincr : s.incr p.1 p.2 amount start with
      | error fault => exact .refl _ s
      | ok r => exact (differsIn_incr hincr).mono (hplace p)
  | remove id key =>
      rw [Change.make]
      cases hremove : s.remove id key with
      | error fault => exact .refl _ s
      | ok r => exact (differsIn_remove hremove).mono (hplace (.user id, key))
  | reopen =>
      rw [h.make_reopen]
      exact .refl _ s

/-- Whatever is written, added and removed in a store that was empty, and however often it is opened anew, if the
names and values can be written: reading gives the value that was written last at exactly that place, and the
stand-in if there is none or it is null; writing succeeds, adding gives the sum with that value, and removing tells
whether there is one. A change leaves the rows of all other places alone. A place has a row exactly if it holds a
value, and no second one, and the rows stand in the order in which their places came to hold a value. -/
theorem holds_what_was_written (h : ∀ c ∈ changes, c.Writable) :
    let s := afterChanges changes empty
    let held := heldAfter changes
    (∀ (p : Place) other, p.isEncodable = true → s.read p.1 p.2 other = .ok (held.valueOr p other)) ∧
      (∀ (p : Place) (v : Value), p.isEncodable = true → v.IsDocument → v.isEncodable = true →
        (s.write p.1 p.2 v).1 = true) ∧
      (∀ (p : Place) amount start, p.isEncodable = true →
        (s.incr p.1 p.2 amount start).map Prod.fst = (held.valueOr p start).plus amount) ∧
      (∀ id key, Place.isEncodable (.user id, key) = true →
        (s.remove id key).map Prod.fst = .ok (held (.user id, key)).isSome) ∧
      (∀ c : Change, DiffersIn (fun row => c.place? = some row.place) s (c.make s)) ∧
      (∀ p, p ∈ s.places ↔ held p ≠ none) ∧ s.places.Nodup ∧ s.places.Pairwise (HeldBefore changes) := by
  intro s held
  obtain ⟨hholds, horder⟩ := pairwise_heldBefore h
  refine ⟨?_, ?_, ?_, ?_, hholds.differsIn_make, fun p => hholds.mem_places, hholds.nodup, horder⟩
  · intro p other hp
    rw [read_eq hholds.intact hp, hholds.contents]
  · intro p v hp hv hencodable
    rw [write_eq hholds.intact hp hv hencodable]
  · intro p amount start hp
    rw [incr_eq hholds.intact hp, hholds.contents]
    cases (heldAfter changes).valueOr p start |>.plus amount with
    | error fault => rfl
    | ok v => rfl
  · intro id key hp
    have hfind : s.canFind (.user id) key = .ok () := canFind_eq (p := (.user id, key)) hholds.intact hp
    have hany : s.rows.any (isAt (.user id) key) = (held (.user id, key)).isSome := by
      rw [Bool.eq_iff_iff, Option.isSome_iff_ne_none, ← hholds.mem_places, List.any_eq_true, places, List.mem_map]
      simp only [isAt_iff (p := (Owner.user id, key))]
      rfl
    rw [remove, hfind, ← hany]
    rfl

/-- A value of the user with the empty id, a shared one and a null, a sum with a value to begin with, and the first
value again, which was removed. -/
def sampleChanges : List Change :=
  [.write (.user [], "k") (.text "a"), .write (.shared, "k") (.object [("n", .list [.float (.ofRatio 1 2), .null])]),
    .write (.user "u", "k") .null, .reopen, .remove [] "k", .incr (.user "u", "k") (.text "2.5") (.int 10), .reopen,
    .write (.user [], "k") (.bool true)]

theorem holds_what_was_written_of_sample :
    let s := afterChanges sampleChanges empty
    (∀ c ∈ sampleChanges, c.Writable) ∧
      s.read (.user "u") "k" .null = .ok (.float (.ofRatio 25 2)) ∧
      s.read .shared "k" .null = .ok (.object [("n", .list [.float (.ofRatio 1 2), .null])]) ∧
      s.read (.user []) "k" .null = .ok (.bool true) ∧ s.read (.user []) "j" (.int 7) = .ok (.int 7) ∧
      s.places.Nodup ∧ s.places.Pairwise (HeldBefore sampleChanges) ∧
      s.places = ([(.shared, "k"), (.user "u", "k"), (.user [], "k")] : List Place) := by
  intro s
  have hobject : (Value.object [("n", .list [.float (.ofRatio 1 2), .null])]).IsDocument := by
    apply Value.IsDocument.object (by decide)
    simp [Value.IsDocument.list, Value.IsDocument.float, Value.IsDocument.null]
  have hwritable : ∀ c ∈ sampleChanges, c.Writable := by
    simp only [sampleChanges, List.forall_mem_cons, List.not_mem_nil, false_imp_iff, implies_true, and_true]
    have hempty : Place.isEncodable (.user [], "k") = true := rfl
    have huser : Place.isEncodable (.user "u", "k") = true := rfl
    exact ⟨⟨hempty, .text _, rfl⟩, ⟨rfl, hobject, rfl⟩, ⟨huser, .null, rfl⟩, trivial, hempty, huser, trivial,
      ⟨hempty, .bool _, rfl⟩⟩
  have hheld : (heldAfter sampleChanges).valueOr (.user "u", "k") .null = .float (.ofRatio 25 2) ∧
      (heldAfter sampleChanges).valueOr (.shared, "k") .null =
        .object [("n", .list [.float (.ofRatio 1 2), .null])] ∧
      (heldAfter sampleChanges).valueOr (.user [], "k") .null = .bool true ∧
      (heldAfter sampleChanges).valueOr (.user [], "j") (.int 7) = .int 7 ∧
      s.places = ([(.shared, "k"), (.user "u", "k"), (.user [], "k")] : List Place) := by
    decide +kernel
  obtain ⟨hsum, hshared, hagain, hother, hplaces⟩ := hheld
  obtain ⟨hread, -, -, -, -, -, hnodup, horder⟩ := holds_what_was_written hwritable
  refine ⟨hwritable, ?_, ?_, ?_, ?_, hnodup, horder, hplaces⟩
  · exact (hread (.user "u", "k") .null rfl).trans (congrArg Except.ok hsum)
  · exact (hread (.shared, "k") .null rfl).trans (congrArg Except.ok hshared)
  · exact (hread (.user [], "k") .null rfl).trans (congrArg Except.ok hagain)
  · exact (hread (.user [], "j") (.int 7) rfl).trans (congrArg Except.ok hother)

end Store

end ChatFlow
