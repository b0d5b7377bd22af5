import ChatFlow.Json.Reader
import ChatFlow.Value.Display
import ChatFlow.Value.Number

/-!
# The store

The store keeps values under a key, for a user or shared by all. It is a table of rows in the order
in which they were first written; a row holds the JSON text of its value, so that a value is read
back from its text.

* `Store.read`, `Store.write`, `Store.remove`, `Store.incr`: the operations.
* `Store.textOf_put`: a write is seen under its own owner and key and nowhere else.
-/

namespace ChatFlow

/-- Whose value it is: that of one user, or a shared one. -/
inductive Owner where
  | user (id : Text)
  | shared
deriving DecidableEq, Repr

/-- A value under a key, as text. -/
structure Row where
  owner : Owner
  key : Text
  text : Text
deriving DecidableEq, Repr

/-- The rows, and whether the table that holds them is there at all. -/
structure Store where
  rows : List Row
  intact : Bool
deriving DecidableEq, Repr

namespace Store

/-- A store without rows. -/
def empty : Store := ⟨[], true⟩

/-- Does the row belong to the owner and key? -/
def isAt (owner : Owner) (key : Text) (row : Row) : Bool := row.owner = owner && row.key = key

/-- The text under a key. -/
def textOf (s : Store) (owner : Owner) (key : Text) : Option Text :=
  (s.rows.find? (isAt owner key)).map (·.text)

/-- Puts a row in the place of the one of the same owner and key, or at the end. -/
def putRow (row : Row) : List Row → List Row
  | [] => [row]
  | r :: rest => if isAt row.owner row.key r then row :: rest else r :: putRow row rest

/-- Puts a text under a key. -/
def put (s : Store) (owner : Owner) (key text : Text) : Store :=
  { s with rows := putRow ⟨owner, key, text⟩ s.rows }

/-- The value of a text; one that is no document stands for itself. -/
def valueOfText (t : Text) : Value := (Json.read? t).getD (.text t)

/-- The value under a key; null if there is none. -/
def value (s : Store) (owner : Owner) (key : Text) : Value :=
  ((s.textOf owner key).map valueOfText).getD .null

/-- Can the store look for the owner and key? It needs its table, and texts that can be encoded. -/
def canFind (s : Store) (owner : Owner) (key : Text) : Except Fault Unit :=
  let named :=
    match owner with
    | .user id => id.isWellFormed
    | .shared => true
  if !(named && key.isWellFormed) then .error .unencodable
  else if s.intact then .ok ()
  else .error .storeLost

/-- Reads the value under a key, with a stand-in for null and for no value. -/
def read (s : Store) (owner : Owner) (key : Text) (other : Value) : Except Fault Value := do
  s.canFind owner key
  match s.value owner key with
  | .null => .ok other
  | v => .ok v

/-- Writes a value under a key; without success the store stays as it is. -/
def write (s : Store) (owner : Owner) (key : Text) (v : Value) : Bool × Store :=
  match Json.write .line v, s.canFind owner key with
  | .ok text, .ok () => if text.isWellFormed then (true, s.put owner key text) else (false, s)
  | _, _ => (false, s)

/-- Removes the value of a user under a key. Was there one? -/
def remove (s : Store) (id key : Text) : Except Fault (Bool × Store) :=
  match s.canFind (.user id) key with
  | .error .storeLost => .ok (false, s)
  | .error fault => .error fault
  | .ok () =>
    .ok (s.rows.any (isAt (.user id) key),
      { s with rows := s.rows.filter fun row => !isAt (.user id) key row })

/-- Adds an amount to the value under a key, which begins with `start`. The result is rounded, and is
given also when it cannot be written. -/
def incr (s : Store) (owner : Owner) (key : Text) (amount start : Value) :
    Except Fault (Value × Store) := do
  let current ← s.read owner key start
  let base ← current.toDouble .nan
  let amount ← amount.exactDouble
  let v := (base.add amount).rounded
  .ok (v, (s.write owner key v).2)

/-! ## Laws -/

theorem find?_putRow (row : Row) (rows : List Row) (owner : Owner) (key : Text) :
    (putRow row rows).find? (isAt owner key) =
      if isAt owner key row then some row else rows.find? (isAt owner key) := by
  induction rows with
  | nil => by_cases h : isAt owner key row <;> simp [putRow, h]
  | cons r rest ih =>
      by_cases hr : isAt row.owner row.key r
      · have hrow : isAt owner key r = isAt owner key row := by
          simp only [isAt, Bool.and_eq_true, decide_eq_true_eq] at hr
          simp [isAt, hr.1, hr.2]
        by_cases h : isAt owner key row <;> simp [putRow, hr, hrow, h]
      · by_cases h : isAt owner key r
        · have : isAt owner key row = false := by
            simp only [isAt, Bool.and_eq_true, decide_eq_true_eq] at hr h
            simp only [isAt, Bool.and_eq_false_iff, decide_eq_false_iff_not]
            by_cases ho : row.owner = owner
            · exact .inr fun hk => hr ⟨h.1.trans ho.symm, h.2.trans hk.symm⟩
            · exact .inl ho
          simp [putRow, hr, h, this]
        · simp [putRow, hr, h, ih]

/-- A write is seen under its own owner and key and nowhere else. -/
theorem textOf_put (s : Store) (owner other : Owner) (key k text : Text) :
    (s.put owner key text).textOf other k =
      if owner = other ∧ key = k then some text else s.textOf other k := by
  simp only [textOf, put, find?_putRow, isAt]
  by_cases h : owner = other ∧ key = k
  · simp [h.1, h.2]
  · have : ¬ (decide (owner = other) && decide (key = k)) = true := by simpa using h
    simp [this, h]

end Store

end ChatFlow
