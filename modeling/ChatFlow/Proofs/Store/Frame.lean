import ChatFlow.Store.Basic

/-!
# What an operation on the store leaves alone

Each operation on the store is about one owner and one key. All rows of others stay what they were,
and in the order in which they were.

* `Store.DiffersIn`: two stores differ at most in some rows.
* `Store.differsIn_write`, `differsIn_incr`, `differsIn_remove`: the operations.
-/

namespace ChatFlow.Store

variable {p q : Row → Bool} {s t u : Store} {owner : Owner} {key : Text}

/-- The rows that are not picked are the same in both stores, and stand in the same order. -/
def DiffersIn (p : Row → Bool) (s t : Store) : Prop :=
  t.rows.filter (fun row => !p row) = s.rows.filter (fun row => !p row)

namespace DiffersIn

theorem refl (p : Row → Bool) (s : Store) : DiffersIn p s s := rfl

theorem trans (h : DiffersIn p s t) (h' : DiffersIn p t u) : DiffersIn p s u := Eq.trans h' h

/-- Stores that differ in some rows differ in more. -/
theorem mono (hpq : ∀ row, p row → q row) (h : DiffersIn p s t) : DiffersIn q s t := by
  have hboth : ∀ rows : List Row, rows.filter (fun row => !q row) =
      (rows.filter fun row => !p row).filter (fun row => !q row) := by
    intro rows
    rw [List.filter_filter]
    refine List.filter_congr ?_
    intro row _
    cases hp : p row with
    | false => simp
    | true => simp [hpq row hp]
  unfold DiffersIn
  rw [hboth t.rows, hboth s.rows, h]

end DiffersIn

/-! ## Operations -/

theorem filter_putRow (row : Row) (rows : List Row) :
    (putRow row rows).filter (fun r => !isAt row.owner row.key r) =
      rows.filter (fun r => !isAt row.owner row.key r) := by
  have hself : isAt row.owner row.key row = true := by simp [isAt]
  induction rows with
  | nil => simp [putRow, hself]
  | cons r rest ih =>
      by_cases hr : isAt row.owner row.key r = true
      · simp [putRow, hr, hself]
      · simp [putRow, hr, ih]

theorem differsIn_put (s : Store) (owner : Owner) (key text : Text) :
    DiffersIn (isAt owner key) s (s.put owner key text) :=
  filter_putRow ⟨owner, key, text⟩ s.rows

theorem differsIn_write (s : Store) (owner : Owner) (key : Text) (v : Value) :
    DiffersIn (isAt owner key) s (s.write owner key v).2 := by
  unfold write
  split
  · split
    · exact differsIn_put s owner key _
    · exact .refl _ s
  · exact .refl _ s

/-- An amount is added where the value stands, or not at all. -/
theorem differsIn_incr {amount start v : Value} (h : s.incr owner key amount start = .ok (v, t)) :
    DiffersIn (isAt owner key) s t := by
  unfold incr at h
  rcases hread : s.read owner key start with fault | current
  · rw [hread] at h
    cases h
  · rw [hread] at h
    rcases hbase : current.toDouble .nan with fault | base
    · simp only [bind, Except.bind, hbase] at h
      cases h
    · rcases hamount : amount.exactDouble with fault | x
      · simp only [bind, Except.bind, hbase, hamount] at h
        cases h
      · simp only [bind, Except.bind, hbase, hamount] at h
        cases h
        exact differsIn_write s owner key _

theorem differsIn_remove {id : Text} {found : Bool} (h : s.remove id key = .ok (found, t)) :
    DiffersIn (isAt (.user id) key) s t := by
  unfold remove at h
  split at h
  · cases h
    exact .refl _ s
  · cases h
  · cases h
    simp [DiffersIn, List.filter_filter]

end ChatFlow.Store
