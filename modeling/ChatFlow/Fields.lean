import ChatFlow.Text.Basic

/-!
# Named fields in order

`Fields α` is a list of named entries. A written name keeps its place when it is there already and
goes to the end otherwise, so the order is that of first writing.

* `Fields.get?_set`: a look-up sees the last write under the same name and no other.
* `Fields.names_set`: writing keeps the names and their order, and adds at most one at the end.
-/

namespace ChatFlow

/-- Named entries in the order of first writing. -/
abbrev Fields (α : Type u) := List (Text × α)

namespace Fields

variable {α : Type u}

/-- The entry of a name. -/
def get? (fields : Fields α) (name : Text) : Option α :=
  match fields with
  | [] => none
  | (n, a) :: rest => if n = name then some a else get? rest name

/-- Is there an entry of the name? -/
def has (fields : Fields α) (name : Text) : Bool := (fields.get? name).isSome

/-- Writes an entry: in its place if the name is known, at the end otherwise. -/
def set (fields : Fields α) (name : Text) (a : α) : Fields α :=
  match fields with
  | [] => [(name, a)]
  | (n, b) :: rest => if n = name then (n, a) :: rest else (n, b) :: set rest name a

/-- Removes the entries of a name. -/
def erase (fields : Fields α) (name : Text) : Fields α := fields.filter fun (n, _) => n ≠ name

/-- The names in order. -/
def names (fields : Fields α) : List Text := fields.map Prod.fst

/-- Writes the entries of `more` one after the other. -/
def setAll (fields more : Fields α) : Fields α :=
  more.foldl (fun fields (name, a) => fields.set name a) fields

/-- The fields of a list in which a later entry of the same name replaces an earlier one. -/
def ofList (entries : List (Text × α)) : Fields α := setAll [] entries

/-! ## Laws -/

theorem get?_set (fields : Fields α) (name other : Text) (a : α) :
    (fields.set name a).get? other = if name = other then some a else fields.get? other := by
  induction fields with
  | nil => simp [set, get?]
  | cons entry rest ih =>
      obtain ⟨n, b⟩ := entry
      by_cases hn : n = name
      · subst hn; by_cases ho : n = other <;> simp [set, get?, ho]
      · by_cases ho : n = other
        · subst ho; simp [set, get?, hn, Ne.symm hn]
        · simp [set, get?, hn, ho, ih]

theorem names_set (fields : Fields α) (name : Text) (a : α) :
    (fields.set name a).names =
      if name ∈ fields.names then fields.names else fields.names ++ [name] := by
  induction fields with
  | nil => simp [set, names]
  | cons entry rest ih =>
      obtain ⟨n, b⟩ := entry
      by_cases hn : n = name
      · subst hn; simp [set, names]
      · have hne : ¬ name = n := fun h => hn h.symm
        simp only [names] at ih
        by_cases hm : name ∈ rest.map Prod.fst <;> simp [set, names, hn, hne, ih, hm]

theorem get?_erase_self (fields : Fields α) (name : Text) : (fields.erase name).get? name = none := by
  induction fields with
  | nil => rfl
  | cons entry rest ih =>
      obtain ⟨n, b⟩ := entry
      by_cases hn : n = name <;> simp_all [erase, get?]

end Fields

end ChatFlow
