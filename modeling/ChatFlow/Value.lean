import ChatFlow.Double.Decimal
import ChatFlow.Fields

/-!
# Values

The values that documents, variables and the store hold. Integers and doubles are told apart, as
their texts are; byte strings occur as media only and have no document form.

* `Value.truthy`: which values count as true.
* `Value.same`: equality by value, where `1`, `1.0` and `true` agree and the order of fields is free.
-/

namespace ChatFlow

/-- A value. The fields of an object have pairwise different names. -/
inductive Value where
  | null
  | bool (b : Bool)
  | int (n : Int)
  | float (x : Double)
  | text (t : Text)
  | bytes (bytes : List UInt8)
  | list (items : List Value)
  | object (fields : List (Text × Value))

namespace Value

instance : Inhabited Value := ⟨null⟩

instance : Coe Text Value := ⟨text⟩

/-- The value of a string. -/
def ofString (s : String) : Value := .text s

mutual

/-- Decides whether two values are the same in every part. -/
def decideEq : (v w : Value) → Decidable (v = w)
  | .null, w => by cases w <;> first | exact isTrue rfl | exact isFalse (fun h => nomatch h)
  | .bool a, w => by
      cases w with
      | bool b => exact decidable_of_iff (a = b) (by simp)
      | _ => exact isFalse (fun h => nomatch h)
  | .int a, w => by
      cases w with
      | int b => exact decidable_of_iff (a = b) (by simp)
      | _ => exact isFalse (fun h => nomatch h)
  | .float a, w => by
      cases w with
      | float b => exact decidable_of_iff (a = b) (by simp)
      | _ => exact isFalse (fun h => nomatch h)
  | .text a, w => by
      cases w with
      | text b => exact decidable_of_iff (a = b) (by simp)
      | _ => exact isFalse (fun h => nomatch h)
  | .bytes a, w => by
      cases w with
      | bytes b => exact decidable_of_iff (a = b) (by simp)
      | _ => exact isFalse (fun h => nomatch h)
  | .list a, .list b =>
      match decideItemsEq a b with
      | isTrue h => isTrue (by rw [h])
      | isFalse h => isFalse (fun e => h (by injection e))
  | .list _, .null | .list _, .bool _ | .list _, .int _ | .list _, .float _ | .list _, .text _
  | .list _, .bytes _ | .list _, .object _ => isFalse (fun h => nomatch h)
  | .object a, .object b =>
      match decideFieldsEq a b with
      | isTrue h => isTrue (by rw [h])
      | isFalse h => isFalse (fun e => h (by injection e))
  | .object _, .null | .object _, .bool _ | .object _, .int _ | .object _, .float _
  | .object _, .text _ | .object _, .bytes _ | .object _, .list _ => isFalse (fun h => nomatch h)

/-- Decides whether two lists of values are the same. -/
def decideItemsEq : (vs ws : List Value) → Decidable (vs = ws)
  | [], [] => isTrue rfl
  | [], _ :: _ => isFalse (fun h => nomatch h)
  | _ :: _, [] => isFalse (fun h => nomatch h)
  | v :: vs, w :: ws =>
      match decideEq v w, decideItemsEq vs ws with
      | isTrue h, isTrue hs => isTrue (by rw [h, hs])
      | isFalse h, _ => isFalse (fun e => h (by injection e))
      | _, isFalse hs => isFalse (fun e => hs (by injection e))

/-- Decides whether two lists of fields are the same. -/
def decideFieldsEq : (fs gs : List (Text × Value)) → Decidable (fs = gs)
  | [], [] => isTrue rfl
  | [], _ :: _ => isFalse (fun h => nomatch h)
  | _ :: _, [] => isFalse (fun h => nomatch h)
  | (m, v) :: fs, (n, w) :: gs =>
      if hn : m = n then
        match decideEq v w, decideFieldsEq fs gs with
        | isTrue h, isTrue hs => isTrue (by rw [hn, h, hs])
        | isFalse h, _ => isFalse (fun e => h (by simp_all))
        | _, isFalse hs => isFalse (fun e => hs (by simp_all))
      else isFalse (fun e => hn (by simp_all))

end

instance : DecidableEq Value := decideEq

/-- Does the value count as true? Zeros and everything empty do not. -/
def truthy : Value → Bool
  | null => false
  | bool b => b
  | int n => n != 0
  | float x => !x.isZero
  | text t => !t.isEmpty
  | bytes b => !b.isEmpty
  | list items => !items.isEmpty
  | object fields => !fields.isEmpty

/-- The field of a name, if the value is an object that has it. -/
def field? (v : Value) (name : Text) : Option Value :=
  match v with
  | object fields => Fields.get? fields name
  | _ => none

/-- The value of a field in which null and an absent field are the same. -/
def fieldOrNull (v : Value) (name : Text) : Value := (v.field? name).getD null

end Value

end ChatFlow
