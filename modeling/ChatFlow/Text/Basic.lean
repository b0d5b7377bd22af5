/-!
# Code points and texts

A `Text` is a list of Unicode code points. Lone surrogates are code points too, because a JSON
escape can name one; `Text.toString?` gives back a `String` exactly when there is none.

* `Text.toString?_ofString`: every string comes back from its text.
* `CodePoint.ofNat_toNat`: a code point is determined by its number.
-/

namespace ChatFlow

/-- A Unicode code point: a scalar value or one of the 2048 surrogates. -/
inductive CodePoint where
  | scalar (c : Char)
  | surrogate (n : Fin 2048)
deriving DecidableEq, Repr, Inhabited

namespace CodePoint

instance : Coe Char CodePoint := ⟨.scalar⟩

/-- The number of a code point. -/
def toNat : CodePoint → Nat
  | scalar c => c.toNat
  | surrogate n => 0xD800 + n.val

/-- The code point of a number; numbers above the last code point give U+0000. -/
def ofNat (n : Nat) : CodePoint :=
  if h : 0xD800 ≤ n ∧ n < 0xE000 then .surrogate ⟨n - 0xD800, by omega⟩ else .scalar (Char.ofNat n)

/-- Is this the code point of an ASCII character that satisfies `p`? -/
def isAscii (p : Char → Bool) : CodePoint → Bool
  | scalar c => c.toNat < 128 && p c
  | surrogate _ => false

/-- The scalar value, if it is one. -/
def toChar? : CodePoint → Option Char
  | scalar c => some c
  | surrogate _ => none

/-- The value of an ASCII hexadecimal digit. -/
def hex? (c : CodePoint) : Option Nat :=
  let n := c.toNat
  if 0x30 ≤ n ∧ n ≤ 0x39 then some (n - 0x30)
  else if 0x41 ≤ n ∧ n ≤ 0x46 then some (n - 0x37)
  else if 0x61 ≤ n ∧ n ≤ 0x66 then some (n - 0x57)
  else none

theorem ofNat_toNat (c : CodePoint) : ofNat c.toNat = c := by
  cases c with
  | scalar c =>
      have h : ¬ (0xD800 ≤ c.toNat ∧ c.toNat < 0xE000) := by
        intro hc
        rcases c.valid with hv | hv
        · exact absurd (show c.toNat < 0xD800 from hv) (by omega)
        · exact absurd (show 0xDFFF < c.toNat from hv.1) (by omega)
      simp only [ofNat, toNat, h, dite_false, Char.ofNat_toNat]
  | surrogate n =>
      have h : 0xD800 ≤ 0xD800 + n.val ∧ 0xD800 + n.val < 0xE000 := by omega
      simp [ofNat, toNat, h]

end CodePoint

/-- A sequence of code points. -/
abbrev Text := List CodePoint

namespace Text

/-- The text of a string. -/
def ofString (s : String) : Text := s.toList.map .scalar

instance : Coe String Text := ⟨ofString⟩

/-- The string of a text without surrogates. -/
def toString? (t : Text) : Option String := (t.mapM CodePoint.toChar?).map String.ofList

/-- Has the text no surrogate? Only then can it be encoded. -/
def isWellFormed (t : Text) : Bool := t.all fun c => c.toChar?.isSome

theorem mapM_toChar?_scalar (cs : List Char) :
    (cs.map CodePoint.scalar).mapM CodePoint.toChar? = some cs := by
  induction cs with
  | nil => rfl
  | cons c cs ih => simp [CodePoint.toChar?, ih]

@[simp] theorem toString?_ofString (s : String) : toString? (ofString s) = some s := by
  rw [toString?, ofString, mapM_toChar?_scalar]
  simp

/-- The decimal digits of a natural number. -/
def ofNat (n : Nat) : Text := ofString (toString n)

/-- The decimal digits of an integer, after a minus sign when it is negative. -/
def ofInt (n : Int) : Text := if n < 0 then "-" ++ ofNat n.natAbs else ofNat n.natAbs

/-- A number written with at least `width` decimal digits, padded with zeros. -/
def padded (width n : Nat) : Text :=
  let digits := ofNat n
  List.replicate (width - digits.length) (.scalar '0') ++ digits

/-- Text order: by the numbers of the code points, a proper prefix first. -/
def lt : Text → Text → Bool
  | [], [] => false
  | [], _ :: _ => true
  | _ :: _, [] => false
  | a :: s, b :: t => a.toNat < b.toNat || (a == b && lt s t)

end Text

/-- The greatest number of decimal digits of an integer that is written or read. -/
def maxIntegerDigits : Nat := 4300

/-- Has the integer too many decimal digits to be written? -/
def integerTooLong (n : Int) : Bool := Nat.pow 10 maxIntegerDigits ≤ n.natAbs

end ChatFlow
