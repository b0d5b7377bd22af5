import ChatFlow.Text.Basic

/-!
# Encodings

How bytes write text: UTF-8, UTF-16 and UTF-32, Latin-1 and ASCII. Decoding gives one entry for each
code point and an empty entry for each ill-formed piece, so that it can be lenient or strict.

* `Encoding.lenient`: a replacement character stands for each ill-formed piece.
* `Encoding.strict?`: no text at all if a piece is ill-formed.
-/

namespace ChatFlow

/-- An encoding of texts by bytes. -/
inductive Encoding where
  | utf8
  | utf16 (bigEndian : Bool)
  | utf32 (bigEndian : Bool)
  | latin1
  | ascii
deriving DecidableEq, Repr

namespace Encoding

/-- The lead byte of a sequence in UTF-8: how many bytes follow it, its own bits, and the range of the
byte that follows. With `surrogates` the sequences of surrogates are among them. -/
def lead? (surrogates : Bool) (b : Nat) : Option (Nat × Nat × Nat × Nat) :=
  if b < 0x80 then some (0, b, 0, 0)
  else if b < 0xC2 then none
  else if b < 0xE0 then some (1, b % 0x20, 0x80, 0xBF)
  else if b = 0xE0 then some (2, 0, 0xA0, 0xBF)
  else if b = 0xED then some (2, 0xD, 0x80, if surrogates then 0xBF else 0x9F)
  else if b < 0xF0 then some (2, b % 0x10, 0x80, 0xBF)
  else if b = 0xF0 then some (3, 0, 0x90, 0xBF)
  else if b < 0xF4 then some (3, b % 8, 0x80, 0xBF)
  else if b = 0xF4 then some (3, 4, 0x80, 0x8F)
  else none

/-- The continuation bytes of a sequence: the value if all are there, and how many are. -/
def continuation : (count value low high : Nat) → List UInt8 → Option Nat × Nat
  | 0, value, _, _, _ => (some value, 0)
  | _ + 1, _, _, _, [] => (none, 0)
  | count + 1, value, low, high, b :: bs =>
    if low ≤ b.toNat ∧ b.toNat ≤ high then
      let (result, taken) := continuation count (value * 64 + b.toNat % 64) 0x80 0xBF bs
      (result, taken + 1)
    else (none, 0)

/-- The code points of bytes in UTF-8. An ill-formed piece is a lead byte with those continuation bytes
that could follow it. -/
def utf8Points (surrogates : Bool) : (fuel : Nat) → List UInt8 → List (Option CodePoint)
  | 0, _ => []
  | _ + 1, [] => []
  | fuel + 1, b :: bs =>
    match lead? surrogates b.toNat with
    | none => none :: utf8Points surrogates fuel bs
    | some (count, bits, low, high) =>
      let (value, taken) := continuation count bits low high bs
      value.map .ofNat :: utf8Points surrogates fuel (bs.drop taken)

/-- The units of bytes in pairs; an odd byte at the end makes an empty one. -/
def pairs (bigEndian : Bool) : List UInt8 → List (Option Nat)
  | [] => []
  | [_] => [none]
  | a :: b :: bs =>
    some (if bigEndian then a.toNat * 256 + b.toNat else b.toNat * 256 + a.toNat) :: pairs bigEndian bs

/-- The code points of units in UTF-16. -/
def utf16Points (surrogates : Bool) : List (Option Nat) → List (Option CodePoint)
  | [] => []
  | none :: us => none :: utf16Points surrogates us
  | some u :: us =>
    if 0xD800 ≤ u ∧ u < 0xE000 then
      match us with
      | some v :: rest =>
        if u < 0xDC00 ∧ 0xDC00 ≤ v ∧ v < 0xE000 then
          some (.ofNat (0x10000 + (u - 0xD800) * 0x400 + (v - 0xDC00))) :: utf16Points surrogates rest
        else (if surrogates then some (.ofNat u) else none) :: utf16Points surrogates (some v :: rest)
      | us => (if surrogates then some (.ofNat u) else none) :: utf16Points surrogates us
    else some (.ofNat u) :: utf16Points surrogates us

/-- The code points of bytes in UTF-32. -/
def utf32Points (surrogates bigEndian : Bool) : List UInt8 → List (Option CodePoint)
  | [] => []
  | a :: b :: c :: d :: bs =>
    let n :=
      if bigEndian then ((a.toNat * 256 + b.toNat) * 256 + c.toNat) * 256 + d.toNat
      else ((d.toNat * 256 + c.toNat) * 256 + b.toNat) * 256 + a.toNat
    let point :=
      if 0x110000 ≤ n ∨ (0xD800 ≤ n ∧ n < 0xE000 ∧ !surrogates) then none else some (.ofNat n)
    point :: utf32Points surrogates bigEndian bs
  | _ => [none]

/-- The code points that bytes write, with an empty entry for each ill-formed piece. Encoded surrogates
are taken as such if `surrogates`, and are ill-formed otherwise. -/
def points (e : Encoding) (surrogates : Bool) (bytes : List UInt8) : List (Option CodePoint) :=
  match e with
  | utf8 => utf8Points surrogates bytes.length bytes
  | utf16 bigEndian => utf16Points surrogates (pairs bigEndian bytes)
  | utf32 bigEndian => utf32Points surrogates bigEndian bytes
  | latin1 => bytes.map fun b => some (.ofNat b.toNat)
  | ascii => bytes.map fun b => if b.toNat < 128 then some (.ofNat b.toNat) else none

/-- The text of bytes, with a replacement character for each ill-formed piece. -/
def lenient (e : Encoding) (bytes : List UInt8) : Text :=
  (e.points false bytes).map fun c => c.getD (.ofNat 0xFFFD)

/-- The text of bytes in which surrogates may be encoded, if no piece is ill-formed. -/
def strict? (e : Encoding) (bytes : List UInt8) : Option Text := (e.points true bytes).mapM id

/-- Bytes after a mark of their encoding, if they begin with one. -/
def afterMark? (bytes : List UInt8) : Option (Encoding × List UInt8) :=
  match bytes with
  | 0x00 :: 0x00 :: 0xFE :: 0xFF :: r => some (utf32 true, r)
  | 0xFF :: 0xFE :: 0x00 :: 0x00 :: r => some (utf32 false, r)
  | 0xFE :: 0xFF :: r => some (utf16 true, r)
  | 0xFF :: 0xFE :: r => some (utf16 false, r)
  | 0xEF :: 0xBB :: 0xBF :: r => some (utf8, r)
  | _ => none

/-- The encoding of a JSON document, which begins with two ASCII characters, told by its zero bytes. -/
def ofDocument (bytes : List UInt8) : Encoding :=
  match bytes with
  | 0 :: b :: _ :: _ :: _ => if b = 0 then utf32 true else utf16 true
  | _ :: 0 :: c :: d :: _ => if c = 0 ∧ d = 0 then utf32 false else utf16 false
  | [0, _] => utf16 true
  | [_, 0] => utf16 false
  | _ => utf8

/-- The text of a JSON document with or without a mark. -/
def documentText? (bytes : List UInt8) : Option Text :=
  match afterMark? bytes with
  | some (e, rest) => e.strict? rest
  | none => (ofDocument bytes).strict? bytes

/-- Names of encodings, with a low line in the place of everything but letters and digits. -/
def names : List (String × Encoding) :=
  [("utf_8", utf8), ("utf8", utf8), ("u8", utf8), ("utf", utf8), ("cp65001", utf8),
   ("latin_1", latin1), ("latin1", latin1), ("latin", latin1), ("l1", latin1),
   ("iso_8859_1", latin1), ("iso8859_1", latin1), ("iso8859", latin1), ("8859", latin1),
   ("cp819", latin1), ("ascii", ascii), ("us_ascii", ascii), ("646", ascii),
   ("utf_16_le", utf16 false), ("utf_16le", utf16 false), ("utf_16_be", utf16 true),
   ("utf_16be", utf16 true), ("utf_32_le", utf32 false), ("utf_32le", utf32 false),
   ("utf_32_be", utf32 true), ("utf_32be", utf32 true)]

/-- The encoding of a name. -/
def ofName? (name : Text) : Option Encoding :=
  let spelled := name.map fun c => if c.isAscii Char.isAlphanum then c else CodePoint.scalar '_'
  (names.find? fun (n, _) => Text.ofString n = spelled).map Prod.snd

end Encoding

end ChatFlow
