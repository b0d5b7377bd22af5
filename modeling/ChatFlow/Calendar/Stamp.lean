import ChatFlow.Calendar.Moment
import ChatFlow.Value

/-!
# Time stamps

A time stamp is what a clock shows and, where it is known, how far that clock is ahead of universal
time. Documents hold time stamps as text or as a number of seconds or milliseconds since 1970.

* `Stamp.ofText?`: a date, with a time of day or without, or a number.
* `Stamp.ofSeconds?`: numbers above twenty thousand million count milliseconds.
* `Stamp.text`: the text of a time stamp.
-/

namespace ChatFlow

/-- A clock reading, and by how many seconds its clock is ahead of universal time. -/
structure Stamp where
  reading : Moment
  ahead : Option Int
deriving DecidableEq, Repr

namespace Stamp

/-- The reading of the local clock at that moment; a reading that does not say how far it is ahead is
one of the local clock. -/
def toLocal (s : Stamp) : Except Fault Moment :=
  match s.ahead with
  | none => .ok s.reading
  | some ahead =>
    let m : Moment := ⟨s.reading.micros - ahead * Moment.perSecond⟩
    if m.inCalendar then .ok m else .error .outsideCalendar

/-- The text of a time stamp: the reading, and the distance to universal time if it is known. -/
def text (s : Stamp) : Text :=
  s.reading.isoText ++
    match s.ahead with
    | none => []
    | some ahead =>
      if ahead = 0 then "Z"
      else
        let minutes := ahead.natAbs / 60
        (if ahead < 0 then ("-" : Text) else "+") ++ Text.padded 2 (minutes / 60) ++ ":"
          ++ Text.padded 2 (minutes % 60)

/-! ## Numbers -/

/-- The first second of the years that numbers can name. -/
def firstSecond : Int := -11676096000

/-- The last second of the years that numbers can name. -/
def lastSecond : Int := 253402300799

/-- The greatest number of seconds; greater numbers count milliseconds. -/
def maxSeconds : Int := 20000000000

/-- The time stamp of a whole number since 1970, and microseconds on top of it. -/
def ofSeconds? (n : Int) (micros : Nat) : Option Stamp :=
  let inMicros := if n.natAbs ≤ maxSeconds.natAbs then n * 1000000 else n * 1000
  let m : Moment := ⟨inMicros + micros⟩
  if firstSecond ≤ m.second ∧ m.second ≤ lastSecond then some ⟨m, some 0⟩ else none

/-- The time stamp of a number with a fraction. The fraction is counted upwards from the whole
number below. -/
def ofDouble? (x : Double) : Option Stamp := do
  let whole ← x.floor?
  let cut ← x.truncate?
  let fraction ← (x.sub (.ofInt cut)).quanta?
  let micros ← ((Double.ofRatio fraction.natAbs Double.unit).mul 1000000).quanta?
  ofSeconds? whole ((micros.natAbs + Double.unit / 2) / Double.unit)

/-! ## Texts -/

/-- A fixed number of ASCII digits. -/
def digits? : (count : Nat) → (value : Nat) → Text → Option (Nat × Text)
  | 0, value, t => some (value, t)
  | count + 1, value, c :: t =>
    if c.isAscii Char.isDigit then digits? count (value * 10 + (c.toNat - 0x30)) t else none
  | _ + 1, _, [] => none

/-- A date: a year of four digits, a month and a day of two. -/
def date? (t : Text) : Option (Date × Text) := do
  let (year, t) ← digits? 4 0 t
  let .scalar '-' :: t := t | none
  let (month, t) ← digits? 2 0 t
  let .scalar '-' :: t := t | none
  let (day, t) ← digits? 2 0 t
  let date : Date := ⟨year, month, day⟩
  if date.isValid then some (date, t) else none

/-- Microseconds, of which more than six digits may be written and are cut. -/
def micros? (t : Text) : Option (Nat × Text) :=
  match t with
  | .scalar '.' :: r | .scalar ',' :: r =>
    let ds := r.takeWhile (·.isAscii Char.isDigit)
    let six := (ds ++ List.replicate 6 (CodePoint.scalar '0')).take 6
    if ds.isEmpty then none
    else (digits? 6 0 six).map fun (n, _) => (n, r.drop ds.length)
  | _ => some (0, t)

/-- A time of day: hour and minute, perhaps a second, perhaps a fraction of it. -/
def timeOfDay? (t : Text) : Option (Nat × Nat × Text) := do
  let (hour, t) ← digits? 2 0 t
  let .scalar ':' :: t := t | none
  let (minute, t) ← digits? 2 0 t
  if 24 ≤ hour ∨ 60 ≤ minute then none
  else
    match t with
    | .scalar ':' :: t => do
      let (second, t) ← digits? 2 0 t
      let (micros, t) ← micros? t
      if 60 ≤ second then none else some (hour * 3600 + minute * 60 + second, micros, t)
    | _ => some (hour * 3600 + minute * 60, 0, t)

/-- The distance to universal time, up to the end of the text. -/
def ahead? (t : Text) : Option (Option Int) :=
  let distance (negative : Bool) (t : Text) : Option (Option Int) := do
    let (hours, t) ← digits? 2 0 t
    let t :=
      match t with
      | .scalar ':' :: t => t
      | _ => t
    let (minutes, t) ← digits? 2 0 t
    let seconds : Int := hours * 3600 + minutes * 60
    if 60 ≤ minutes ∨ 24 ≤ hours ∨ !t.isEmpty then none
    else some (some (if negative then -seconds else seconds))
  match t with
  | [] => some none
  | [.scalar 'Z'] | [.scalar 'z'] => some (some 0)
  | .scalar '+' :: t => distance false t
  | .scalar '-' :: t | .scalar '−' :: t => distance true t
  | _ => none

/-- A date with a time of day, or a date alone. -/
def written? (t : Text) : Option Stamp := do
  let (date, t) ← date? t
  match t with
  | [] => some ⟨.ofDate date 0 0, none⟩
  | .scalar 'T' :: t | .scalar 't' :: t | .scalar ' ' :: t | .scalar '_' :: t => do
    let (seconds, micros, t) ← timeOfDay? t
    let ahead ← ahead? t
    some ⟨.ofDate date seconds micros, ahead⟩
  | _ => none

/-- A number in a text: a sign, digits, and perhaps a point and a fraction. -/
def counted? (t : Text) : Option Stamp := do
  let (negative, t) :=
    match t with
    | .scalar '-' :: t => (true, t)
    | .scalar '+' :: t => (false, t)
    | _ => (false, t)
  let ds := t.takeWhile (·.isAscii Char.isDigit)
  let (value, r) ← digits? ds.length 0 t
  if ds.isEmpty then none
  else
    match r with
    | [] => ofSeconds? (if negative then -(value : Int) else value) 0
    | .scalar '.' :: r =>
      let places := r.takeWhile (·.isAscii Char.isDigit)
      let (value, r) ← digits? places.length value r
      let x := Double.ofDecimal negative value (-(places.length : Int))
      let x := if (Double.ofInt maxSeconds).lt (if negative then x.neg else x) then x.div 1000 else x
      let whole ← x.floor?
      let micros ← ((x.sub (.ofInt whole)).mul 1000000).quanta?
      if r.isEmpty then ofSeconds? whole ((micros.natAbs + Double.unit / 2) / Double.unit) else none
    | _ => none

/-- The time stamp that a text writes. -/
def ofText? (t : Text) : Option Stamp := (written? t).orElse fun _ => counted? t

/-- The time stamp that a value of a document stands for. -/
def ofValue? : Value → Option Stamp
  | .text t => ofText? t
  | .int n => ofSeconds? n 0
  | .float x => ofDouble? x
  | _ => none

end Stamp

end ChatFlow
