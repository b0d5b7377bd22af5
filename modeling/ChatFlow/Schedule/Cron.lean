import ChatFlow.Calendar.Moment
import ChatFlow.Fields
import ChatFlow.Text.Split
import ChatFlow.Unicode.Case
import ChatFlow.Unicode.Classes

/-!
# Cron expressions

An expression has five columns for minute, hour, day, month and weekday, perhaps a sixth one for the
second and a seventh one for the year. A column lists numbers, ranges with steps, and names; a star
leaves it open. When both the day and the weekday are restricted, one of them has to fit.

* `Cron.parse?`: the expression that a text writes.
* `Cron.fits`: does a moment lie in a minute, or second, of the expression?
-/

namespace ChatFlow.Cron

/-- The columns of an expression. -/
inductive Field where
  | minute
  | hour
  | day
  | month
  | weekday
  | second
  | year
deriving DecidableEq, Repr

namespace Field

/-- The fields in the order of their columns. -/
def all : List Field := [.minute, .hour, .day, .month, .weekday, .second, .year]

/-- The least number of a field. -/
def least : Field → Nat
  | .day | .month => 1
  | .year => 1970
  | _ => 0

/-- The greatest number of a field. -/
def greatest : Field → Nat
  | .minute | .second => 59
  | .hour => 23
  | .day => 31
  | .month => 12
  | .weekday => 6
  | .year => 2099

/-- How many numbers a field has. -/
def count (f : Field) : Nat := f.greatest - f.least + 1

end Field

/-- The names of the months, in order. -/
def monthNames : List Text :=
  ["jan", "feb", "mar", "apr", "may", "jun", "jul", "aug", "sep", "oct", "nov", "dec"]

/-- The names of the weekdays, in order. -/
def weekdayNames : List Text := ["sun", "mon", "tue", "wed", "thu", "fri", "sat"]

/-- The number that a name stands for in a field. -/
def named? (f : Field) (t : Text) : Option Nat :=
  match f with
  | .month => (monthNames.idxOf? t).map (· + 1)
  | .weekday => weekdayNames.idxOf? t
  | _ => none

/-- The number that digits write. -/
def number? (t : Text) : Option Nat :=
  if t.isEmpty then none
  else (t.mapM CodePoint.decimal?).map fun ds => ds.foldl (fun n d => n * 10 + d) 0

/-- Numbers with a second spelling: Sunday is also 7 in five columns, and the first day is also 0 in
six. -/
def respelled (f : Field) (columns n : Nat) : Nat :=
  if f = .weekday ∧ columns = 5 ∧ n = 7 then 0
  else if f = .day ∧ columns = 6 ∧ n = 0 then 1
  else n

/-- What a column lists. -/
inductive Entry where
  | any
  | number (n : Nat)
  | lastDay
deriving DecidableEq, Repr

/-- Which of the same weekdays of a month is meant. -/
inductive Occurrence where
  | nth (n : Nat)
  | last
deriving DecidableEq, Repr

/-! ## Reading a column -/

/-- The entry of a number, if it lies in the field. -/
def singleValue? (f : Field) (columns n : Nat) : Option Entry :=
  let n := respelled f columns n
  if f.least ≤ n ∧ n ≤ f.greatest then some (.number n) else none

/-- A bound of a range: a number or a name. -/
def bound? (f : Field) (t : Text) : Option Nat := (number? t).orElse fun _ => named? f t

/-- The parts of a range: two bounds with a line between them, and perhaps a step. -/
def rangeParts? (t : Text) : Option (Text × Text × Nat) :=
  let low := t.takeWhile (· ≠ .scalar '-')
  match t.dropWhile (· ≠ .scalar '-') with
  | [] => none
  | _ :: r =>
    let high := r.takeWhile fun c => c ≠ .scalar '-' ∧ c ≠ .scalar '/'
    if low.isEmpty || high.isEmpty then none
    else
      match r.drop high.length with
      | [] => some (low, high, 1)
      | .scalar '/' :: step => (number? step).map fun step => (low, high, step)
      | _ => none

/-- The last slash of a text cuts it in two, if neither part is empty. -/
def cutAtSlash? (t : Text) : Option (Text × Text) :=
  let step := (t.reverse.takeWhile (· ≠ .scalar '/')).reverse
  let start := t.take (t.length - step.length - 1)
  if step.isEmpty || start.isEmpty || !t.contains (.scalar '/') then none else some (start, step)

/-- A range in a column. A star before a step is the whole field, and a single bound before a step
begins a range that goes up to the end of the field. -/
def range? (f : Field) (t : Text) : Option (Text × Text × Nat) :=
  match rangeParts? t with
  | some parts => some parts
  | none => do
    let (start, step) ← cutAtSlash? t
    let start : Text := if start = "*" then Text.ofNat f.least else start
    rangeParts? (start ++ "-" ++ Text.ofNat f.greatest ++ "/" ++ step)

/-- The numbers from `low` up to `high` at a distance of `step`. -/
def steps (low high step : Nat) : List Nat :=
  if high < low then [] else (List.range ((high - low) / step + 1)).map fun i => low + i * step

/-- The numbers of a range. With equal bounds it is the whole field; one that goes down passes over
the end of the field to its beginning and keeps the distance there. -/
def span (f : Field) (low high step : Nat) : List Nat :=
  if low < high then steps low high step
  else if low = high then steps f.least f.greatest step
  else
    let head := steps low f.greatest step
    let last := head.getLast?.getD low
    let left := f.greatest - last
    let skipped := if f.count < last - f.least + step ∧ left < step then step - left else 0
    head ++ steps (f.least + skipped) high step

/-- The occurrence that a weekday is limited to, and the term without it. -/
def occurrence? (t : Text) : Option (Text × Option Occurrence) :=
  match Text.partition '#' t with
  | (_, none) =>
    match t with
    | .scalar 'l' :: ds => if (number? ds).isSome then some (ds, some .last) else some (t, none)
    | _ => some (t, none)
  | (term, some count) => do
    let n ← number? count
    let isName := !term.isEmpty && term.all CodePoint.isWord
    let isNameRange :=
      match Text.partition '-' term with
      | (low, some high) => weekdayNames.contains low && weekdayNames.contains high
      | _ => false
    if (isName || isNameRange) && 1 ≤ n && n ≤ 5 then some (term, some (.nth n)) else none

/-- The entries of a term, each with the occurrence it is limited to. -/
def term? (f : Field) (columns : Nat) (t : Text) : Option (List (Entry × Option Occurrence)) := do
  let (t, occurrence) ← if f = .weekday then occurrence? t else some (t, none)
  match range? f t with
  | some (low, high, step) => do
    let low ← bound? f low
    let high ← if f = .day ∧ high = "l" then some 31 else bound? f high
    let low := respelled f columns low
    let high := respelled f columns high
    if step = 0 ∨ f.greatest < max low high then none
    else (span f low high step).mapM fun n => (singleValue? f columns n).map fun e => (e, occurrence)
  | none =>
    if t = "*" then some [(.any, occurrence)]
    else if f = .day ∧ t = "l" then some [(.lastDay, occurrence)]
    else do
      let e ← singleValue? f columns (← bound? f t)
      some [(e, occurrence)]

/-- A column that leaves the value to the scheduler: `r`, with a range in brackets and a step if
wanted. The beginning of the range is as good a value as any. -/
def chosen? (f : Field) (t : Text) : Option (Option Text) :=
  match t with
  | .scalar 'r' :: r =>
    let (bounds, r) : Option (Nat × Nat) × Text :=
      match r with
      | .scalar '(' :: inner =>
        match Text.partition ')' inner with
        | (bounds, some rest) =>
          match Text.partition '-' bounds with
          | (low, some high) =>
            match number? low, number? high with
            | some low, some high => (some (low, high), rest)
            | _, _ => (none, r)
          | _ => (none, r)
        | _ => (none, r)
      | _ => (none, r)
    let (low, high) := bounds.getD (f.least, f.greatest)
    match r with
    | [] => if bounds.isSome && high ≤ low then none else some (some (Text.ofNat low))
    | .scalar '/' :: step =>
      match number? step with
      | some n =>
        if (bounds.isSome && high ≤ low) || n = 0 then none
        else some (some (Text.ofNat low ++ "-" ++ Text.ofNat high ++ "/" ++ Text.ofNat n))
      | none => some none
    | _ => some none
  | _ => some none

/-- The entries of a column. A question mark leaves the day or the weekday open. -/
def column? (f : Field) (columns : Nat) (t : Text) : Option (List (Entry × Option Occurrence)) := do
  let t := (← chosen? f t).getD t
  let t ←
    if t.contains (.scalar '?') then
      if t = "?" ∧ (f = .day ∨ f = .weekday) then some ("*" : Text) else none
    else some t
  let terms ← (Text.splitChar ',' t).mapM (term? f columns)
  some terms.flatten

/-! ## Expressions -/

/-- What a column asks for: nothing, or one of its numbers, or the last day of the month. -/
structure Demand where
  numbers : Option (List Nat)
  lastDay : Bool
deriving DecidableEq, Repr

namespace Demand

/-- Does the column ask for nothing? -/
def isOpen (d : Demand) : Bool := d.numbers.isNone

/-- Does a number fit? -/
def allows (d : Demand) (n : Nat) : Bool :=
  match d.numbers with
  | none => true
  | some numbers => numbers.contains n

end Demand

end Cron

/-- A cron expression. -/
structure Cron where
  minute : Cron.Demand
  hour : Cron.Demand
  day : Cron.Demand
  month : Cron.Demand
  weekday : Cron.Demand
  second : Option Cron.Demand
  year : Option Cron.Demand
  /-- The weekdays that are limited to one of their occurrences in a month. -/
  occurrences : List (Nat × Cron.Occurrence)
deriving DecidableEq, Repr

namespace Cron

/-- Expressions with a name of their own. -/
def aliases : List (Text × Text) :=
  [("@midnight", "0 0 * * *"), ("@hourly", "0 * * * *"), ("@daily", "0 0 * * *"),
   ("@weekly", "0 0 * * 0"), ("@monthly", "0 0 1 * *"), ("@yearly", "0 0 1 1 *"),
   ("@annually", "0 0 1 1 *")]

/-- The pieces between blanks. -/
def words (t : Text) : List Text :=
  let pieces := t.foldr
    (fun c pieces =>
      match pieces with
      | [] => if c.isBlank then [[]] else [[c]]
      | piece :: rest => if c.isBlank then [] :: piece :: rest else (c :: piece) :: rest) [[]]
  pieces.filter (!·.isEmpty)

/-- What the entries of a column ask for. A column that lists all its numbers asks for nothing, but a
full list of days or weekdays counts only beside a column with a star. -/
def demand (f : Field) (entries : List Entry) (opposite : Text) : Demand :=
  let full := entries.length = f.count
    && !((f = .day || f = .weekday) && !opposite.contains (.scalar '*'))
  if full || entries.contains .any then ⟨none, false⟩
  else
    ⟨some (entries.filterMap fun
      | .number n => some n
      | _ => none), entries.contains .lastDay⟩

/-- May the weekdays be limited as they are? Weekdays with and without an occurrence do not go
together, unless all are listed. -/
def occurrencesOk (entries : List Entry) (full : Bool) (occurrences : List (Nat × Occurrence)) : Bool :=
  occurrences.isEmpty || full || entries.length = Field.weekday.count
    || entries.all fun
      | .number n => occurrences.any (·.1 = n)
      | _ => true

/-- The expression that a text writes. -/
def parse? (t : Text) : Option Cron := do
  let t := t.toLower
  let ws := words ((Fields.get? aliases t).getD t)
  let columns := ws.length
  if columns < 5 ∨ 7 < columns then none
  else do
    let listed ← (Field.all.zip ws).mapM fun (f, w) => column? f columns w
    let entriesOf (f : Field) : List Entry :=
      ((listed[Field.all.idxOf f]?).getD []).map Prod.fst |>.eraseDups
    let wordOf (f : Field) : Text := (ws[Field.all.idxOf f]?).getD []
    let demandOf (f : Field) : Demand :=
      demand f (entriesOf f) (wordOf (if f = .day then .weekday else .day))
    let occurrences := ((listed[4]?).getD []).filterMap fun
      | (.number n, some o) => some (n, o)
      | _ => none
    if occurrencesOk (entriesOf .weekday) (demandOf .weekday).isOpen occurrences then
      some
        { minute := demandOf .minute
          hour := demandOf .hour
          day := demandOf .day
          month := demandOf .month
          weekday := demandOf .weekday
          second := if 6 ≤ columns then some (demandOf .second) else none
          year := if 7 ≤ columns then some (demandOf .year) else none
          occurrences := occurrences }
    else none

/-! ## Fitting -/

/-- Does the time of day fit? -/
def timeFits (c : Cron) (m : Moment) : Bool :=
  c.minute.allows m.minuteOfHour && c.hour.allows m.hour
    && (c.second.map (·.allows m.secondOfMinute)).getD true

/-- Do month and year fit? -/
def seasonFits (c : Cron) (d : Date) : Bool :=
  c.month.allows d.month && (c.year.map (·.allows d.year.toNat)).getD true

/-- Does the day of the month fit? -/
def dayFits (c : Cron) (d : Date) : Bool :=
  c.day.allows d.day || (c.day.lastDay && d.day == daysInMonth d.year d.month)

/-- Is the date one of the occurrences that weekdays are limited to? -/
def occurrenceFits (c : Cron) (d : Date) : Bool :=
  c.occurrences.any fun (weekday, occurrence) =>
    weekdayOf d.toDay == weekday &&
      match occurrence with
      | .nth n => (d.day + 6) / 7 == n
      | .last => daysInMonth d.year d.month < d.day + 7

/-- Does the weekday fit? -/
def weekdayFits (c : Cron) (d : Date) : Bool :=
  if c.occurrences.isEmpty then c.weekday.allows (weekdayOf d.toDay) else c.occurrenceFits d

/-- Does the date fit when the weekday is left open? Occurrences are not. -/
def byDay (c : Cron) (d : Date) : Bool :=
  c.seasonFits d && c.dayFits d && (c.occurrences.isEmpty || c.occurrenceFits d)

/-- Does the date fit when the day of the month is left open? -/
def byWeekday (c : Cron) (d : Date) : Bool := c.seasonFits d && c.weekdayFits d

/-- How many years back a date that fits is looked for. -/
def horizon : Int := 50

/-- Is there a date up to `d`, not before the horizon, that satisfies `p`? -/
def reached (p : Date → Bool) (d : Date) : Bool :=
  let earliest := (Date.mk (d.year - horizon) 1 1).toDay
  (List.range (d.toDay - earliest + 1).toNat).any fun back => p (.ofDay (d.toDay - back))

/-- Does the date fit? When day and weekday are both restricted one of them is enough, provided that
neither is out of reach. -/
def dateFits (c : Cron) (d : Date) : Bool :=
  if c.day.isOpen || c.weekday.isOpen then c.byDay d && c.byWeekday d
  else (c.byDay d || c.byWeekday d) && reached c.byDay d && reached c.byWeekday d

/-- Does the moment lie in a minute of the expression, or in a second if it has a column for it? -/
def fits (c : Cron) (m : Moment) : Bool := c.timeFits m && c.dateFits m.date

end Cron

end ChatFlow
