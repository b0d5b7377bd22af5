/-!
# Faults

Why a step of a program fails. A fault names its cause; where it is caught, and whether it is
shown at all, is up to the step's surroundings.
-/

namespace ChatFlow

/-- The cause of a failure. -/
inductive Fault where
  /-- No double is near an integer that large. -/
  | integerTooLarge
  /-- The integer has too many digits to be read or written. -/
  | integerTooLong
  /-- Bytes have no document form. -/
  | bytesInDocument
  /-- The text holds a surrogate, so it cannot be encoded. -/
  | unencodable
  /-- The pattern is malformed. -/
  | badPattern
  /-- The pattern asks for more repetitions than can be counted. -/
  | repetitionTooLarge
  /-- The pattern asks for ways of comparing that exclude each other. -/
  | conflictingFlags
  /-- Nothing can be drawn from an empty range. -/
  | emptyRange
  /-- The text is no number of the kind that is asked for. -/
  | notANumber
  /-- The remainder of an infinite number is not defined. -/
  | undefinedRemainder
  /-- An infinite number has no integer part. -/
  | infinite
  /-- Something that has no fields is asked for one. -/
  | noFields
  /-- Something that has no items is asked for them. -/
  | noItems
  /-- The operation has no such form. -/
  | badCall
  /-- The chat has no call of that name. -/
  | noSuchCall
  /-- A name is needed. -/
  | emptyName
  /-- The host refused the call. -/
  | refused
  /-- The moment lies outside the years of the calendar. -/
  | outsideCalendar
  /-- The moment is too early to be counted in seconds. -/
  | tooEarly
  /-- The table of the store is gone. -/
  | storeLost
deriving DecidableEq, Repr

/-- Does the fault lie in a value that cannot be read, written or counted? -/
def Fault.isOfValue : Fault → Bool
  | .integerTooLong | .unencodable | .conflictingFlags | .emptyRange | .notANumber
  | .undefinedRemainder | .emptyName | .tooEarly => true
  | _ => false

end ChatFlow
