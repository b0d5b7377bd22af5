import ChatFlow.Fault
import ChatFlow.Pattern.Matcher
import ChatFlow.Pattern.Parser

/-!
# Searching by written patterns

* `Pattern.find`: the captures of the leftmost match of a written pattern.
* `Pattern.substitute`: all matches of a written pattern replaced.
-/

namespace ChatFlow

/-- The fault of a written pattern. -/
def PatternFault.toFault : PatternFault → Fault
  | .malformed => .badPattern
  | .repetitionTooLarge => .repetitionTooLarge
  | .numberTooLong => .integerTooLong
  | .conflictingFlags => .conflictingFlags

namespace Pattern

/-- Reads a pattern. -/
def compile (pattern : Text) : Except Fault CompiledPattern :=
  (parse pattern).mapError (·.toFault)

/-- The captures of the leftmost match in a text, if there is one. -/
def find (pattern t : Text) : Except Fault (Option (List Text)) := do
  let p ← compile pattern
  return (p.pattern.search? t).map fun (_, e) => captures p.groupCount e

/-- The text with all matches replaced. -/
def substitute (pattern replacement t : Text) : Except Fault Text := do
  let p ← compile pattern
  return p.pattern.replaceAll replacement t

end Pattern

end ChatFlow
