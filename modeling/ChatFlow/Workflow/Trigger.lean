import ChatFlow.Pattern.Search
import ChatFlow.Unicode.Classes
import ChatFlow.Workflow.Basic

/-!
# Triggers

A trigger compares a message with its pattern. Only regular expressions have captures; triggers of the
clock and triggers without a pattern are never set off by a message.

* `Trigger.captures?`: whether a message sets off a trigger, and with which captures.
* `Trigger.first?`: the first of several triggers that is set off.
-/

namespace ChatFlow.Trigger

/-- Kinds of triggers that only the clock sets off. -/
def clockKinds : List Text := ["scheduled", "timer"]

/-- The captures of a pattern; one that is malformed matches nothing. -/
def patternCaptures? (content pattern : Text) : Except Fault (Option (List Text)) :=
  match Pattern.find pattern content with
  | .error .badPattern => .ok none
  | r => r

/-- The keywords of a pattern, parted by bars. -/
def keywords (pattern : Text) : List Text :=
  ((Text.splitChar '|' pattern).map Text.trim).filter (!·.isEmpty)

/-- The captures with which a message sets off a trigger of a kind and pattern. -/
def captures? (kind content pattern : Text) : Except Fault (Option (List Text)) :=
  let kind := (if kind.isEmpty then ("exact" : Text) else kind).trim
  let whether (b : Bool) : Except Fault (Option (List Text)) := .ok (if b then some [] else none)
  if clockKinds.contains kind || pattern.isEmpty then .ok none
  else if kind = "exact" then whether (content = pattern)
  else if kind = "contains" then whether (content.includes pattern)
  else if kind = "startswith" then whether (content.startsWith pattern)
  else if kind = "regex" then patternCaptures? content pattern
  else if kind = "any" then whether ((keywords pattern).any content.includes)
  else .ok none

/-- The captures with which a message sets off a node; only a trigger can be set off. -/
def capturesOf? (n : Node) (content : Text) : Except Fault (Option (List Text)) :=
  match n.body with
  | .trigger d => captures? d.kind content d.pattern
  | _ => .ok none

/-- The first trigger that a message sets off, with its captures. -/
def first? (content : Text) : List Node → Except Fault (Option (Node × List Text))
  | [] => .ok none
  | n :: rest => do
    match ← capturesOf? n content with
    | some captures => .ok (some (n, captures))
    | none => first? content rest

end ChatFlow.Trigger
