import ChatFlow.Outlet.Chat
import ChatFlow.World

/-!
# Outlets

An outlet carries out the calls of a workflow. One kind records them, and may refuse some; the other
posts the action of each call to the chat program and waits for its answer.

* `Outlet.perform`: carries out a call.
* `Connector.post`: posts an action; whatever goes wrong, the result is then null.
-/

namespace ChatFlow

/-- The way to the chat program. -/
structure Connector where
  /-- The address, without slashes at its end. -/
  address : Text
  /-- The token that goes with each post, unless it is empty. -/
  token : Text
deriving DecidableEq, Repr

namespace Connector

/-- The way to an address, with a token that may have blanks around it. -/
def of (address token : Text) : Connector := ⟨address.trimEndBy (· = .scalar '/'), token.trim⟩

/-- The greatest length of an address that posts are sent to. -/
def maxAddress : Nat := 65536

/-- The path of an address that posts can be sent to. -/
def path? (address : Text) : Option Text :=
  let isOdd (c : CodePoint) : Bool := c.toNat < 0x20 || c.toNat == 0x7F
  if address.any isOdd || maxAddress < address.length then none
  else
    let place :=
      match address.splitOn "://" with
      | _ :: part :: parts => Text.join "://" (part :: parts)
      | _ => address
    some ((place.dropWhile (· ≠ .scalar '/')).takeWhile fun c => c ≠ .scalar '?' && c ≠ .scalar '#')

mutual

/-- Can a value be posted? Only finite numbers of no more than the greatest number of digits, and
texts that can be encoded. -/
def canPost : Value → Bool
  | .int n => !integerTooLong n
  | .float x => x.isFinite
  | .text t => t.isWellFormed
  | .bytes _ => false
  | .list items => canPostItems items
  | .object fields => canPostFields fields
  | _ => true

/-- Can all items be posted? -/
def canPostItems : List Value → Bool
  | [] => true
  | v :: rest => canPost v && canPostItems rest

/-- Can all fields be posted? -/
def canPostFields : List (Text × Value) → Bool
  | [] => true
  | (name, v) :: rest => name.isWellFormed && canPost v && canPostFields rest

end

/-- What an answer of the chat program returns: the data of a success. -/
def dataOf : Web.Answer → Value
  | .response r =>
    if 200 ≤ r.status ∧ r.status < 300 then
      match r.document? with
      | some (.object fields) =>
        let v := Value.object fields
        if v.fieldOrNull "status" = .text "failed" then .null else v.fieldOrNull "data"
      | _ => .null
    else .null
  | _ => .null

/-- Posts an action and gives the data that it returns. An action without a name, or one that cannot be
written down, is not posted. -/
def post (c : Connector) (a : Action) (w : World) : Value × World :=
  let sendable := !a.name.isEmpty && canPostFields a.params && (c.address ++ a.name).isWellFormed
    && c.token.all fun x => x.toNat < 128
  match path? (c.address ++ "/" ++ a.name) with
  | some path =>
    if sendable then
      let authorization := if c.token.isEmpty then none else some ("Bearer " ++ c.token)
      let w := w.act (.posted ⟨path, a.params, authorization⟩)
      match w.chat with
      | [] => (.null, w)
      | answer :: rest => (dataOf answer, { w with chat := rest })
    else (.null, w)
  | none => (.null, w)

end Connector

/-- Where the calls of a workflow go. -/
inductive Outlet where
  /-- Records calls, refuses those of the given names, and knows whom they are meant for. -/
  | recorder (refused : List Text) (target : Option Target)
  /-- Posts actions to the chat program. -/
  | connected (connector : Connector) (chat : Chat)

namespace Outlet

/-- Carries out a call. -/
def perform (o : Outlet) (c : Call) (w : World) : Except Fault Value × World :=
  match o with
  | .recorder refused target =>
    let w := w.act (.asked c target)
    if refused.contains c.name then (.error .refused, w)
    else
      match c, w.returns with
      | .callApi .., v :: rest => (.ok v, { w with returns := rest })
      | _, _ => (.ok .null, w)
  | .connected connector chat =>
    match chat.action c with
    | .error fault => (.error fault, w)
    | .ok none => (.ok .null, w)
    | .ok (some a) =>
      let (v, w) := connector.post a w
      match c with
      | .callApi .. => (.ok v, w)
      | _ => (.ok .null, w)

end Outlet

end ChatFlow
