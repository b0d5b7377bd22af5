import ChatFlow.Workflow.Basic

/-!
# Walks through a workflow

A walk visits a node and then, one after the other, the targets of the connections that leave it from
the slot that the visit chose. A visit that fails ends its branch and no other; so does a target that is
no node. A walk that comes back to a node of its own path, or whose path is too long, ends as a whole.

* `Workflow.walk`: the walk from a node, over any kind of state that visits change.
* `Workflow.walkFrom`: the walk from the first node of a path.
* `Workflow.walkBehind`: the walks from the successors of a node that is not visited itself.
-/

namespace ChatFlow

/-- What a visit of a node comes to. -/
inductive Outcome where
  | leaves (slot : Slot)
  | fails
deriving DecidableEq, Repr

/-- Why a walk ends as a whole. -/
inductive WalkFault where
  /-- The node stands on the path already. -/
  | revisits (node : Text) (path : List Text)
  /-- The path is as long as a path may be. -/
  | tooDeep
deriving DecidableEq, Repr

/-- A result or why there is none, and the state that is left. -/
abbrev Step (σ : Type) := σ → Except WalkFault Unit × σ

/-- Steps one after the other, up to the first that fails. -/
def Step.all {σ α : Type} (step : α → Step σ) : List α → Step σ
  | [], s => (.ok (), s)
  | a :: rest, s =>
    match step a s with
    | (.ok (), s) => all step rest s
    | (.error fault, s) => (.error fault, s)

namespace Workflow

/-- The greatest number of nodes on a path. -/
def maxDepth : Nat := 64

/-- The targets that a visit leads to. -/
def targets (w : Workflow) (id : Text) : Outcome → List Text
  | .leaves slot => w.successors id slot
  | .fails => []

/-- The walk from a node, behind a path that leaves room for some more nodes. -/
def walk {σ : Type} (w : Workflow) (visit : Node → σ → Outcome × σ) :
    (room : Nat) → (path : List Text) → Text → Step σ
  | 0, path, id, s => (.error (if path.contains id then .revisits id path else .tooDeep), s)
  | room + 1, path, id, s =>
    if path.contains id then (.error (.revisits id path), s)
    else
      match w.node? id with
      | none => (.ok (), s)
      | some n =>
        let (outcome, s) := visit n s
        Step.all (walk w visit room (path ++ [id])) (w.targets id outcome) s

/-- The walk from the first node of a path. -/
def walkFrom {σ : Type} (w : Workflow) (visit : Node → σ → Outcome × σ) (id : Text) : Step σ :=
  w.walk visit maxDepth [] id

/-- The walks from the usual successors of a node that is not visited itself, but stands on the path. -/
def walkBehind {σ : Type} (w : Workflow) (visit : Node → σ → Outcome × σ) (id : Text) : Step σ :=
  Step.all (w.walk visit (maxDepth - 1) [id]) (w.successors id .first)

end Workflow

end ChatFlow
