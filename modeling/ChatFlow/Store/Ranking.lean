import ChatFlow.Store.Basic

/-!
# Ranking

The users that hold a number under a key, ordered by it. Users with equal numbers keep the order in
which they were first written, whichever way the ranking goes.

* `Store.ranking`: the whole ranking; a number that no double is near makes it fail.
* `Store.leaderboard`: its beginning.
* `Store.rankOf`: the place of a user, from 1.
* `Store.countHolders`: how many users hold anything.
-/

namespace ChatFlow.Store

/-- Comparison of scores; they are numbers. -/
def scoreLt (v w : Value) : Bool :=
  match v.numeric?, w.numeric? with
  | some x, some y => x.lt y
  | _, _ => false

/-- The score that a text stands for, if it stands for a number. -/
def score? (t : Text) : Except Fault (Option Value) :=
  match valueOfText t with
  | .null => .ok none
  | v => (v.toDouble .nan).map fun x => if x.isNaN then none else some x.rounded

/-- The users with a score under a key, in the order of their rows. -/
def scores (key : Text) : List Row → Except Fault (List (Text × Value))
  | [] => .ok []
  | ⟨.user id, k, text⟩ :: rest =>
    if k = key then do
      let score ← score? text
      let others ← scores key rest
      .ok (match score with
        | some v => (id, v) :: others
        | none => others)
    else scores key rest
  | ⟨.shared, _, _⟩ :: rest => scores key rest

/-- The users with a score under a key, from the least or from the greatest one. -/
def ranking (s : Store) (key : Text) (ascending : Bool) : Except Fault (List (Text × Value)) := do
  s.canFind .shared key
  let holders ← scores key s.rows
  .ok (holders.mergeSort fun a b =>
    if ascending then !scoreLt b.2 a.2 else !scoreLt a.2 b.2)

/-- The first entries of the ranking. -/
def leaderboard (s : Store) (key : Text) (limit : Int) (ascending : Bool) :
    Except Fault (List (Text × Value)) :=
  (s.ranking key ascending).map (·.take limit.toNat)

/-- The place of a user in the ranking from 1, or 0 for none; the score; the length of the ranking. -/
structure Rank where
  place : Nat
  score : Value
  total : Nat

/-- The rank of a user. -/
def rankOf (s : Store) (id key : Text) (ascending : Bool) : Except Fault Rank := do
  let ranked ← s.ranking key ascending
  match ranked.findIdx? (·.1 = id) with
  | some i => .ok ⟨i + 1, ((ranked[i]?).map Prod.snd).getD .null, ranked.length⟩
  | none => .ok ⟨0, .int 0, ranked.length⟩

/-- How many users hold anything under a key? -/
def countHolders (s : Store) (key : Text) : Except Fault Nat := do
  s.canFind .shared key
  .ok (s.rows.countP fun row =>
    row.key = key &&
      match row.owner with
      | .user _ => true
      | .shared => false)

end ChatFlow.Store
