import ChatFlow.Pattern.Syntax
import ChatFlow.Unicode.Case
import ChatFlow.Unicode.Classes

/-!
# Matching

A pattern is matched from a place in a text by trying its alternatives in order. What has to follow
is passed along as a continuation, so the first way through the whole pattern wins. A loop that has
its least number of rounds does not go on from where its last round began.

* `Pattern.run`: the first way through a pattern that the continuation accepts.
* `Pattern.search?`: the leftmost match in a text.
* `Pattern.replaceAll`: all matches replaced, found from left to right.
-/

namespace ChatFlow

/-- Is the code point of the kind? In ASCII mode only ASCII characters are. -/
def CharKind.holds (kind : CharKind) (ascii : Bool) (c : CodePoint) : Bool :=
  if ascii then
    match kind with
    | .digit => c.isAscii Char.isDigit
    | .blank => c.isAscii fun ch => ch == ' ' || (0x09 ≤ ch.toNat && ch.toNat ≤ 0x0D)
    | .word => c.isAscii fun ch => ch.isAlphanum || ch == '_'
  else
    match kind with
    | .digit => c.isDecimal
    | .blank => c.isBlank
    | .word => c.isWord

namespace CodePoint

/-- The ASCII lower case of a code point. -/
def lowerAscii : CodePoint → CodePoint
  | .scalar c => if c.toNat < 128 then .scalar c.toLower else .scalar c
  | c => c

/-- All code points that match `c` where case is ignored. -/
def caseVariants (c : CodePoint) : List Nat :=
  let key := c.lower.toNat
  let keys := (Unicode.caseTwins.find? (·.contains key)).getD [key]
  keys.flatMap fun k =>
    k :: Unicode.lowerShifts.filterMap fun shift =>
      let n := ((k : Int) - shift.offset).toNat
      if shift.image? n == some k then some n else none

end CodePoint

namespace CharMode

/-- Is `c` the code point `p` in this mode? -/
def samePoint (mode : CharMode) (p c : CodePoint) : Bool :=
  if !mode.ignoreCase then p == c
  else if mode.ascii then p.lowerAscii == c.lowerAscii
  else p.eqIgnoringCase c

/-- The numbers that count as `c` in this mode. -/
def variants (mode : CharMode) (c : CodePoint) : List Nat :=
  if !mode.ignoreCase then [c.toNat]
  else if mode.ascii then
    let n := c.lowerAscii.toNat
    if 0x61 ≤ n && n ≤ 0x7A then [n, n - 0x20] else [n]
  else c.caseVariants

/-- Is `c` in one of the items? -/
def inItems (mode : CharMode) (items : List SetItem) (c : CodePoint) : Bool :=
  let numbers := mode.variants c
  let folded := if !mode.ignoreCase then c else if mode.ascii then c.lowerAscii else c.lower
  items.any fun
    | .range first last => numbers.any fun n => first ≤ n && n ≤ last
    | .kind kind negated => kind.holds mode.ascii folded != negated

end CharMode

namespace Pattern

/-- A place in a text: what is before it, nearest first, and after it, and what groups captured. -/
structure Place where
  before : Text
  after : Text
  index : Nat
  groups : List (Nat × Text)
deriving Inhabited

namespace Place

/-- The place at the beginning of a text. -/
def start (t : Text) : Place := ⟨[], t, 0, []⟩

/-- One code point further. -/
def next? (x : Place) : Option (CodePoint × Place) :=
  match x.after with
  | [] => none
  | c :: r => some (c, { x with before := c :: x.before, after := r, index := x.index + 1 })

/-- `n` code points back, if there are as many. -/
def back? (x : Place) (n : Nat) : Option Place :=
  if x.index < n then none
  else
    let passed := x.before.take n
    some { x with before := x.before.drop n, after := passed.reverse ++ x.after, index := x.index - n }

/-- `n` code points further, or at the end of the text. -/
def advance (x : Place) (n : Nat) : Place :=
  let passed := x.after.take n
  { x with before := passed.reverse ++ x.before, after := x.after.drop n, index := x.index + passed.length }

/-- The text between an earlier place and this one. -/
def since (y x : Place) : Text := x.after.take (y.index - x.index)

/-- The text of a group, if it took part in the match. -/
def group? (x : Place) (i : Nat) : Option Text := x.groups.lookup i

/-- Records the text of a group. -/
def capture (x : Place) (i : Nat) (t : Text) : Place :=
  { x with groups := (i, t) :: x.groups.filter fun g => g.1 ≠ i }

end Place

/-- Does an anchor hold at a place? Word edges do not hold in an empty text, of either kind. -/
def Anchor.holds (a : Anchor) (x : Place) : Bool :=
  let newline (c : CodePoint) : Bool := c == '\n'
  let atEdge (ascii : Bool) : Bool :=
    let word (t : Text) : Bool :=
      match t with
      | [] => false
      | c :: _ => CharKind.word.holds ascii c
    word x.before != word x.after
  match a with
  | .textStart => x.before.isEmpty
  | .textEnd => x.after.isEmpty
  | .lastLineEnd =>
    match x.after with
    | [] => true
    | [c] => newline c
    | _ => false
  | .lineStart =>
    match x.before with
    | [] => true
    | c :: _ => newline c
  | .lineEnd =>
    match x.after with
    | [] => true
    | c :: _ => newline c
  | .wordEdge ascii => !(x.before.isEmpty && x.after.isEmpty) && atEdge ascii
  | .noWordEdge ascii => !(x.before.isEmpty && x.after.isEmpty) && !atEdge ascii

/-- What has to follow: the place where the whole match ends, if there is a way. -/
abbrev Rest := Place → Option Place

/-- A code point that satisfies `p`. -/
def one (p : CodePoint → Bool) (k : Rest) : Rest := fun x =>
  match x.next? with
  | some (c, y) => if p c then k y else none
  | none => none

/-- A literal text. -/
def literal (same : CodePoint → CodePoint → Bool) : Text → Rest → Rest
  | [], k => k
  | c :: t, k => one (same c) (literal same t k)

/-- May there be another round after `count` of them? -/
def belowMax (max : Option Nat) (count : Nat) : Bool :=
  match max with
  | none => true
  | some m => count < m

/-- Rounds of `body`, as many as possible first. `last` is where the last round beyond the least
number began. `fuel` bounds the rounds. -/
def greedyLoop (body : Rest → Rest) (min : Nat) (max : Option Nat) (k : Rest) :
    (fuel count : Nat) → (last : Option Nat) → Rest
  | 0, _, _ => fun _ => none
  | fuel + 1, count, last => fun x =>
    if count < min then body (greedyLoop body min max k fuel (count + 1) last) x
    else if belowMax max count && last != some x.index then
      match body (greedyLoop body min max k fuel (count + 1) (some x.index)) x with
      | some y => some y
      | none => k x
    else k x

/-- Rounds of `body`, as few as possible first. -/
def lazyLoop (body : Rest → Rest) (min : Nat) (max : Option Nat) (k : Rest) :
    (fuel count : Nat) → (last : Option Nat) → Rest
  | 0, _, _ => fun _ => none
  | fuel + 1, count, last => fun x =>
    if count < min then body (lazyLoop body min max k fuel (count + 1) last) x
    else
      match k x with
      | some y => some y
      | none =>
        if belowMax max count && last != some x.index then
          body (lazyLoop body min max k fuel (count + 1) (some x.index)) x
        else none

/-- Rounds of `body` in its first way each, as many as possible. -/
def possessiveLoop (body : Rest → Rest) (min : Nat) (max : Option Nat) : (fuel count : Nat) → Rest
  | 0, _ => fun _ => none
  | fuel + 1, count => fun x =>
    if count < min then
      match body some x with
      | some y => possessiveLoop body min max fuel (count + 1) y
      | none => none
    else if belowMax max count then
      match body some x with
      | some y => if y.index = x.index then some y else possessiveLoop body min max fuel (count + 1) y
      | none => some x
    else some x

/-- The first way through a pattern from a place such that the rest `k` follows. -/
def run : Pattern → Rest → Rest
  | empty, k => k
  | any lineEnds, k => one (fun c => lineEnds || c != '\n') k
  | point mode negated p, k => one (fun c => mode.samePoint p c != negated) k
  | set mode negated items, k => one (fun c => mode.inItems items c != negated) k
  | anchor a, k => fun x => if Anchor.holds a x then k x else none
  | seq p q, k => run p (run q k)
  | alt p q, k => fun x =>
    match run p k x with
    | some y => some y
    | none => run q k x
  | group i p, k => fun x => run p (fun y => k (y.capture i (y.since x))) x
  | backReference ignoreCase i, k => fun x =>
    match x.group? i with
    | some t =>
      literal (fun a b => if ignoreCase then a.lower == b.lower else a == b) t k x
    | none => none
  | loop greed min max p, k => fun x =>
    let fuel := min + x.after.length + 2
    match greed with
    | .greedy => greedyLoop (run p) min max k fuel 0 none x
    | .lazy => lazyLoop (run p) min max k fuel 0 none x
    | .possessive =>
      match possessiveLoop (run p) min max fuel 0 x with
      | some y => k y
      | none => none
  | ahead negated p, k => fun x =>
    match run p some x with
    | some y => if negated then none else k { x with groups := y.groups }
    | none => if negated then k x else none
  | behind negated w p, k => fun x =>
    match (x.back? w).bind (run p some) with
    | some y => if negated then none else k { x with groups := y.groups }
    | none => if negated then k x else none
  | atomic p, k => fun x =>
    match run p some x with
    | some y => k y
    | none => none
  | ifGroup i p q, k => fun x =>
    if (x.group? i).isSome then run p k x else run q k x

/-! ## Searching -/

/-- The first match from `x` on: where it begins and where it ends. The first place that is tried
is refused an empty match if `moving`. -/
def searchFrom (p : Pattern) : (fuel : Nat) → (moving : Bool) → Place → Option (Place × Place)
  | 0, _, _ => none
  | fuel + 1, moving, x =>
    let accept : Rest := fun y => if moving && y.index == x.index then none else some y
    match p.run accept x with
    | some y => some (x, y)
    | none =>
      match x.next? with
      | some (_, x') => searchFrom p fuel false x'
      | none => none

/-- The leftmost match in a text: where it begins and where it ends. -/
def search? (p : Pattern) (t : Text) : Option (Place × Place) :=
  p.searchFrom (t.length + 1) false (Place.start t)

/-- Does the pattern match anywhere in the text? -/
def matchesIn (p : Pattern) (t : Text) : Bool := (p.search? t).isSome

/-- The texts of the groups 1 to `count`; a group that took no part is empty. -/
def captures (count : Nat) (y : Place) : List Text :=
  (List.range count).map fun i => (y.group? (i + 1)).getD []

/-- Replaces the matches from `x` on. After an empty match the next one at its place has to be
longer. -/
def replaceFrom (p : Pattern) (replacement : Text) : (fuel : Nat) → (moving : Bool) → Place → Text
  | 0, _, x => x.after
  | fuel + 1, moving, x =>
    match p.searchFrom (x.after.length + 1) moving { x with groups := [] } with
    | none => x.after
    | some (b, e) =>
      b.since x ++ replacement ++ replaceFrom p replacement fuel (b.index == e.index) { e with groups := [] }

/-- The text with all matches replaced. -/
def replaceAll (p : Pattern) (replacement : Text) (t : Text) : Text :=
  p.replaceFrom replacement (2 * t.length + 2) false (Place.start t)

end Pattern

end ChatFlow
