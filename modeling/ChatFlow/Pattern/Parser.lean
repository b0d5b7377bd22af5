import ChatFlow.Double.Reader
import ChatFlow.Pattern.Syntax
import ChatFlow.Unicode.Identifier

/-!
# Reading patterns

The syntax of regular expressions: sets, repetitions with bounds, groups with numbers or names,
look-around, comments and inline flags. A malformed pattern has no meaning; the only difference
made between faults is whether a number in it is too large.

* `Pattern.parse`: the pattern that a text writes, with the number of its groups.
-/

namespace ChatFlow

/-- Why a text is no pattern. -/
inductive PatternFault where
  | malformed
  /-- More repetitions than can be counted. -/
  | repetitionTooLarge
  /-- A number with too many digits. -/
  | numberTooLong
  /-- Flags that exclude each other. -/
  | conflictingFlags
deriving DecidableEq, Repr

/-- A pattern with the number of its groups. -/
structure CompiledPattern where
  pattern : Pattern
  groupCount : Nat

namespace PatternReader

/-- A code point of a pattern, plain or behind a backslash. -/
inductive Token where
  | plain (c : CodePoint)
  | escaped (c : CodePoint)
deriving DecidableEq

/-- The tokens of a pattern; a backslash at its end escapes nothing. -/
def tokens? : Text → Option (List Token)
  | [] => some []
  | .scalar '\\' :: [] => none
  | .scalar '\\' :: c :: r => (tokens? r).map (.escaped c :: ·)
  | c :: r => (tokens? r).map (.plain c :: ·)

/-- The text of a token. -/
def Token.text : Token → Text
  | .plain c => [c]
  | .escaped c => [.scalar '\\', c]

/-- The flags in force. `ascii` and `unicode` tell which of the two was asked for. -/
structure Flags where
  ignoreCase : Bool := false
  multiline : Bool := false
  dotAll : Bool := false
  verbose : Bool := false
  ascii : Bool := false
  unicode : Bool := false
  template : Bool := false

/-- What is known of a group: its widths, once it is closed. -/
abbrev GroupWidth := Option (Nat × Nat)

/-- What has been read of a pattern so far. -/
structure Reading where
  rest : List Token
  /-- The flags set for the whole pattern. -/
  flags : Flags := {}
  names : List (Text × Nat) := []
  /-- The groups in order of their opening. -/
  groups : List GroupWidth := []
  /-- Inside a look-behind, the number of groups opened before it. -/
  lookBehind : Option Nat := none
  /-- The groups that conditions refer to by number. -/
  conditions : List Nat := []

/-- A reader of patterns. -/
abbrev Reader := StateT Reading (Except PatternFault)

/-- The pattern is malformed. -/
def malformed {α : Type} : Reader α := throw .malformed

/-- The next token, which stays. -/
def peek : Reader (Option Token) := do return (← get).rest.head?

/-- The next token, which is taken. -/
def take : Reader (Option Token) := do
  let s ← get
  match s.rest with
  | [] => return none
  | t :: r => set { s with rest := r }; return some t

/-- Takes the next token if it is the plain character `c`. -/
def takeIf (c : Char) : Reader Bool := do
  let s ← get
  match s.rest with
  | .plain d :: r => if d = c then set { s with rest := r }; return true else return false
  | _ => return false

/-- Requires the plain character `c`. -/
def require (c : Char) : Reader Unit := do
  if ← takeIf c then return () else malformed

/-- The tokens before the plain character `c`, which is taken too. -/
def splitTokens (c : Char) : List Token → Option (List Token × List Token)
  | [] => none
  | t :: r =>
    if t = .plain c then some ([], r)
    else (splitTokens c r).map fun (before, after) => (t :: before, after)

/-- A name before the closing character `c`. -/
def nameUntil (c : Char) : Reader Text := do
  let s ← get
  match splitTokens c s.rest with
  | none => malformed
  | some (before, after) =>
    if before.isEmpty then malformed
    set { s with rest := after }
    return before.flatMap Token.text

/-- Up to `n` plain characters that satisfy `p`. -/
def takeSome (p : Char → Bool) : (n : Nat) → Reader (List Char)
  | 0 => return []
  | n + 1 => do
    let s ← get
    match s.rest with
    | .plain (.scalar c) :: r =>
      if p c then
        set { s with rest := r }
        return c :: (← takeSome p n)
      else return []
    | _ => return []

/-- Is it an octal digit? -/
def isOctal (c : Char) : Bool := '0' ≤ c && c ≤ '7'

/-- Is it a hexadecimal digit? -/
def isHex (c : Char) : Bool := c.isDigit || ('a' ≤ c && c ≤ 'f') || ('A' ≤ c && c ≤ 'F')

/-- The number that digits write in a base. -/
def numberOf (base : Nat) (ds : List Char) : Nat :=
  ds.foldl (fun n d =>
    n * base + (if d.isDigit then d.toNat - 0x30 else d.toLower.toNat - 0x57)) 0

/-- The code point that exactly `n` hexadecimal digits write. -/
def hexPoint (n : Nat) : Reader CodePoint := do
  let ds ← takeSome isHex n
  let value := numberOf 16 ds
  if ds.length = n && value < 0x110000 then return .ofNat value else malformed

/-- The meaning of an escape that stands for a character, in a set or outside. -/
def controlEscape? : Char → Option Nat
  | 'a' => some 0x07
  | 'f' => some 0x0C
  | 'n' => some 0x0A
  | 'r' => some 0x0D
  | 't' => some 0x09
  | 'v' => some 0x0B
  | _ => none

/-- The meaning of an escape that stands for a kind of characters. -/
def kindEscape? : Char → Option (CharKind × Bool)
  | 'd' => some (.digit, false)
  | 'D' => some (.digit, true)
  | 's' => some (.blank, false)
  | 'S' => some (.blank, true)
  | 'w' => some (.word, false)
  | 'W' => some (.word, true)
  | _ => none

/-- The numbered escapes and those of one character; letters have to have a meaning. -/
def plainEscape (c : CodePoint) : Reader CodePoint := do
  match c with
  | .scalar 'x' => hexPoint 2
  | .scalar 'u' => hexPoint 4
  | .scalar 'U' => hexPoint 8
  | .scalar ch => if ch.isAlpha || ch.isDigit then malformed else return c
  | c => return c

/-- An escape in a set: one item. -/
def setEscape (c : CodePoint) : Reader (CodePoint ⊕ SetItem) := do
  match c with
  | .scalar 'b' => return .inl (.ofNat 0x08)
  | .scalar ch =>
    if let some n := controlEscape? ch then return .inl (.ofNat n)
    if let some (kind, negated) := kindEscape? ch then return .inr (.kind kind negated)
    if isOctal ch then
      let value := numberOf 8 (ch :: (← takeSome isOctal 2))
      if 0o377 < value then malformed
      return .inl (.ofNat value)
    return .inl (← plainEscape c)
  | c => return .inl (← plainEscape c)

/-- A set item of one code point. -/
def pointItem (c : CodePoint) : SetItem := .range c.toNat c.toNat

/-- A code point or an escape of a set. -/
def setPart (t : Token) : Reader (CodePoint ⊕ SetItem) :=
  match t with
  | .plain c => return .inl c
  | .escaped c => setEscape c

/-- An item of a set from its part. -/
def partItem : CodePoint ⊕ SetItem → SetItem
  | .inl c => pointItem c
  | .inr item => item

/-- The items of a set up to its closing bracket, which as first item stands for itself. -/
def setItems : (fuel : Nat) → (first : Bool) → Reader (List SetItem)
  | 0, _ => malformed
  | fuel + 1, first => do
    let some t ← take | malformed
    if t = .plain ']' && !first then return []
    let a ← setPart t
    if ← takeIf '-' then
      let some u ← take | malformed
      if u = .plain ']' then return [partItem a, pointItem '-']
      let b ← setPart u
      match a, b with
      | .inl a, .inl b =>
        if b.toNat < a.toNat then malformed
        return .range a.toNat b.toNat :: (← setItems fuel false)
      | _, _ => malformed
    else return partItem a :: (← setItems fuel false)

/-- The comparison of characters under flags. -/
def Flags.mode (f : Flags) : CharMode := ⟨f.ignoreCase, f.ascii⟩

/-- Is the group closed? -/
def isClosed (i : Nat) : Reader Bool := do
  return 0 < i && ((← get).groups[i - 1]?.join).isSome

/-- A look-behind may refer only to closed groups from before it. -/
def checkLookBehind (i : Nat) : Reader Unit := do
  match (← get).lookBehind with
  | none => return ()
  | some known =>
    if !(← isClosed i) then malformed
    if known < i then malformed

/-- A reference to a closed group. -/
def reference (f : Flags) (i : Nat) : Reader Pattern := do
  if (← get).groups.length < i then malformed
  if !(← isClosed i) then malformed
  checkLookBehind i
  return .backReference f.ignoreCase i

/-- An escape outside sets that begins with a digit: a reference, or an octal number when it begins
with zero or has three octal digits. -/
def digitEscape (f : Flags) (d : Char) : Reader Pattern := do
  if d = '0' then
    let value := numberOf 8 (d :: (← takeSome isOctal 2))
    return .point f.mode false (.ofNat value)
  match ← takeSome Char.isDigit 1 with
  | [e] =>
    if isOctal d && isOctal e then
      match ← takeSome isOctal 1 with
      | [o] =>
        let value := numberOf 8 [d, e, o]
        if 0o377 < value then malformed
        return .point f.mode false (.ofNat value)
      | _ => reference f (numberOf 10 [d, e])
    else reference f (numberOf 10 [d, e])
  | _ => reference f (numberOf 10 [d])

/-- An escape outside sets. -/
def escapePattern (f : Flags) (c : CodePoint) : Reader Pattern := do
  match c with
  | .scalar 'A' => return .anchor .textStart
  | .scalar 'Z' => return .anchor .textEnd
  | .scalar 'b' => return .anchor (.wordEdge f.ascii)
  | .scalar 'B' => return .anchor (.noWordEdge f.ascii)
  | .scalar ch =>
    if let some (kind, negated) := kindEscape? ch then
      return .set f.mode false [.kind kind negated]
    if let some n := controlEscape? ch then return .point f.mode false (.ofNat n)
    if ch.isDigit then digitEscape f ch
    else return .point f.mode false (← plainEscape c)
  | c => return .point f.mode false (← plainEscape c)

/-- A flag letter. -/
inductive FlagLetter where
  | i | m | s | x | a | u | t
deriving DecidableEq

/-- The flag of a letter. -/
def flagLetter? : Char → Option FlagLetter
  | 'i' => some .i
  | 'm' => some .m
  | 's' => some .s
  | 'x' => some .x
  | 'a' => some .a
  | 'u' => some .u
  | 't' => some .t
  | _ => none

/-- Sets or clears a flag. The character classes are ASCII or Unicode, by the last flag. -/
def Flags.put (f : Flags) (on : Bool) : FlagLetter → Flags
  | .i => { f with ignoreCase := on }
  | .m => { f with multiline := on }
  | .s => { f with dotAll := on }
  | .x => { f with verbose := on }
  | .a => { f with ascii := on, unicode := false }
  | .u => { f with ascii := false, unicode := on }
  | .t => { f with template := on }

/-- Flag letters up to a character that ends them, which is given too. -/
def flagLetters : (fuel : Nat) → Reader (List FlagLetter × Char)
  | 0 => malformed
  | fuel + 1 => do
    match ← take with
    | some (.plain (.scalar c)) =>
      match flagLetter? c with
      | some l =>
        let (ls, stop) ← flagLetters fuel
        return (l :: ls, stop)
      | none => return ([], c)
    | _ => malformed

/-- What a group of flags does: sets flags for the whole pattern, or for a part. -/
inductive FlagGroup where
  | whole (on : List FlagLetter)
  | part (on off : List FlagLetter)

/-- The flags after the opening of a group; `c` is the first character. -/
def flagGroup (fuel : Nat) (c : Char) : Reader FlagGroup := do
  let mut on : List FlagLetter := []
  let mut stop := c
  if c ≠ '-' then
    let some first := flagLetter? c | malformed
    let (ls, s) ← flagLetters fuel
    on := first :: ls
    stop := s
    if on.contains .a && on.contains .u then malformed
  if stop = ')' then return .whole on
  if on.contains .t then malformed
  if stop = ':' then return .part on []
  if stop ≠ '-' then malformed
  let (off, s) ← flagLetters fuel
  if off.isEmpty || s ≠ ':' then malformed
  if off.any fun l => l = .a || l = .u || l = .t || on.contains l then malformed
  return .part on off

/-- The bounds of a repetition in braces, after the opening brace; `none` if the brace stands for
itself, and then nothing is taken. -/
def bounds : Reader (Option (Nat × Option Nat)) := do
  let saved ← get
  let digits := takeSome Char.isDigit saved.rest.length
  if saved.rest.head? = some (.plain '}') then return none
  let low ← digits
  let comma ← takeIf ','
  let high ← if comma then digits else pure low
  if !(← takeIf '}') then
    set saved
    return none
  let limit : Nat := Nat.pow 2 32 - 1
  let check (ds : List Char) : Reader Nat := do
    if maxIntegerDigits < ds.length then throw .numberTooLong
    let n := numberOf 10 ds
    if limit ≤ n then throw .repetitionTooLarge
    return n
  let min ← if low.isEmpty then pure 0 else check low
  if high.isEmpty then return some (min, none)
  let max ← check high
  if max < min then malformed
  return some (min, some max)

/-- What kind of part a repetition would repeat. -/
inductive PartKind where
  | anchor
  | repetition
  | other
deriving DecidableEq

/-- A sequence of parts, the last one first. -/
abbrev Parts := List (PartKind × Pattern)

/-- The pattern of a sequence of parts. -/
def Parts.pattern (parts : Parts) : Pattern :=
  match parts.reverse.map Prod.snd with
  | [] => .empty
  | p :: ps => ps.foldl .seq p

/-- Repeats the last part. -/
def repeatLast (parts : Parts) (min : Nat) (max : Option Nat) : Reader Parts := do
  match parts with
  | (.other, p) :: before =>
    let done (greed : Greed) : Reader Parts := return (.repetition, .loop greed min max p) :: before
    if ← takeIf '?' then return ← done .lazy
    if ← takeIf '+' then return ← done .possessive
    done .greedy
  | _ => malformed

/-- The widths of the closed groups. -/
def groupWidths (s : Reading) (i : Nat) : Nat × Nat := ((s.groups[i - 1]?).join).getD (0, 0)

/-- Opens a group; a name may be given only once. -/
def openGroup (name : Option Text) : Reader Nat := do
  let s ← get
  let i := s.groups.length + 1
  match name with
  | none => set { s with groups := s.groups ++ [none] }
  | some n =>
    if (s.names.lookup n).isSome then malformed
    set { s with groups := s.groups ++ [none], names := s.names ++ [(n, i)] }
  return i

/-- Closes a group and records its widths. -/
def closeGroup (i : Nat) (p : Pattern) : Reader Unit :=
  modify fun s => { s with groups := s.groups.set (i - 1) (some (p.width (groupWidths s))) }

/-- A comment up to its closing parenthesis. -/
def skipComment : Reader Unit := do
  let s ← get
  match splitTokens ')' s.rest with
  | none => malformed
  | some (_, after) => set { s with rest := after }

/-- The rest of a line in a verbose pattern. -/
def skipLine : Reader Unit :=
  modify fun s => { s with rest := ((splitTokens '\n' s.rest).map Prod.snd).getD [] }

/-- The group that a condition names or numbers. -/
def conditionGroup : Reader Nat := do
  let name ← nameUntil ')'
  if name.isIdentifier then
    match (← get).names.lookup name with
    | some i => return i
    | none => malformed
  match name.toInteger? with
  | some n =>
    if n ≤ 0 || ((Nat.pow 2 30 : Nat) : Int) ≤ n then malformed
    modify fun s => { s with conditions := n.toNat :: s.conditions }
    return n.toNat
  | none => malformed

/-- The sign after the opening of a look-behind: is it a negated one? -/
def lookBehindSign : Reader Bool := do
  match ← take with
  | some (.plain (.scalar '=')) => return false
  | some (.plain (.scalar '!')) => return true
  | _ => malformed

/-- Is it a blank of a verbose pattern? -/
def isVerboseBlank (c : CodePoint) : Bool :=
  c == ' ' || (0x09 ≤ c.toNat && c.toNat ≤ 0x0D)

mutual

/-- Alternatives up to a closing parenthesis or the end. At the top the flags of the whole pattern
are in force from the second alternative on. -/
def alternatives (top first : Bool) (f : Flags) : (fuel : Nat) → Reader Pattern
  | 0 => malformed
  | fuel + 1 => do
    let p ← Parts.pattern <$> parts (top && first) f [] fuel
    if ← takeIf '|' then
      let s ← get
      let f := if top then s.flags else f
      return .alt p (← alternatives top false f fuel)
    else return p

/-- The parts of one alternative, after those read already. Only at the very beginning may flags
be set for the whole pattern. -/
def parts (atStart : Bool) (f : Flags) (done : Parts) : (fuel : Nat) → Reader Parts
  | 0 => malformed
  | fuel + 1 => do
    match ← peek with
    | none => return done
    | some (.plain (.scalar '|')) => return done
    | some (.plain (.scalar ')')) => return done
    | some t =>
      let _ ← take
      let put (k : PartKind) (p : Pattern) : Reader Parts := parts atStart f ((k, p) :: done) fuel
      match t with
      | .escaped c =>
        let p ← escapePattern f c
        match p with
        | .anchor _ => put .anchor p
        | _ => put .other p
      | .plain c =>
        if f.verbose && isVerboseBlank c then parts atStart f done fuel
        else if f.verbose && c = '#' then do
          skipLine
          parts atStart f done fuel
        else if c = '[' then do
          let negated ← takeIf '^'
          let items ← setItems (fuel + 1) true
          put .other (.set f.mode negated items)
        else if c = '?' then do parts atStart f (← repeatLast done 0 (some 1)) fuel
        else if c = '*' then do parts atStart f (← repeatLast done 0 none) fuel
        else if c = '+' then do parts atStart f (← repeatLast done 1 none) fuel
        else if c = '{' then do
          match ← bounds with
          | none => put .other (.point f.mode false c)
          | some (min, max) => parts atStart f (← repeatLast done min max) fuel
        else if c = '.' then put .other (.any f.dotAll)
        else if c = '^' then put .anchor (.anchor (if f.multiline then .lineStart else .textStart))
        else if c = '$' then put .anchor (.anchor (if f.multiline then .lineEnd else .lastLineEnd))
        else if c = '(' then do
          if !(← takeIf '?') then
            put .other (← group none f fuel)
          else
            match ← take with
            | some (.plain (.scalar 'P')) =>
              if ← takeIf '<' then do
                let name ← nameUntil '>'
                if !name.isIdentifier then malformed
                put .other (← group (some name) f fuel)
              else if ← takeIf '=' then do
                let name ← nameUntil ')'
                if !name.isIdentifier then malformed
                match (← get).names.lookup name with
                | none => malformed
                | some i =>
                  if !(← isClosed i) then malformed
                  checkLookBehind i
                  put .other (.backReference f.ignoreCase i)
              else malformed
            | some (.plain (.scalar ':')) =>
              let p ← alternatives false true f fuel
              require ')'
              put .other p
            | some (.plain (.scalar '#')) =>
              skipComment
              parts atStart f done fuel
            | some (.plain (.scalar '=')) =>
              let p ← alternatives false true f fuel
              require ')'
              put .other (.ahead false p)
            | some (.plain (.scalar '!')) =>
              let p ← alternatives false true f fuel
              require ')'
              put .other (.ahead true p)
            | some (.plain (.scalar '<')) =>
              let negated ← lookBehindSign
              let outer := (← get).lookBehind
              if outer.isNone then modify fun s => { s with lookBehind := some s.groups.length }
              let p ← alternatives false true f fuel
              modify fun s => { s with lookBehind := outer }
              require ')'
              let (low, high) := p.width (groupWidths (← get))
              if low ≠ high then malformed
              put .other (.behind negated low p)
            | some (.plain (.scalar '(')) =>
              let i ← conditionGroup
              checkLookBehind i
              let yes ← Parts.pattern <$> parts false f [] fuel
              if ← takeIf '|' then do
                let no ← Parts.pattern <$> parts false f [] fuel
                if (← peek) = some (.plain '|') then malformed
                require ')'
                put .other (.ifGroup i yes no)
              else do
                require ')'
                put .other (.ifGroup i yes .empty)
            | some (.plain (.scalar '>')) =>
              let p ← alternatives false true f fuel
              require ')'
              put .other (.atomic p)
            | some (.plain (.scalar l)) =>
              match ← flagGroup fuel l with
              | .whole on =>
                if !atStart || !done.isEmpty then malformed
                let known := (← get).flags
                if (on.contains .a && known.unicode) || (on.contains .u && known.ascii) then
                  throw .conflictingFlags
                let flags := on.foldl (fun f l => f.put true l) known
                modify fun s => { s with flags := flags }
                parts atStart flags done fuel
              | .part on off =>
                let inner := off.foldl (fun f l => f.put false l) (on.foldl (fun f l => f.put true l) f)
                let p ← alternatives false true inner fuel
                require ')'
                put .other p
            | _ => malformed
        else put .other (.point f.mode false c)

/-- A capturing group after its opening. -/
def group (name : Option Text) (f : Flags) : (fuel : Nat) → Reader Pattern
  | 0 => malformed
  | fuel + 1 => do
    let i ← openGroup name
    let p ← alternatives false true f fuel
    require ')'
    closeGroup i p
    return .group i p

end

/-- A whole pattern: nothing is left over, and every numbered condition has its group. -/
def wholePattern (fuel : Nat) : Reader CompiledPattern := do
  let p ← alternatives true true {} fuel
  let s ← get
  if !s.rest.isEmpty then malformed
  if s.conditions.any fun i => s.groups.length < i then malformed
  return ⟨p, s.groups.length⟩

end PatternReader

/-- The pattern that a text writes. Every step of the reader takes a token or descends into a part
that does. -/
def Pattern.parse (t : Text) : Except PatternFault CompiledPattern :=
  match PatternReader.tokens? t with
  | none => .error .malformed
  | some ts =>
    ((PatternReader.wholePattern (3 * ts.length + 4)).run { rest := ts }).map Prod.fst

end ChatFlow
