import ChatFlow.Text.Basic

/-!
# Searching and cutting texts

Everything is by code points and keeps all of them: what is cut away is the separator only.

* `Text.join_splitChar`: joining the pieces with the separator gives the text back.
* `Text.partition_of_not_mem`: without the separator the first part is the whole text.
-/

namespace ChatFlow.Text

/-- The rest of `t` after the leading `p`, if `t` begins with `p`. -/
def dropPrefix? : (p t : Text) → Option Text
  | [], t => some t
  | _ :: _, [] => none
  | a :: p, b :: t => if a = b then dropPrefix? p t else none

/-- Does `t` begin with `p`? -/
def startsWith (t p : Text) : Bool := p.isPrefixOf t

/-- Is `p` a block of neighbouring code points of `t`? -/
def includes (t p : Text) : Bool :=
  match t with
  | [] => p.isEmpty
  | c :: r => p.isPrefixOf (c :: r) || includes r p

/-- The text before the first `sep`, and the text after it when there is one. -/
def partition (sep : CodePoint) : Text → Text × Option Text
  | [] => ([], none)
  | c :: r =>
    if c = sep then ([], some r)
    else
      let (before, after) := partition sep r
      (c :: before, after)

/-- The pieces between the occurrences of the character `sep`. -/
def splitChar (sep : CodePoint) : Text → List Text
  | [] => [[]]
  | c :: r =>
    match splitChar sep r with
    | [] => [[c]]
    | piece :: pieces => if c = sep then [] :: piece :: pieces else (c :: piece) :: pieces

/-- The pieces between the occurrences of `sep`, found from left to right without overlap.
`skip` code points still belong to an occurrence already found. -/
def splitAux (sep : Text) : (skip : Nat) → Text → List Text
  | _, [] => [[]]
  | skip + 1, _ :: r => splitAux sep skip r
  | 0, c :: r =>
    if sep.isPrefixOf (c :: r) then [] :: splitAux sep (sep.length - 1) r
    else
      match splitAux sep 0 r with
      | [] => [[c]]
      | piece :: pieces => (c :: piece) :: pieces

/-- The pieces between the occurrences of the non-empty text `sep`. -/
def splitOn (t sep : Text) : List Text := splitAux sep 0 t

/-- The texts one after the other with `sep` between neighbours. -/
def join (sep : Text) : List Text → Text
  | [] => []
  | [t] => t
  | t :: ts => t ++ sep ++ join sep ts

/-- The text without its leading and trailing code points that satisfy `p`. -/
def trimBy (p : CodePoint → Bool) (t : Text) : Text :=
  ((t.dropWhile p).reverse.dropWhile p).reverse

/-- The text without its trailing code points that satisfy `p`. -/
def trimEndBy (p : CodePoint → Bool) (t : Text) : Text := (t.reverse.dropWhile p).reverse

/-- The text without one line end as its last code point. -/
def withoutLineEnd (t : Text) : Text := if t.getLast? = some (.scalar '\n') then t.dropLast else t

/-- Does a line end after this code point? -/
def isLineEnd (c : CodePoint) : Bool :=
  let n := c.toNat
  (0x0A ≤ n && n ≤ 0x0D) || (0x1C ≤ n && n ≤ 0x1E) || n == 0x85 || n == 0x2028 || n == 0x2029

/-- The lines of a text, without their ends; a line end as last code point opens no new line. -/
def lines : Text → List Text
  | [] => []
  | .scalar '\r' :: .scalar '\n' :: r => [] :: lines r
  | c :: r =>
    if isLineEnd c then [] :: lines r
    else
      match lines r with
      | [] => [[c]]
      | line :: rest => (c :: line) :: rest

/-! ## Laws -/

theorem splitChar_ne_nil (sep : CodePoint) (t : Text) : splitChar sep t ≠ [] := by
  cases t with
  | nil => simp [splitChar]
  | cons c r =>
      unfold splitChar
      split
      · simp
      · split <;> simp

theorem join_cons_cons (sep : Text) (c : CodePoint) (t : Text) (ts : List Text) :
    join sep ((c :: t) :: ts) = c :: join sep (t :: ts) := by
  cases ts <;> simp [join]

/-- Joining the pieces with the separator gives the text back. -/
theorem join_splitChar (sep : CodePoint) (t : Text) : join [sep] (splitChar sep t) = t := by
  induction t with
  | nil => rfl
  | cons c r ih =>
      unfold splitChar
      split
      · next h => exact absurd h (splitChar_ne_nil sep r)
      · next piece pieces h =>
          rw [h] at ih
          split
          · next hc => simp [join, ih, hc]
          · rw [join_cons_cons, ih]

/-- Without the separator there is one piece. -/
theorem splitChar_of_not_mem {sep : CodePoint} {t : Text} (h : sep ∉ t) : splitChar sep t = [t] := by
  induction t with
  | nil => rfl
  | cons c r ih =>
      have hc : ¬ c = sep := fun heq => h (heq ▸ List.mem_cons_self)
      rw [splitChar, ih fun hmem => h (List.mem_cons_of_mem c hmem)]
      simp only [if_neg hc]

/-- The first piece ends at the first separator. -/
theorem splitChar_append {sep : CodePoint} {t : Text} (h : sep ∉ t) (rest : Text) :
    splitChar sep (t ++ sep :: rest) = t :: splitChar sep rest := by
  induction t with
  | nil =>
      rw [List.nil_append, splitChar]
      rcases hrest : splitChar sep rest with _ | ⟨piece, pieces⟩
      · exact absurd hrest (splitChar_ne_nil sep rest)
      · exact if_pos rfl
  | cons c r ih =>
      have hc : ¬ c = sep := fun heq => h (heq ▸ List.mem_cons_self)
      rw [List.cons_append, splitChar, ih fun hmem => h (List.mem_cons_of_mem c hmem)]
      simp only [if_neg hc]

/-- Without the separator the first part is the whole text. -/
theorem partition_of_not_mem {sep : CodePoint} {t : Text} (h : sep ∉ t) :
    partition sep t = (t, none) := by
  induction t with
  | nil => rfl
  | cons c r ih =>
      have hc : c ≠ sep := fun e => h (by simp [e])
      have hr : sep ∉ r := fun m => h (List.mem_cons_of_mem _ m)
      simp [partition, hc, ih hr]

end ChatFlow.Text
