import ChatFlow.Proofs.Json.Documents
import ChatFlow.Proofs.Text.Scalars

/-!
# What paths lead to

A path is written as parts with points between them: names, positions in brackets, or a name with a position behind it.
Each part stands for one or two steps, and the steps are gone one by one, from a document into its members and items.
What the path finds is where they lead, and nothing where a step is missing.

A path is followed in just this way, except that numbers have to be read: a position of too many digits cannot be, and
a name of digits in a list has to be a number that can.

* `PathStep`, `Value.step?`, `Value.reach?`: steps, and where they lead.
* `PathPart.text`, `PathPart.ofText?_eq_some_iff`: how parts are written, and that it is this that is read.
* `Value.Stumbles`: paths that cannot be followed.
* `Value.extract_eq`: what all other paths find.
-/

namespace ChatFlow

/-! ## Steps -/

/-- A step into a document: to what a name leads to, or to what stands at a position. -/
inductive PathStep where
  | name (name : Text)
  | position (n : Nat)
deriving DecidableEq, Repr

namespace Value

/-- Where a step leads: a name to the member of an object, a position to the item of a list. Digits are a name in an
object and a position in a list. -/
def step? (v : Value) (step : PathStep) : Option Value :=
  match v, step with
  | object fields, .name name => Fields.get? fields name
  | list items, .name name => if name.IsNumeral then items[name.numeralValue]? else none
  | list items, .position n => items[n]?
  | _, _ => none

/-- Where steps lead, one by one. -/
def reach? (v : Value) (steps : List PathStep) : Option Value := steps.foldlM step? v

/-- What is found: an empty text where nothing is, or null. -/
def found : Option Value → Value
  | none | some null => text []
  | some v => v

variable {v : Value} {step : PathStep} {steps more : List PathStep}

theorem reach?_append (v : Value) (steps more : List PathStep) :
    v.reach? (steps ++ more) = (v.reach? steps).bind fun w => w.reach? more := List.foldlM_append

/-- No step leads from null to anything. -/
theorem reach?_null (steps : List PathStep) : (null.reach? steps).getD null = null := by
  cases steps with
  | nil => rfl
  | cons step steps => cases step <;> rfl

/-- It is the same to go on from null and to have come to nothing. -/
theorem reach?_getD (v : Value) (steps more : List PathStep) :
    (((v.reach? steps).getD null).reach? more).getD null = (v.reach? (steps ++ more)).getD null := by
  rw [reach?_append]
  cases v.reach? steps with
  | none => exact reach?_null more
  | some w => rfl

end Value

/-! ## How parts are written -/

namespace PathPart

/-- A position as it is written. -/
def bracketed (ds : Text) : Text := .scalar '[' :: (ds ++ [.scalar ']'])

/-- A part as it is written. -/
def text (p : PathPart) : Text := p.name.getD [] ++ (p.position.map bracketed).getD []

/-- The steps that a part stands for. -/
def steps (p : PathPart) : List PathStep :=
  (p.name.map .name).toList ++ (p.position.map fun ds => .position ds.numeralValue).toList

/-- A part that can be written: a name without an opening bracket, a numeral in brackets, or both. -/
@[mk_iff]
structure IsWritable (p : PathPart) : Prop where
  some : p.name ≠ none ∨ p.position ≠ none
  name : ∀ name ∈ p.name, name ≠ [] ∧ .scalar '[' ∉ name
  position : ∀ ds ∈ p.position, ds.IsNumeral

variable {p : PathPart} {t ds name : Text}

theorem position?_eq_some_iff : position? t = some ds ↔
    ds.IsNumeral ∧ (t = ds ++ [.scalar ']'] ∨ t = ds ++ [.scalar ']', .scalar '\n']) := by
  have hclose : CodePoint.isDecimal (.scalar ']') = false := by decide
  constructor
  · intro h
    unfold position? at h
    have hall : ∀ c ∈ t.takeWhile CodePoint.isDecimal, c.isDecimal := List.all_eq_true.mp List.all_takeWhile
    have hcut : t.takeWhile CodePoint.isDecimal ++ t.dropWhile CodePoint.isDecimal = t :=
      List.takeWhile_append_dropWhile
    simp only [Option.ite_none_left_eq_some, List.isEmpty_iff] at h
    obtain ⟨hne, h⟩ := h
    split at h
    · next hrest =>
        cases h
        exact ⟨⟨hne, hall⟩, .inl (by rw [← hrest, hcut])⟩
    · next hrest =>
        cases h
        exact ⟨⟨hne, hall⟩, .inr (by rw [← hrest, hcut])⟩
    · cases h
  · rintro ⟨hnumeral, ht⟩
    have hends : ∀ r : Text, (ds ++ .scalar ']' :: r).takeWhile CodePoint.isDecimal = ds ∧
        (ds ++ .scalar ']' :: r).dropWhile CodePoint.isDecimal = .scalar ']' :: r := by
      intro r
      rw [List.takeWhile_append_of_pos hnumeral.2, List.dropWhile_append_of_pos hnumeral.2,
        List.takeWhile_cons_of_neg (by rw [hclose]; decide), List.dropWhile_cons_of_neg (by rw [hclose]; decide)]
      exact ⟨List.append_nil ds, rfl⟩
    have hne : ds.isEmpty = false := List.isEmpty_eq_false_iff.mpr hnumeral.1
    unfold position?
    rcases ht with rfl | rfl
    · simp only [(hends []).1, (hends []).2, hne, Bool.false_eq_true, if_false]
    · simp only [(hends [.scalar '\n']).1, (hends [.scalar '\n']).2, hne, Bool.false_eq_true, if_false]

/-- The name that a text is, if it is not empty. -/
def nameOf (t : Text) : Option Text := if t = [] then none else some t

theorem getD_nameOf (t : Text) : (nameOf t).getD [] = t := by
  rw [nameOf]
  split
  · next hnone => exact hnone.symm
  · rfl

theorem nameOf_eq_some_iff : nameOf t = some name ↔ t ≠ [] ∧ t = name := by
  rw [nameOf, Option.ite_none_left_eq_some, Option.some.injEq]

theorem text_nameOf (name ds : Text) : text ⟨nameOf name, some ds⟩ = name ++ bracketed ds := by
  rw [text, getD_nameOf]
  rfl

/-- In front of an opening bracket stands the name, if there is one. -/
theorem ofText?_bracket (hname : .scalar '[' ∉ name) (r : Text) :
    ofText? (name ++ .scalar '[' :: r) = (position? r).map fun ds => ⟨nameOf name, some ds⟩ := by
  have hkeep : ∀ c ∈ name, decide (c ≠ .scalar '[') = true :=
    fun c hc => decide_eq_true (ne_of_mem_of_not_mem hc hname)
  unfold ofText?
  rw [List.takeWhile_append_of_pos hkeep, List.dropWhile_append_of_pos hkeep, List.takeWhile_cons_of_neg (by simp),
    List.dropWhile_cons_of_neg (by simp), List.append_nil]
  simp only [List.isEmpty_iff]
  rfl

theorem ofText?_name (hname : .scalar '[' ∉ name) : ofText? name = (nameOf name).map fun n => ⟨some n, none⟩ := by
  have hkeep : ∀ c ∈ name, decide (c ≠ .scalar '[') = true :=
    fun c hc => decide_eq_true (ne_of_mem_of_not_mem hc hname)
  unfold ofText?
  rw [List.takeWhile_eq_self_iff.mpr hkeep, List.dropWhile_eq_nil_iff.mpr hkeep]
  simp only [List.isEmpty_iff]
  rfl

/-- Digits alone are read as a name. -/
theorem ofText?_digits (h : ds.IsNumeral) : ofText? ds = some ⟨some ds, none⟩ := by
  rw [ofText?_name (h.notMem (by decide)), nameOf_eq_some_iff.mpr ⟨h.1, rfl⟩, Option.map_some]

/-- Digits in brackets are read as a position. -/
theorem ofText?_bracketed (h : ds.IsNumeral) : ofText? (bracketed ds) = some ⟨none, some ds⟩ := by
  refine (ofText?_bracket List.not_mem_nil _).trans ?_
  rw [position?_eq_some_iff.mpr ⟨h, .inl rfl⟩, Option.map_some]
  rfl

/-- What is read as a part is the part as it is written; behind a closing bracket, one line end may stand. -/
theorem ofText?_eq_some_iff : ofText? t = some p ↔
    p.IsWritable ∧ (t = p.text ∨ p.position ≠ none ∧ t = p.text ++ [.scalar '\n']) := by
  constructor
  · intro h
    by_cases hbracket : .scalar '[' ∈ t
    · obtain ⟨name, r, rfl, hname⟩ := List.eq_append_cons_of_mem hbracket
      rw [ofText?_bracket hname, Option.map_eq_some_iff] at h
      obtain ⟨ds, hds, rfl⟩ := h
      obtain ⟨hnumeral, hr⟩ := position?_eq_some_iff.mp hds
      refine ⟨⟨.inr nofun, ?_, ?_⟩, ?_⟩
      · intro other hother
        obtain ⟨hne, rfl⟩ := nameOf_eq_some_iff.mp hother
        exact ⟨hne, hname⟩
      · rintro _ ⟨⟩
        exact hnumeral
      · rw [text_nameOf, bracketed]
        rcases hr with rfl | rfl
        · exact .inl rfl
        · exact .inr ⟨nofun, by simp⟩
    · rw [ofText?_name hbracket, Option.map_eq_some_iff] at h
      obtain ⟨name, hname, rfl⟩ := h
      obtain ⟨hne, rfl⟩ := nameOf_eq_some_iff.mp hname
      refine ⟨⟨.inl nofun, ?_, nofun⟩, .inl (List.append_nil t).symm⟩
      rintro _ ⟨⟩
      exact ⟨hne, hbracket⟩
  · rintro ⟨hp, ht⟩
    obtain ⟨name?, position?⟩ := p
    cases position? with
    | none =>
        obtain ⟨name, rfl⟩ := Option.ne_none_iff_exists'.mp (hp.some.resolve_right fun h => h rfl)
        obtain ⟨hne, hname⟩ := hp.name name rfl
        rcases ht with rfl | ⟨hsome, -⟩
        · rw [text, Option.getD_some, Option.map_none, Option.getD_none, List.append_nil, ofText?_name hname,
            nameOf_eq_some_iff.mpr ⟨hne, rfl⟩, Option.map_some]
        · exact absurd rfl hsome
    | some ds =>
        have hnumeral := hp.position ds rfl
        -- no name is the name that an empty text is
        obtain ⟨name, hname, rfl⟩ : ∃ name : Text, .scalar '[' ∉ name ∧ name? = nameOf name := by
          cases name? with
          | none => exact ⟨[], List.not_mem_nil, rfl⟩
          | some name =>
              obtain ⟨hne, hname⟩ := hp.name name rfl
              exact ⟨name, hname, (nameOf_eq_some_iff.mpr ⟨hne, rfl⟩).symm⟩
        rw [text_nameOf, bracketed] at ht
        rcases ht with rfl | ⟨-, rfl⟩
        · rw [ofText?_bracket hname, position?_eq_some_iff.mpr ⟨hnumeral, .inl rfl⟩, Option.map_some]
        · have hend : ds ++ [.scalar ']'] ++ [.scalar '\n'] = ds ++ [.scalar ']', .scalar '\n'] :=
            List.append_assoc ..
          rw [List.append_assoc, List.cons_append, hend, ofText?_bracket hname,
            position?_eq_some_iff.mpr ⟨hnumeral, .inr rfl⟩, Option.map_some]

end PathPart

/-! ## Following parts -/

/-- Digits that a list takes for a position, but that cannot be read as one: some have no place value, or there are too
many. -/
def Text.IsUnreadable (name : Text) : Prop :=
  name ≠ [] ∧ (∀ c ∈ name, c.isDigit) ∧ (name.IsNumeral → maxIntegerDigits < name.length)

/-- The part cannot be followed from the value: there are too many digits in the brackets, or the name is one that a
list cannot read. -/
def PathPart.StumblesAt (p : PathPart) (v : Value) : Prop :=
  (∃ ds ∈ p.position, maxIntegerDigits < ds.length) ∨ ∃ items, v = .list items ∧ ∃ name ∈ p.name, name.IsUnreadable

/-- When a list takes a name for a position. -/
theorem Text.isDigits_iff {name : Text} :
    (!name.isEmpty && name.all CodePoint.isDigit) = true ↔ name ≠ [] ∧ ∀ c ∈ name, c.isDigit := by
  rw [Bool.and_eq_true, Bool.not_eq_true', List.isEmpty_eq_false_iff, List.all_eq_true]

theorem Text.IsNumeral.isDigits {ds : Text} (h : ds.IsNumeral) : ds ≠ [] ∧ ∀ c ∈ ds, c.isDigit :=
  ⟨h.1, fun c hc => CodePoint.isDigit_of_decimal (h.2 c hc)⟩

namespace Value

variable {v : Value} {items : List Value} {p : PathPart} {name ds : Text} {step : PathStep} {steps : List PathStep}

theorem exists_member_error (items : List Value) (h : name.IsUnreadable) :
    ∃ fault, (list items).member name = .error fault := by
  obtain ⟨hne, hdigits, hmany⟩ := h
  rw [member, if_pos (Text.isDigits_iff.mpr ⟨hne, hdigits⟩)]
  split
  · next hdecimal =>
      rw [Text.decimalNumber_eq, if_pos (hmany ⟨hne, List.all_eq_true.mp hdecimal⟩)]
      exact ⟨_, rfl⟩
  · exact ⟨_, rfl⟩

theorem list_member_eq (h : ¬ name.IsUnreadable) :
    (list items).member name = .ok (((list items).step? (.name name)).getD null) := by
  rw [member, step?]
  split
  · next hall =>
      obtain ⟨hne, hdigits⟩ := Text.isDigits_iff.mp hall
      -- the digits are readable, so they are a numeral with not too many of them
      have hreadable : ¬ (name.IsNumeral → maxIntegerDigits < name.length) := fun hmany => h ⟨hne, hdigits, hmany⟩
      obtain ⟨hnumeral, hshort⟩ := Classical.not_imp.mp hreadable
      rw [if_pos (List.all_eq_true.mpr hnumeral.2), Text.decimalNumber_eq, if_neg hshort, if_pos hnumeral]
      rfl
  · next hall =>
      have hnumeral : ¬ name.IsNumeral := fun hnumeral => hall (Text.isDigits_iff.mpr hnumeral.isDigits)
      rw [if_neg hnumeral]
      rfl

/-- A name is taken as the step that it is, unless a list cannot read it. -/
theorem member_eq (h : ∀ items, v = .list items → ¬ name.IsUnreadable) :
    v.member name = .ok ((v.step? (.name name)).getD null) := by
  cases v with
  | list items => exact list_member_eq (h items rfl)
  | object fields => rfl
  | _ => rfl

/-- From null, there is nothing to be found. -/
theorem item_eq (v : Value) (n : Nat) : v.item n = (v.step? (.position n)).getD null := by
  cases v with
  | list items => rfl
  | _ => rfl

/-- The name is taken first, and then the position, from where the name leads. -/
theorem followPart_eq_bind (v : Value) (name position : Option Text) : v.followPart ⟨name, position⟩ =
    name.elim (.ok v) v.member >>= fun w => position.elim (.ok w) fun ds => (Text.decimalNumber ds).map w.item := by
  cases name with
  | none => cases position <;> rfl
  | some name => cases position <;> rfl

theorem exists_followPart_error (h : p.StumblesAt v) : ∃ fault, v.followPart p = .error fault := by
  obtain ⟨name, position⟩ := p
  rw [followPart_eq_bind]
  rcases h with ⟨ds, hds, hmany⟩ | ⟨items, rfl, n, hn, hunreadable⟩
  · obtain rfl : position = some ds := hds
    generalize (name.elim (.ok v) v.member : Except Fault Value) = first
    rcases first with fault | w
    · exact ⟨fault, rfl⟩
    · -- whatever the name leads to, the position cannot be read
      refine ⟨.integerTooLong, ?_⟩
      show (Text.decimalNumber ds).map w.item = _
      rw [Text.decimalNumber_eq, if_pos hmany]
      rfl
  · obtain rfl : name = some n := hn
    obtain ⟨fault, hfault⟩ := exists_member_error items hunreadable
    rw [Option.elim_some, hfault]
    exact ⟨fault, rfl⟩

theorem reach?_singleton (v : Value) (step : PathStep) : v.reach? [step] = v.step? step := by
  rw [reach?, List.foldlM_cons]
  exact bind_pure _

/-- A part that does not make one stumble is taken as the steps that it stands for. -/
theorem followPart_eq (h : ¬ p.StumblesAt v) : v.followPart p = .ok ((v.reach? p.steps).getD null) := by
  obtain ⟨name, position⟩ := p
  obtain ⟨hposition, hname⟩ := not_or.mp h
  have hfirst : name.elim (.ok v) v.member = .ok ((v.reach? (name.map PathStep.name).toList).getD null) := by
    cases name with
    | none => rfl
    | some name =>
        have hreadable : ∀ items, v = .list items → ¬ name.IsUnreadable :=
          fun items hv hunreadable => hname ⟨items, hv, name, rfl, hunreadable⟩
        rw [Option.elim_some, member_eq hreadable, Option.map_some, Option.toList_some, reach?_singleton]
  rw [followPart_eq_bind, hfirst, PathPart.steps, ← reach?_getD]
  cases position with
  | none => rfl
  | some ds =>
      have hshort : ¬ maxIntegerDigits < ds.length := fun hmany => hposition ⟨ds, rfl, hmany⟩
      rw [Option.map_some, Option.toList_some, reach?_singleton, ← item_eq]
      show (Text.decimalNumber ds).map _ = _
      rw [Text.decimalNumber_eq, if_neg hshort]
      rfl

/-! ## Following paths -/

/-- A path, given in its parts, cannot be followed: some part makes one stumble where the parts before it lead. -/
def Stumbles (v : Value) (ts : List Text) : Prop :=
  ∃ before t after parts p, ts = before ++ t :: after ∧ before.mapM PathPart.ofText? = some parts ∧
    PathPart.ofText? t = some p ∧ p.StumblesAt ((v.reach? (parts.flatMap PathPart.steps)).getD null)

variable {t : Text} {ts : List Text}

/-- One stumbles at the first part, or behind it. -/
theorem stumbles_cons_iff : v.Stumbles (t :: ts) ↔ ∃ p, PathPart.ofText? t = some p ∧
    (p.StumblesAt v ∨ ((v.reach? p.steps).getD null).Stumbles ts) := by
  constructor
  · rintro ⟨before, u, after, parts, p, hts, hparts, hp, hstumbles⟩
    cases before with
    | nil =>
        cases hts
        cases hparts
        exact ⟨p, hp, .inl hstumbles⟩
    | cons first before =>
        rw [List.cons_append, List.cons.injEq] at hts
        obtain ⟨rfl, rfl⟩ := hts
        rw [List.mapM_cons] at hparts
        obtain ⟨q, hq, hrest⟩ := Option.bind_eq_some_iff.mp hparts
        obtain ⟨rest, hmore, hall⟩ := Option.bind_eq_some_iff.mp hrest
        cases hall
        refine ⟨q, hq, .inr ⟨before, u, after, rest, p, rfl, hmore, hp, ?_⟩⟩
        -- the parts before it are followed from where the first one leads
        rw [List.flatMap_cons, ← reach?_getD] at hstumbles
        exact hstumbles
  · rintro ⟨p, hp, hfirst | ⟨before, u, after, parts, q, rfl, hparts, hq, hstumbles⟩⟩
    · exact ⟨[], t, ts, [], p, rfl, rfl, hp, hfirst⟩
    · refine ⟨t :: before, u, after, p :: parts, q, rfl, ?_, hq, ?_⟩
      · rw [List.mapM_cons, hp, hparts]
        rfl
      · rw [List.flatMap_cons, ← reach?_getD]
        exact hstumbles

theorem exists_follow_error (h : v.Stumbles ts) : ∃ fault, v.follow ts = .error fault := by
  induction ts generalizing v with
  | nil =>
      obtain ⟨before, t, after, -, -, hts, -⟩ := h
      exact absurd hts (by simp)
  | cons t ts ih =>
      obtain ⟨p, hp, hfirst⟩ := stumbles_cons_iff.mp h
      rw [follow, hp]
      dsimp only
      by_cases hhere : p.StumblesAt v
      · obtain ⟨fault, hfault⟩ := exists_followPart_error hhere
        exact ⟨fault, by rw [hfault]; rfl⟩
      · rw [followPart_eq hhere]
        exact ih (hfirst.resolve_left hhere)

/-- What a path leads to that can be followed: where its steps lead, and an empty text if a part is malformed. -/
theorem follow_eq (h : ¬ v.Stumbles ts) : v.follow ts = .ok (
    match ts.mapM PathPart.ofText? with
    | some parts => (v.reach? (parts.flatMap PathPart.steps)).getD null
    | none => .text []) := by
  induction ts generalizing v with
  | nil => rfl
  | cons t ts ih =>
      rw [follow, List.mapM_cons]
      rcases hp : PathPart.ofText? t with _ | p
      · rfl
      · rw [stumbles_cons_iff, not_exists] at h
        obtain ⟨hhere, hrest⟩ := not_or.mp fun hstumbles => h p ⟨hp, hstumbles⟩
        dsimp only
        rw [followPart_eq hhere]
        refine (ih hrest).trans (congrArg Except.ok ?_)
        rcases ts.mapM PathPart.ofText? with _ | parts
        · rfl
        · exact reach?_getD v p.steps _

/-- What a path finds that can be followed. -/
theorem extract_eq {path : Text} (h : ¬ v.Stumbles (Text.splitChar '.' path)) : v.extract path = .ok (
    match (Text.splitChar '.' path).mapM PathPart.ofText? with
    | some parts => found (v.reach? (parts.flatMap PathPart.steps))
    | none => .text []) := by
  rw [extract, follow_eq h]
  rcases (Text.splitChar '.' path).mapM PathPart.ofText? with _ | parts
  · rfl
  · dsimp only
    rcases v.reach? (parts.flatMap PathPart.steps) with _ | w
    · rfl
    · cases w <;> rfl

theorem exists_extract_error {path : Text} (h : v.Stumbles (Text.splitChar '.' path)) :
    ∃ fault, v.extract path = .error fault := by
  obtain ⟨fault, hfault⟩ := exists_follow_error h
  exact ⟨fault, by rw [extract, hfault]; rfl⟩

/-- A path that comes to an end has not made one stumble. -/
theorem not_stumbles_of_extract {path : Text} {w : Value} (hw : v.extract path = .ok w) :
    ¬ v.Stumbles (Text.splitChar '.' path) := by
  intro hstumbles
  obtain ⟨fault, hfault⟩ := exists_extract_error hstumbles
  rw [hw] at hfault
  cases hfault

/-- There are no parts if one of them is malformed. -/
theorem mapM_ofText?_eq_none (h : ∃ t ∈ ts, PathPart.ofText? t = none) : ts.mapM PathPart.ofText? = none := by
  induction ts with
  | nil =>
      obtain ⟨t, ht, -⟩ := h
      exact absurd ht List.not_mem_nil
  | cons u ts ih =>
      rw [List.mapM_cons]
      rcases hu : PathPart.ofText? u with _ | p
      · rfl
      · obtain ⟨t, ht, hnone⟩ := h
        rcases List.mem_cons.mp ht with rfl | hmem
        · rw [hnone] at hu
          cases hu
        · rw [ih ⟨t, hmem, hnone⟩]
          rfl

/-- A path comes to an end unless it makes one stumble. It finds where its steps lead, and an empty text where they lead
to nothing or a part is malformed. -/
theorem extract_unless_stumbles (v : Value) (path : Text) :
    ((∃ w, v.extract path = .ok w) ↔ ¬ v.Stumbles (Text.splitChar '.' path)) ∧
      (¬ v.Stumbles (Text.splitChar '.' path) →
        ((∃ t ∈ Text.splitChar '.' path, PathPart.ofText? t = none) → v.extract path = .ok (.text [])) ∧
        ∀ parts, (Text.splitChar '.' path).mapM PathPart.ofText? = some parts →
          v.extract path = .ok (found (v.reach? (parts.flatMap PathPart.steps)))) := by
  refine ⟨⟨?_, fun h => ⟨_, extract_eq h⟩⟩, fun h => ⟨fun hmalformed => ?_, fun parts hparts => ?_⟩⟩
  · rintro ⟨w, hw⟩
    exact not_stumbles_of_extract hw
  · rw [extract_eq h, mapM_ofText?_eq_none hmalformed]
  · rw [extract_eq h, hparts]

theorem IsDocument.step? {w : Value} (h : v.IsDocument) (hw : v.step? step = some w) : w.IsDocument := by
  cases v with
  | list items =>
      cases step with
      | name name =>
          rw [Value.step?, Option.ite_none_right_eq_some] at hw
          exact h.item w (List.mem_of_getElem? hw.2)
      | position n => exact h.item w (List.mem_of_getElem? hw)
  | object fields =>
      cases step with
      | name name => exact h.field (name, w) (Fields.mem_of_get? hw)
      | position n => cases hw
  | _ => cases step <;> cases hw

theorem IsDocument.reach? {w : Value} (h : v.IsDocument) (hw : v.reach? steps = some w) : w.IsDocument := by
  induction steps generalizing v with
  | nil =>
      cases hw
      exact h
  | cons step steps ih =>
      rw [Value.reach?, List.foldlM_cons] at hw
      obtain ⟨u, hu, hrest⟩ := Option.bind_eq_some_iff.mp hw
      exact ih (h.step? hu) hrest

/-- What a path finds in a document, a document can hold. -/
theorem IsDocument.extract {path : Text} {w : Value} (h : v.IsDocument) (hw : v.extract path = .ok w) :
    w.IsDocument := by
  rw [extract_eq (not_stumbles_of_extract hw)] at hw
  split at hw
  · next parts hparts =>
      rw [← Except.ok.inj hw]
      rcases hreach : v.reach? (parts.flatMap PathPart.steps) with _ | u
      · exact .text []
      · have hu : u.IsDocument := h.reach? hreach
        cases u with
        | null => exact .text []
        | _ => exact hu
  · rw [← Except.ok.inj hw]
    exact .text []

/-- A single part that makes one stumble is a path that does. -/
theorem stumbles_part (hpoint : .scalar '.' ∉ t) (hp : PathPart.ofText? t = some p) (h : p.StumblesAt v) :
    v.Stumbles (Text.splitChar '.' t) :=
  ⟨[], t, [], [], p, Text.splitChar_of_not_mem hpoint, rfl, hp, h⟩

/-- Too many digits make one stumble in a list. -/
theorem stumbles_digits (hds : ds.IsNumeral) (hlong : maxIntegerDigits < ds.length) (items : List Value) :
    (list items).Stumbles (Text.splitChar '.' ds) := by
  have hunreadable : ds.IsUnreadable := ⟨hds.1, hds.isDigits.2, fun _ => hlong⟩
  exact stumbles_part (hds.notMem (by decide)) (PathPart.ofText?_digits hds) (.inr ⟨items, rfl, ds, rfl, hunreadable⟩)

/-- Too many digits in brackets make one stumble everywhere. -/
theorem stumbles_bracketed (hds : ds.IsNumeral) (hlong : maxIntegerDigits < ds.length) (v : Value) :
    v.Stumbles (Text.splitChar '.' (PathPart.bracketed ds)) := by
  have hpoint : .scalar '.' ∉ ds := hds.notMem (by decide)
  exact stumbles_part (by simp [PathPart.bracketed, hpoint]) (PathPart.ofText?_bracketed hds) (.inl ⟨ds, rfl, hlong⟩)

/-- In a list, a superscript is taken for a position, and so are digits that are too many to be read. So are too many
digits in brackets, even where there is nothing to be found. -/
theorem extract_stumbles : (list [.int 1]).extract "²" = .error .notANumber ∧
    (∃ fault, (list [.int 1]).extract (List.replicate 4301 (.scalar '9')) = .error fault) ∧
    ∃ fault, null.extract (PathPart.bracketed (List.replicate 4301 (.scalar '9'))) = .error fault := by
  have hnine : CodePoint.isDecimal (.scalar '9') = true := by decide +kernel
  have hds : Text.IsNumeral (List.replicate 4301 (.scalar '9')) :=
    ⟨List.cons_ne_nil _ _, fun c hc => (List.eq_of_mem_replicate hc).symm ▸ hnine⟩
  have hlong : maxIntegerDigits < (List.replicate 4301 (CodePoint.scalar '9')).length := by
    rw [List.length_replicate]
    decide
  exact ⟨by decide +kernel, exists_extract_error (stumbles_digits hds hlong _),
    exists_extract_error (stumbles_bracketed hds hlong _)⟩

end Value

/-! ## Paths that are written -/

/-- Pieces without the separator are found again when they are joined. -/
theorem Text.splitChar_join {sep : CodePoint} {ts : List Text} (hts : ts ≠ []) (h : ∀ t ∈ ts, sep ∉ t) :
    splitChar sep (join [sep] ts) = ts := by
  induction ts with
  | nil => exact absurd rfl hts
  | cons t ts ih =>
      cases ts with
      | nil => exact splitChar_of_not_mem (h t List.mem_cons_self)
      | cons u ts =>
          have hrest := ih (List.cons_ne_nil u ts) fun w hw => h w (List.mem_cons_of_mem t hw)
          rw [join, List.append_assoc, List.singleton_append, splitChar_append (h t List.mem_cons_self), hrest]
          exact List.cons_ne_nil u ts

namespace PathPart

/-- The path of some parts. -/
def path (parts : List PathPart) : Text := Text.join "." (parts.map text)

/-- A part that can be followed from everywhere: its name has no point and is no row of digits, or a numeral that can be
read, and its position can be read. -/
@[mk_iff]
structure IsPlain (p : PathPart) : Prop extends p.IsWritable where
  unpointed : ∀ name ∈ p.name, .scalar '.' ∉ name
  named : ∀ name ∈ p.name, (∃ c ∈ name, c.isDigit = false) ∨ name.IsNumeral ∧ name.length ≤ maxIntegerDigits
  short : ∀ ds ∈ p.position, ds.length ≤ maxIntegerDigits

instance (p : PathPart) : Decidable p.IsWritable := decidable_of_iff _ (isWritable_iff p).symm

instance (p : PathPart) : Decidable p.IsPlain := decidable_of_iff _ (isPlain_iff p).symm

variable {p : PathPart} {parts : List PathPart} {v : Value}

theorem IsPlain.ofText?_text (h : p.IsPlain) : ofText? p.text = some p :=
  ofText?_eq_some_iff.mpr ⟨h.toIsWritable, .inl rfl⟩

theorem IsPlain.notMem_text (h : p.IsPlain) : .scalar '.' ∉ p.text := by
  have hpoint : CodePoint.isDecimal (.scalar '.') = false := by decide
  rw [text, List.mem_append, not_or]
  constructor
  · cases hname : p.name with
    | none => exact List.not_mem_nil
    | some name => exact h.unpointed name hname
  · cases hposition : p.position with
    | none => exact List.not_mem_nil
    | some ds =>
        have hds : .scalar '.' ∉ ds := (h.position ds hposition).notMem hpoint
        simp [bracketed, hds]

theorem IsPlain.not_stumblesAt (h : p.IsPlain) (v : Value) : ¬ p.StumblesAt v := by
  rintro (⟨ds, hds, hmany⟩ | ⟨-, -, name, hname, -, hdigits, hmany⟩)
  · exact absurd (h.short ds hds) (Nat.not_le.mpr hmany)
  · rcases h.named name hname with ⟨c, hc, hother⟩ | ⟨hnumeral, hshort⟩
    · rw [hdigits c hc] at hother
      cases hother
    · exact absurd hshort (Nat.not_le.mpr (hmany hnumeral))

theorem splitChar_path (hparts : parts ≠ []) (h : ∀ p ∈ parts, p.IsPlain) :
    Text.splitChar '.' (path parts) = parts.map text := by
  apply Text.splitChar_join
  · simpa using hparts
  · intro t ht
    obtain ⟨p, hp, rfl⟩ := List.mem_map.mp ht
    exact (h p hp).notMem_text

theorem mapM_ofText?_text (h : ∀ p ∈ parts, p.IsPlain) : (parts.map text).mapM ofText? = some parts := by
  induction parts with
  | nil => rfl
  | cons p parts ih =>
      rw [List.map_cons, List.mapM_cons, (h p List.mem_cons_self).ofText?_text,
        ih fun q hq => h q (List.mem_cons_of_mem p hq)]
      rfl

theorem not_stumbles (h : ∀ p ∈ parts, p.IsPlain) (v : Value) : ¬ v.Stumbles (parts.map text) := by
  rintro ⟨before, t, after, parts', q, hts, -, hq, hstumbles⟩
  have hmem : t ∈ parts.map text := hts ▸ List.mem_append_right _ List.mem_cons_self
  obtain ⟨p, hp, rfl⟩ := List.mem_map.mp hmem
  rw [(h p hp).ofText?_text, Option.some.injEq] at hq
  subst hq
  exact (h p hp).not_stumblesAt _ hstumbles

end PathPart

namespace Value

variable {parts : List PathPart} {ds : Text}

/-- Digits in a list lead where the position leads that they write, or cannot be read, just as that. -/
theorem follow_list_digits (hds : ds.IsNumeral) (items : List Value) (rest : List Text) :
    (list items).follow (ds :: rest) = (list items).follow (PathPart.bracketed ds :: rest) := by
  have hdigits := Text.isDigits_iff.mpr hds.isDigits
  have hmember : (list items).followPart ⟨some ds, none⟩ = (list items).followPart ⟨none, some ds⟩ := by
    rw [followPart_eq_bind, followPart_eq_bind, Option.elim_some, Option.elim_none, member, if_pos hdigits,
      if_pos (List.all_eq_true.mpr hds.2)]
    exact bind_pure _
  rw [follow, follow, PathPart.ofText?_digits hds, PathPart.ofText?_bracketed hds]
  dsimp only
  rw [hmember]

/-- Digits in an object are the name of a member. -/
theorem follow_object_digits (hds : ds.IsNumeral) (fields : Fields Value) (rest : List Text) :
    (object fields).follow (ds :: rest) = ((Fields.get? fields ds).getD null).follow rest := by
  rw [follow, PathPart.ofText?_digits hds]
  rfl

/-- A path of plain parts finds where its steps lead, one by one, and an empty text where they lead to nothing or to
null. Digits, however many, are a position in a list and the name of a member in an object. -/
theorem extract_path (v : Value) (hparts : parts ≠ []) (h : ∀ p ∈ parts, p.IsPlain) :
    v.extract (PathPart.path parts) = .ok (found (v.reach? (parts.flatMap PathPart.steps))) ∧
      ∀ (ds : Text) (rest : List Text), ds.IsNumeral →
        (∀ items, (list items).follow (ds :: rest) = (list items).follow (PathPart.bracketed ds :: rest)) ∧
        ∀ fields, (object fields).follow (ds :: rest) = ((Fields.get? fields ds).getD null).follow rest := by
  refine ⟨?_, fun ds rest hds =>
    ⟨fun items => follow_list_digits hds items rest, fun fields => follow_object_digits hds fields rest⟩⟩
  have hsplit : Text.splitChar '.' (PathPart.path parts) = parts.map PathPart.text := PathPart.splitChar_path hparts h
  have hfirm : ¬ v.Stumbles (Text.splitChar '.' (PathPart.path parts)) := by
    rw [hsplit]
    exact PathPart.not_stumbles h v
  rw [extract_eq hfirm, hsplit, PathPart.mapM_ofText?_text h]

/-- Behind a name and a position, digits are the name of a member. -/
theorem extract_path_of_members :
    (∀ p ∈ [(⟨some "a", some "0"⟩ : PathPart), ⟨some "0", none⟩], p.IsPlain) ∧
      (object [("a", .list [.object [("b", .null), ("0", .bool false)], .int 7])]).extract "a[0].0" =
        .ok (.bool false) := by
  have hplain : ∀ p ∈ [(⟨some "a", some "0"⟩ : PathPart), ⟨some "0", none⟩], p.IsPlain := by decide +kernel
  exact ⟨hplain, (extract_path _ (List.cons_ne_nil _ _) hplain).1⟩

end Value

end ChatFlow
