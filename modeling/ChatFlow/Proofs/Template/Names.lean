import ChatFlow.Proofs.Run.Alike
import ChatFlow.Proofs.Template.Tokens
import Mathlib.Data.List.TakeWhile

/-!
# What the tokens of a template stand for

A token is looked up in four places. Each place is said here on its own, as a name that it has or has not, and the
value of a token is that of the first place that has it. A template that is filled in is the text in which every token
has given way to this value, or stays where no place has it.

* `Names.ofScene`: the places for a message in a scene; `Act.run_names` says that it is there that tokens are looked up.
* `Names.places`, `Names.valueAt`: what the places have, and the value of a token.
* `Names.IsStray`: tokens that are taken for captures although they name none.
* `Act.render_fills`: a template filled in.
-/

namespace ChatFlow

/-! ## The places of a scene -/

/-- The number from 1 to `n` that comes up when the dice are rolled again after `k` rolls. -/
def Dice.drawn (d : Dice) (k : Nat) (n : Int) : Int := 1 + ({ d with rolled := d.rolled + k }.face.val : Int) * n / 1000

/-- The scene after some more rolls of the dice. -/
def Scene.rolled (k : Nat) (sc : Scene) : Scene :=
  { sc with world := { sc.world with dice := { sc.world.dice with rolled := sc.world.dice.rolled + k } } }

theorem Scene.rolled_rolled (sc : Scene) (j k : Nat) : (sc.rolled j).rolled k = sc.rolled (j + k) := by
  simp only [Scene.rolled, Nat.add_assoc]

/-- The built-in names that are drawn, and the mention of the sender. -/
def Message.drawn (m : Message) (d : Dice) : Fields Text :=
  [("random", Text.ofInt (d.drawn 0 100)), ("random100", Text.ofInt (d.drawn 0 100)),
   ("random10", Text.ofInt (d.drawn 1 10)), ("random6", Text.ofInt (d.drawn 2 6)), ("at_user", mention m.event.userId)]

/-- The built-in names for a message. -/
def Message.builtins (m : Message) (w : World) : Fields Text :=
  m.names ++ w.clock.names ((w.clock.timestamp.toOption.bind Double.truncate?).getD 0) ++ m.drawn w.dice

/-- The places where the tokens of a template are looked up: the built-in names, the captures, the visible variables,
and what is stored for the sender. -/
def Names.ofScene (m : Message) (sc : Scene) : Names where
  builtins := m.builtins sc.world
  captures := sc.context.captures
  vars := sc.context.visible
  stored := fun key => sc.world.store.read (.user m.event.userId) key (.text [])

namespace Act

theorem run_clock (sc : Scene) : clock.run.run sc = (.ok sc.world.clock, sc) := rfl

theorem run_roll {n : Int} (hn : 0 < n) (sc : Scene) :
    (roll (Dice.between 1 n)).run.run sc = (.ok (sc.world.dice.drawn 0 n), sc.rolled 1) := by
  have hbelow : ¬ n - 1 + 1 ≤ 0 := by omega
  have hbetween : Dice.between 1 n sc.world.dice = .ok (sc.world.dice.drawn 0 n, (sc.rolled 1).world.dice) := by
    rw [Dice.between, Dice.below, if_neg hbelow, Int.sub_add_cancel]
    rfl
  rw [roll, run_bind, run_world]
  simp only [run_bind, run_lift, hbetween]
  rfl

/-- The places are looked up where the clock can tell the seconds; all that changes are the dice. -/
theorem run_names (m : Message) (sc : Scene) : (names m).run.run sc =
    match sc.world.clock.timestamp with
    | .ok _ => (.ok (.ofScene m sc), sc.rolled 3)
    | .error fault => (.error fault, sc.rolled 1) := by
  have hbuiltins : (builtins m).run.run sc =
      match sc.world.clock.timestamp with
      | .ok _ => (.ok (m.builtins sc.world), sc.rolled 3)
      | .error fault => (.error fault, sc.rolled 1) := by
    rw [builtins, run_bind, run_clock]
    simp only [run_bind, run_lift, run_roll (by decide : (0 : Int) < 100), run_roll (by decide : (0 : Int) < 10),
      run_roll (by decide : (0 : Int) < 6), Message.builtins]
    rcases sc.world.clock.timestamp with fault | seconds
    · rfl
    · rfl
  rw [names, run_bind, hbuiltins]
  rcases sc.world.clock.timestamp with fault | seconds
  · rfl
  · rfl

end Act

/-! ## The value of a token -/

/-- A number as it stands behind the mark of a capture. -/
def Text.IsNumeral (ds : Text) : Prop := ds ≠ [] ∧ ∀ c ∈ ds, c.isDecimal

namespace Names

variable {names : Names} {w ds x : Text}

/-- The capture that a token names: one whose number, from 1 on, stands behind a `$`. -/
def captureAt (names : Names) : Text → Option Text
  | .scalar '$' :: ds =>
    if ds ≠ [] ∧ ds.all CodePoint.isDecimal then
      (Text.decimalNumber ds).toOption.bind fun n => if n = 0 then none else names.captures[n - 1]?
    else none
  | _ => none

/-- The key of the stored value that a token names. -/
def storedKey? (w : Text) : Option Text := (Text.dropPrefix? storedMark w).filter (· ≠ [])

/-- What the places have for a token, in their order. -/
def places (names : Names) : List (Text → Option (Except Fault Text)) :=
  [fun w => (names.builtins.get? w).map .ok,
   fun w => (names.captureAt w).map .ok,
   fun w => (names.vars.get? w).map Value.display,
   fun w => (storedKey? w).map fun key => names.stored key >>= Value.display]

/-- The value of a token is what the first place has that has it, and the token itself if none has. -/
def valueAt (names : Names) (w : Text) : Except Fault Text :=
  (names.places.findSome? (· w)).getD (.ok (Piece.written w))

/-- A token that the look-up takes for one of a capture and that names none: there is a line end behind the number of a
capture, or it has the number of no capture, but is the name of a variable. -/
def IsStray (names : Names) (w : Text) : Prop :=
  names.captureAt w = none ∧
    ∃ ds ∈ captureDigits? w, names.capture? ds ≠ .ok none ∨ (names.vars.get? w).isSome

instance (names : Names) (w : Text) : Decidable (names.IsStray w) :=
  inferInstanceAs (Decidable (_ ∧ ∃ ds ∈ captureDigits? w, _))

/-- What the look-up takes for the digits of a capture. -/
theorem captureDigits?_eq_some (h : captureDigits? w = some ds) :
    ds.IsNumeral ∧ (w = .scalar '$' :: ds ∨ w = .scalar '$' :: ds ++ [.scalar '\n']) := by
  unfold captureDigits? at h
  split at h
  · next r =>
      have hall : ∀ c ∈ r.takeWhile CodePoint.isDecimal, c.isDecimal := List.all_eq_true.mp List.all_takeWhile
      have hcut : r.takeWhile CodePoint.isDecimal ++ r.dropWhile CodePoint.isDecimal = r :=
        List.takeWhile_append_dropWhile
      simp only at h
      split at h
      · next hrest =>
          rw [Option.ite_none_left_eq_some, Option.some.injEq, List.isEmpty_iff] at h
          obtain ⟨hne, rfl⟩ := h
          rw [hrest, List.append_nil] at hcut
          exact ⟨⟨hne, hall⟩, .inl (congrArg _ hcut.symm)⟩
      · next hrest =>
          rw [Option.ite_none_left_eq_some, Option.some.injEq, List.isEmpty_iff] at h
          obtain ⟨hne, rfl⟩ := h
          rw [hrest] at hcut
          exact ⟨⟨hne, hall⟩, .inr (congrArg _ hcut.symm)⟩
      · cases h
  · cases h

/-- Digits behind a `$` are what the look-up takes for those of a capture. -/
theorem captureDigits?_dollar (h : ds.IsNumeral) : captureDigits? (.scalar '$' :: ds) = some ds := by
  have htake : ds.takeWhile CodePoint.isDecimal = ds := List.takeWhile_eq_self_iff.mpr h.2
  have hdrop : ds.dropWhile CodePoint.isDecimal = [] := List.dropWhile_eq_nil_iff.mpr h.2
  unfold captureDigits?
  simp only [htake, hdrop, List.isEmpty_iff, h.1, if_false]

theorem captureAt_of_capture? (h : ds.IsNumeral) {c : Option Text} (hc : names.capture? ds = .ok c) :
    names.captureAt (.scalar '$' :: ds) = c := by
  have hdigits : ds ≠ [] ∧ ds.all CodePoint.isDecimal := ⟨h.1, List.all_eq_true.mpr h.2⟩
  rw [captureAt, if_pos hdigits]
  unfold capture? at hc
  rcases hn : ds.decimalNumber with fault | n
  · rw [hn] at hc
    exact absurd hc (by simp [Except.map])
  · rw [hn] at hc
    exact Except.ok.inj hc

/-- Only digits behind a `$` name a capture. -/
theorem captureAt_eq_some {c : Text} (h : names.captureAt w = some c) :
    ∃ ds : Text, w = .scalar '$' :: ds ∧ ds.IsNumeral := by
  unfold captureAt at h
  split at h
  · next ds =>
      split at h
      · next hdigits => exact ⟨ds, rfl, hdigits.1, List.all_eq_true.mp hdigits.2⟩
      · cases h
  · cases h

/-- A token that no place has. -/
def IsUnknown (names : Names) (w : Text) : Prop := ∀ place ∈ names.places, place w = none

theorem isUnknown_iff : names.IsUnknown w ↔
    names.builtins.get? w = none ∧ names.captureAt w = none ∧ names.vars.get? w = none ∧ storedKey? w = none := by
  simp [IsUnknown, places]

theorem IsUnknown.valueAt_eq (h : names.IsUnknown w) : names.valueAt w = .ok (Piece.written w) := by
  rw [valueAt, List.findSome?_eq_none_iff.mpr h, Option.getD_none]

/-- A token that is neither built in nor taken for a capture is looked up as its value says. -/
theorem valueOr_resolve_later (hbuiltin : names.builtins.get? w = none) (hdigits : captureDigits? w = none) :
    Piece.valueOr names.resolve w = names.valueAt w := by
  -- no capture has the name, as none is taken to have it
  have hcapture : names.captureAt w = none := by
    rcases hc : names.captureAt w with _ | c
    · rfl
    · obtain ⟨ds, rfl, hnumeral⟩ := captureAt_eq_some hc
      rw [captureDigits?_dollar hnumeral] at hdigits
      cases hdigits
  simp only [Piece.valueOr, resolve, valueAt, places, List.findSome?_cons, List.findSome?_nil, hbuiltin, hdigits,
    hcapture, Option.map_none]
  rcases names.vars.get? w with _ | v
  · -- the mark alone is no key
    rw [storedKey?]
    rcases Text.dropPrefix? storedMark w with _ | _ | ⟨c, key⟩
    · rfl
    · rfl
    · show (names.stored (c :: key) >>= fun v => v.display.map some).map _ = names.stored (c :: key) >>= Value.display
      rcases names.stored (c :: key) with fault | v
      · rfl
      · exact Piece.map_getD_some v.display _
  · exact Piece.map_getD_some v.display _

/-- A token that is taken for a capture is looked up as its value says, unless it is stray. -/
theorem valueAt_of_capture? (hbuiltin : names.builtins.get? w = none) (hdigits : captureDigits? w = some ds)
    (hstray : ¬ names.IsStray w) {c : Option Text} (hc : names.capture? ds = .ok c) :
    names.valueAt w = .ok (c.getD (Piece.written w)) := by
  rcases hcapture : names.captureAt w with _ | capture
  · -- no capture is taken for it either, and no variable has its name
    have hnone : c = none ∧ names.vars.get? w = none := by
      rw [← Option.not_isSome_iff_eq_none, ← Option.not_isSome_iff_eq_none, ← not_or]
      rintro hsome
      refine hstray ⟨hcapture, ds, hdigits, hsome.imp_left ?_⟩
      rw [hc]
      rintro hsome ⟨⟩
      cases hsome
    have hkey : storedKey? w = none := by
      obtain ⟨-, rfl | rfl⟩ := captureDigits?_eq_some hdigits
      · rfl
      · rfl
    rw [hnone.1]
    exact (isUnknown_iff.mpr ⟨hbuiltin, hcapture, hnone.2, hkey⟩).valueAt_eq
  · -- only digits name a capture, and they are those that were taken
    obtain ⟨other, rfl, hnumeral⟩ := captureAt_eq_some hcapture
    have hother : other = ds := by
      rw [captureDigits?_dollar hnumeral] at hdigits
      exact Option.some.inj hdigits
    subst hother
    rw [captureAt_of_capture? hnumeral hc] at hcapture
    simp only [valueAt, places, List.findSome?_cons, hbuiltin, captureAt_of_capture? hnumeral hc, hcapture]
    rfl

/-- Apart from stray tokens, the look-up comes to the value of the token. -/
theorem valueAt_of_resolve (hstray : ¬ names.IsStray w) (hx : Piece.valueOr names.resolve w = .ok x) :
    names.valueAt w = .ok x := by
  rcases hbuiltin : names.builtins.get? w with _ | t
  · rcases hdigits : captureDigits? w with _ | ds
    · rw [← valueOr_resolve_later hbuiltin hdigits]
      exact hx
    · simp only [Piece.valueOr, resolve, hbuiltin, hdigits] at hx
      rcases hc : names.capture? ds with fault | c
      · rw [hc] at hx
        cases hx
      · rw [hc] at hx
        rw [valueAt_of_capture? hbuiltin hdigits hstray hc]
        exact hx
  · simp only [Piece.valueOr, resolve, hbuiltin] at hx
    simp only [valueAt, places, List.findSome?_cons, hbuiltin]
    exact hx

end Names

/-! ## Templates -/

namespace Act

/-- A text with an opening brace is filled in from the places of the scene, and any other stays as it is. -/
theorem run_render (m : Message) (t : Text) (sc : Scene) : (render m t).run.run sc =
    if t.contains '{' then
      match sc.world.clock.timestamp with
      | .ok _ => (Piece.fill (Names.ofScene m sc).resolve (Piece.ofText t), sc.rolled 3)
      | .error fault => (.error fault, sc.rolled 1)
    else (.ok t, sc) := by
  rw [render]
  split
  · rw [run_bind, run_names]
    rcases sc.world.clock.timestamp with fault | seconds
    · rfl
    · exact run_lift _ _
  · rfl

/-- There is nothing to look up in a text without an opening brace. -/
theorem run_render_of_no_brace (m : Message) {t : Text} (sc : Scene) (h : .scalar '{' ∉ t) :
    (render m t).run.run sc = (.ok t, sc) := by
  rw [run_render, if_neg]
  rw [List.contains_iff_mem]
  exact h

/-- Where the clock can tell the seconds, all else is up to the look-up. -/
theorem run_render_of_brace (m : Message) {t : Text} {sc : Scene} (hclock : sc.world.clock.timestamp.isOk = true)
    (h : .scalar '{' ∈ t) :
    (render m t).run.run sc = (Piece.fill (Names.ofScene m sc).resolve (Piece.ofText t), sc.rolled 3) := by
  rw [run_render, if_pos (List.contains_iff_mem.mpr h)]
  rcases hseconds : sc.world.clock.timestamp with fault | seconds
  · rw [hseconds] at hclock
    cases hclock
  · rfl

/-- A template that is filled in takes some rolls of the dice, and changes nothing else. -/
theorem exists_rolled (m : Message) (t : Text) (sc : Scene) : ∃ k, ((render m t).run.run sc).2 = sc.rolled k := by
  rw [run_render]
  split
  · rcases sc.world.clock.timestamp with fault | seconds
    · exact ⟨1, rfl⟩
    · exact ⟨3, rfl⟩
  · exact ⟨0, rfl⟩

/-- What a template comes to, as far as the look-up goes. -/
theorem isFilled_of_render {m : Message} {t r : Text} {sc : Scene} (hrun : ((render m t).run.run sc).1 = .ok r) :
    t.IsFilled (Piece.valueOr (Names.ofScene m sc).resolve) r := by
  by_cases hbrace : .scalar '{' ∈ t
  · rw [run_render, if_pos (List.contains_iff_mem.mpr hbrace)] at hrun
    rcases hclock : sc.world.clock.timestamp with fault | seconds
    · rw [hclock] at hrun
      cases hrun
    · rw [hclock] at hrun
      exact Piece.fill_eq_ok_iff.mp hrun
  · rw [run_render_of_no_brace m sc hbrace] at hrun
    rw [← Except.ok.inj hrun]
    exact .of_no_brace hbrace

/-- Where the clock can tell the seconds, a template comes to whatever the look-up makes of it. -/
theorem render_eq_ok_iff {m : Message} {t r : Text} {sc : Scene} (hclock : sc.world.clock.timestamp.isOk = true) :
    ((render m t).run.run sc).1 = .ok r ↔ t.IsFilled (Piece.valueOr (Names.ofScene m sc).resolve) r := by
  constructor
  · exact isFilled_of_render
  · intro hfilled
    by_cases hbrace : .scalar '{' ∈ t
    · rw [run_render_of_brace m hclock hbrace]
      exact Piece.fill_eq_ok_iff.mpr hfilled
    · rw [run_render_of_no_brace m sc hbrace, hfilled.unique (.of_no_brace hbrace)]

/-- The tokens of a text do not overlap. A template that is filled in is the text with every token replaced by its
value, all at once, as long as none of them is stray; if no place has any of them, it is the text itself. -/
theorem render_fills (m : Message) (t r : Text) (sc : Scene) (hrun : ((render m t).run.run sc).1 = .ok r)
    (hstray : ∀ i w, t.TokenAt i w → ¬ (Names.ofScene m sc).IsStray w) :
    (∀ i j v w, t.TokenAt i v → t.TokenAt j w →
      (i = j ∧ v = w) ∨ i + (Piece.written v).length ≤ j ∨ j + (Piece.written w).length ≤ i) ∧
    t.IsFilled (Names.ofScene m sc).valueAt r ∧
    ((∀ i w, t.TokenAt i w → (Names.ofScene m sc).IsUnknown w) → r = t) := by
  have hfilled : t.IsFilled (Names.ofScene m sc).valueAt r := by
    apply (isFilled_of_render hrun).imp
    intro i w x hw hx
    exact Names.valueAt_of_resolve (hstray i w hw) hx
  refine ⟨?_, hfilled, ?_⟩
  · intro i j v w hv hw
    exact hv.disjoint hw
  · intro hunknown
    apply hfilled.unique
    apply Text.IsFilled.self
    intro i w hw
    exact (hunknown i w hw).valueAt_eq

/-- A store with nothing but the coins of one user. -/
def sampleWorld (s : Store) : World := ⟨⟨0⟩, ⟨[], 0⟩, s, [], [], [], [], []⟩

/-- A scene in which places have names that others have too, and braces among what they have. -/
def sampleScene : Scene :=
  ⟨sampleWorld (Store.empty.write (.user "u") "coins" (.int 42)).2,
    ⟨[Piece.written "x"], [("greeting", .text (Piece.written "$1")), ("user_id", .text "v"), ("$2", .bool true)], [],
      []⟩⟩

/-- Tokens beside each other and within braces that belong to no token. -/
def sampleTemplate : Text :=
  "a\x7b" ++ Piece.written "greeting" ++ Piece.written "$1" ++ "\x7b\x7d" ++ Piece.written "$9" ++ "\x7d" ++
    Piece.written "storage.coins" ++ Piece.written "user_id" ++ "\x7bx"

/-- What was filled in is not looked at again. -/
theorem render_fills_braces :
    (∀ w ∈ sampleTemplate.tokens, ¬ (Names.ofScene ⟨.ofUser "u", "hi"⟩ sampleScene).IsStray w) ∧
      sampleTemplate.IsFilled (Names.ofScene ⟨.ofUser "u", "hi"⟩ sampleScene).valueAt
        ("a\x7b" ++ Piece.written "$1" ++ Piece.written "x" ++ "\x7b\x7d" ++ Piece.written "$9" ++ "\x7d42u\x7bx") := by
  have hstray : ∀ w ∈ sampleTemplate.tokens, ¬ (Names.ofScene ⟨.ofUser "u", "hi"⟩ sampleScene).IsStray w := by
    decide +kernel
  refine ⟨hstray, (render_fills ⟨.ofUser "u", "hi"⟩ sampleTemplate _ sampleScene ?_ ?_).2.1⟩
  · decide +kernel
  · intro i w hw
    exact hstray w hw.mem_tokens

/-- Nothing is stored, but the token of a stored value does not stay. -/
theorem render_unset_storage :
    (Store.empty.textOf (.user "u") "coins" = none ∧
      ("a" ++ Piece.written "storage.coins" ++ "b" : Text).tokens = ["storage.coins"] ∧
      (Names.ofScene ⟨.ofUser "u", "hi"⟩ ⟨sampleWorld .empty, .start []⟩).builtins.get? "storage.coins" = none ∧
      (Names.ofScene ⟨.ofUser "u", "hi"⟩ ⟨sampleWorld .empty, .start []⟩).captureAt "storage.coins" = none ∧
      Context.visible (.start []) = []) ∧
    ((render ⟨.ofUser "u", "hi"⟩ ("a" ++ Piece.written "storage.coins" ++ "b")).run.run
      ⟨sampleWorld .empty, .start []⟩).1 = .ok "ab" := by
  decide +kernel

end Act

end ChatFlow
