import ChatFlow.Proofs.Catalog.Deeds
import Mathlib.Data.List.Induction
import Mathlib.Logic.Function.Iterate

/-!
# What an id tells

The digits of a number are found from the last one to the first, by dividing until nothing is left. They write the number,
and begin with a zero for zero only; no other text does both.

An id is put together from the time and six digits behind it. The time has any number of digits, but those behind it are
always six, so that both can be told from the id.

* `Base36.Writes`: a text writes a number in base 36; `Base36.writes_iff` says that it is made of the digits of the number.
* `Base36.turns_ofNat`: how often a number is divided.
* `Catalog.idAt_eq_iff`: the time and the digits of an id.
* `Catalog.newId_tells_time_and_digits`: all of it.
-/

namespace ChatFlow

namespace Base36

variable {t : Text} {c : CodePoint} {n m k : Nat}

/-! ## The number that digits write -/

/-- The number that a digit stands for; those behind the 9 are small letters. -/
def weight? (c : CodePoint) : Option Nat :=
  let n := c.toNat
  if 0x30 ≤ n ∧ n ≤ 0x39 then some (n - 0x30)
  else if 0x61 ≤ n ∧ n ≤ 0x7A then some (n - 0x57)
  else none

/-- The number that a text writes, if it is made of digits. -/
def value? (t : Text) : Option Nat := t.foldlM (fun n c => (weight? c).map fun k => 36 * n + k) 0

/-- A text writes a number: there are digits, and no zero stands in front of others. -/
structure Writes (t : Text) (n : Nat) : Prop where
  value : value? t = some n
  ne_nil : t ≠ []
  leading : t.head? = some (.scalar '0') → t = "0"

theorem weight?_digit : ∀ k < 36, weight? (digit k) = some k := by decide

/-- A digit is the one of its number. -/
theorem digit_of_weight? (h : weight? c = some k) : k < 36 ∧ digit k = c := by
  have hdecimal : ∀ k < 10, digit k = CodePoint.ofNat (k + 0x30) := by decide
  have hletter : ∀ k < 36, 10 ≤ k → digit k = CodePoint.ofNat (k + 0x57) := by decide
  dsimp only [weight?] at h
  split at h
  · next hrange =>
      obtain rfl := Option.some.inj h
      refine ⟨by omega, ?_⟩
      rw [hdecimal _ (by omega), Nat.sub_add_cancel hrange.1, CodePoint.ofNat_toNat]
  · split at h
    · next hrange =>
        obtain rfl := Option.some.inj h
        refine ⟨by omega, ?_⟩
        rw [hletter _ (by omega) (by omega), Nat.sub_add_cancel (by omega), CodePoint.ofNat_toNat]
    · cases h

/-- One more digit behind the others is one more step of reading. -/
theorem value?_concat (t : Text) (c : CodePoint) :
    value? (t ++ [c]) = (value? t).bind fun m => (weight? c).map fun k => 36 * m + k := by
  rw [value?, List.foldlM_append, value?]
  refine congrArg (Option.bind _) (funext fun m => ?_)
  cases h : weight? c <;> simp [h]

theorem value?_concat_eq_some_iff :
    value? (t ++ [c]) = some n ↔ ∃ m k, value? t = some m ∧ weight? c = some k ∧ n = 36 * m + k := by
  rw [value?_concat, Option.bind_eq_some_iff]
  constructor
  · rintro ⟨m, hm, hlast⟩
    obtain ⟨k, hk, rfl⟩ := Option.map_eq_some_iff.mp hlast
    exact ⟨m, k, hm, hk, rfl⟩
  · rintro ⟨m, k, hm, hk, rfl⟩
    exact ⟨m, hm, Option.map_eq_some_iff.mpr ⟨k, hk, rfl⟩⟩

/-! ## The digits of a number -/

theorem ofNatAux_append (n : Nat) (rest more : Text) : ofNatAux n (rest ++ more) = ofNatAux n rest ++ more := by
  fun_induction ofNatAux n rest with
  | case1 rest => rw [ofNatAux, dif_pos rfl]
  | case2 n rest hn ih =>
      rw [ofNatAux, dif_neg hn]
      exact ih

theorem ofNat_of_lt (h : n < 36) : ofNat n = [digit n] := by
  by_cases hn : n = 0
  · rw [hn]
    rfl
  · rw [ofNat, if_neg hn, ofNatAux, dif_neg hn, Nat.div_eq_of_lt h, Nat.mod_eq_of_lt h, ofNatAux, dif_pos rfl]

/-- The last digit comes behind those of what is left. -/
theorem ofNat_concat (hm : m ≠ 0) (hk : k < 36) : ofNat (36 * m + k) = ofNat m ++ [digit k] := by
  have hne : 36 * m + k ≠ 0 := by omega
  have hleft : (36 * m + k) / 36 = m := by omega
  have hlast : (36 * m + k) % 36 = k := by omega
  rw [ofNat, if_neg hne, ofNatAux, dif_neg hne, hleft, hlast, ofNat, if_neg hm, ← ofNatAux_append, List.nil_append]

theorem writes_ofNat (n : Nat) : Writes (ofNat n) n := by
  induction n using Nat.strongRecOn with
  | ind n ih =>
      by_cases hn : n < 36
      · rw [ofNat_of_lt hn]
        have hvalue := value?_concat_eq_some_iff (t := []).mpr ⟨0, n, rfl, weight?_digit n hn, (Nat.zero_add n).symm⟩
        exact ⟨hvalue, List.cons_ne_nil _ _, fun hzero => congrArg (fun c => [c]) (Option.some.inj hzero)⟩
      · obtain ⟨m, k, hm, hk, rfl⟩ : ∃ m k, m ≠ 0 ∧ k < 36 ∧ n = 36 * m + k :=
          ⟨n / 36, n % 36, by omega, by omega, by omega⟩
        have hwrites := ih m (by omega)
        rw [ofNat_concat hm hk]
        refine ⟨value?_concat_eq_some_iff.mpr ⟨m, k, hwrites.value, weight?_digit k hk, rfl⟩, by simp, fun hzero => ?_⟩
        -- what is left is not zero, so its digits begin with none
        rw [List.head?_append_of_ne_nil _ hwrites.ne_nil] at hzero
        have hvalue := hwrites.value
        rw [hwrites.leading hzero] at hvalue
        exact absurd (Option.some.inj hvalue).symm hm

/-- The digits of a number are the only text that writes it. -/
theorem eq_ofNat_of_writes (h : Writes t n) : t = ofNat n := by
  -- the last digit is the one that is divided off first
  induction t using List.reverseRecOn generalizing n with
  | nil => exact absurd rfl h.ne_nil
  | append_singleton u c ih =>
      obtain ⟨m, k, hm, hk, rfl⟩ := value?_concat_eq_some_iff.mp h.value
      obtain ⟨hlt, rfl⟩ := digit_of_weight? hk
      by_cases hu : u = []
      · subst hu
        obtain rfl := Option.some.inj hm
        rw [Nat.mul_zero, Nat.zero_add, ofNat_of_lt hlt, List.nil_append]
      · -- more than one digit, the first of which is therefore no zero
        have hfirst : u.head? ≠ some (.scalar '0') := by
          intro hzero
          have halone := congrArg List.length (h.leading (by rwa [List.head?_append_of_ne_nil _ hu]))
          have hpos := List.length_pos_of_ne_nil hu
          rw [List.length_append] at halone
          change u.length + 1 = 1 at halone
          omega
        have hwrites := ih ⟨hm, hu, fun hzero => absurd hzero hfirst⟩
        have hne : m ≠ 0 := by
          rintro rfl
          exact hfirst (by rw [hwrites]; rfl)
        rw [ofNat_concat hne hlt, ← hwrites]

theorem writes_iff : Writes t n ↔ t = ofNat n :=
  ⟨eq_ofNat_of_writes, fun h => h ▸ writes_ofNat n⟩

theorem ofNat_injective : Function.Injective ofNat := by
  intro n m h
  have hvalue := (writes_ofNat n).value
  rw [h, (writes_ofNat m).value] at hvalue
  exact (Option.some.inj hvalue).symm

/-! ## Dividing until nothing is left -/

/-- One division: the digit that is found goes behind those that were found before. -/
def turn (s : Nat × Text) : Nat × Text := (s.1 / 36, s.2 ++ [digit (s.1 % 36)])

theorem exists_turns (n : Nat) (rest : Text) :
    ∃ k, turn^[k] (n, rest.reverse) = (0, (ofNatAux n rest).reverse) ∧ (ofNatAux n rest).length = k + rest.length ∧
      ∀ j < k, (turn^[j] (n, rest.reverse)).1 ≠ 0 := by
  fun_induction ofNatAux n rest with
  | case1 rest => exact ⟨0, rfl, (Nat.zero_add _).symm, nofun⟩
  | case2 n rest hn ih =>
      obtain ⟨k, hend, hlength, hleft⟩ := ih
      -- what was found stands in `rest` the other way round
      have hturn : turn (n, rest.reverse) = (n / 36, (digit (n % 36) :: rest).reverse) := by
        rw [turn, List.reverse_cons]
      refine ⟨k + 1, ?_, ?_, ?_⟩
      · rw [Function.iterate_succ_apply, hturn, hend]
      · rw [hlength, List.length_cons]
        omega
      · intro j hj
        cases j with
        | zero => exact hn
        | succ j =>
            rw [Function.iterate_succ_apply, hturn]
            exact hleft j (by omega)

/-- A number is divided as often as it has digits, and only then nothing is left. -/
theorem turns_ofNat (hn : n ≠ 0) : turn^[(ofNat n).length] (n, []) = (0, (ofNat n).reverse) ∧
    ∀ j < (ofNat n).length, (turn^[j] (n, [])).1 ≠ 0 := by
  obtain ⟨k, hend, hlength, hleft⟩ := exists_turns n []
  rw [ofNat, if_neg hn, hlength]
  exact ⟨hend, hleft⟩

end Base36

namespace Catalog

/-! ## Ids -/

variable {suffix suffix' : Text}

/-- The id of a time in milliseconds, with some digits behind it. -/
def idAt (time : Int) (suffix : Text) : Text := "wf_" ++ Base36.ofInt time ++ suffix

/-- Two ids with equally many digits behind the time are equal only if both parts are. Times before 1970 count as zero. -/
theorem idAt_eq_iff {time time' : Int} (h : suffix.length = suffix'.length) :
    idAt time suffix = idAt time' suffix' ↔ time.toNat = time'.toNat ∧ suffix = suffix' := by
  constructor
  · intro heq
    -- both ids are cut at the same distance from the end, whatever the lengths of the times
    obtain ⟨hfront, hsuffix⟩ := List.append_inj' heq h
    exact ⟨Base36.ofNat_injective (List.append_cancel_left hfront), hsuffix⟩
  · rintro ⟨htime, rfl⟩
    rw [idAt, idAt, Base36.ofInt, Base36.ofInt, htime]

/-- With seven digits behind the time, the first of them could be its last one. -/
example : idAt 1 "0abcdef" = idAt 36 "abcdef" := by decide +kernel

/-- A number is written in base 36 by its digits, by no other text without zeros in front, and they are found by dividing
as often as there are digits. A new id is always drawn: it is made of the milliseconds and of six digits. Two ids of
milliseconds and six code points are equal only if both are. -/
theorem newId_tells_time_and_digits :
    (∀ n : Nat, (∀ t : Text, Base36.Writes t n ↔ t = Base36.ofInt n) ∧
      (n ≠ 0 → Base36.turn^[(Base36.ofInt n).length] (n, []) = (0, (Base36.ofInt n).reverse) ∧
        ∀ j < (Base36.ofInt n).length, (Base36.turn^[j] (n, [])).1 ≠ 0)) ∧
    (∀ (seconds : Double) (d : Dice), ∃ suffix d', drawDigits randomDigits d = .ok (suffix, d') ∧
      newId seconds d = .ok (idAt (milliseconds seconds) suffix, d') ∧ suffix.length = 6 ∧ suffix ⊆ Base36.digits) ∧
    ∀ (time time' : Nat) (suffix suffix' : Text), suffix.length = 6 → suffix'.length = 6 →
      (idAt time suffix = idAt time' suffix' ↔ time = time' ∧ suffix = suffix') := by
  refine ⟨fun n => ⟨fun t => Base36.writes_iff, Base36.turns_ofNat⟩, fun seconds d => ?_, ?_⟩
  · obtain ⟨suffix, d', hdrawn, hlength, hdigits⟩ := exists_drawDigits randomDigits d
    exact ⟨suffix, d', hdrawn, newId_of_drawDigits hdrawn seconds, hlength, hdigits⟩
  · intro time time' suffix suffix' hlength hlength'
    exact idAt_eq_iff (hlength.trans hlength'.symm)

/-- The id of the first time is the beginning of the id of the second one, and is another id. -/
theorem newId_tells_time_and_digits_of_sample :
    let a : Text := "0abcde"
    let b : Text := "abcdef"
    ((36 : Nat) ≠ 0 ∧ a.length = 6 ∧ b.length = 6) ∧
      Base36.ofInt (36 : Nat) = "10" ∧ Base36.turn^[2] (36, []) = (0, ("01" : Text)) ∧
      idAt (1 : Nat) a <+: idAt (36 : Nat) b ∧ idAt (1 : Nat) a ≠ idAt (36 : Nat) b := by
  intro a b
  have hparts : (36 : Nat) ≠ 0 ∧ a.length = 6 ∧ b.length = 6 := by decide
  obtain ⟨hnumber, -, hids⟩ := newId_tells_time_and_digits
  obtain ⟨hwrites, hturns⟩ := hnumber 36
  have hthirtySix : Base36.ofInt (36 : Nat) = "10" := ((hwrites "10").mp ⟨by decide, by decide, by decide⟩).symm
  have hone : Base36.ofInt (1 : Nat) = "1" := (((hnumber 1).1 "1").mp ⟨by decide, by decide, by decide⟩).symm
  obtain ⟨hend, -⟩ := hturns hparts.1
  rw [hthirtySix] at hend
  refine ⟨hparts, hthirtySix, hend, ?_, fun heq => ?_⟩
  · rw [idAt, idAt, hone, hthirtySix]
    decide
  · obtain ⟨htime, -⟩ := (hids 1 36 a b hparts.2.1 hparts.2.2).mp heq
    cases htime

end Catalog

end ChatFlow
