import ChatFlow.Proofs.Double.Sums
import ChatFlow.Proofs.Run.Stored
import ChatFlow.Proofs.Template.Names
import ChatFlow.Proofs.Text.Readings

/-!
# Moments that are stored and asked for

A storage node that sets a key to the moment, in seconds, and a condition that asks whether some seconds have passed
since the moment under a key. On whole seconds, nothing is lost on the way: not in the digits that are filled in, not in
the document that is stored, and not in the doubles that are compared.

* `Moment.IsWhole`: a moment of whole seconds since the beginning of 1970; `timestamp_of_isWhole` is its double.
* `Act.run_cooled`: what the condition finds.
* `Act.run_storeUser_timestamp`: what the node stores.
-/

namespace ChatFlow

/-! ## Whole seconds -/

namespace Moment

variable {m : Moment}

/-- A moment that the calendar has, and that is some whole seconds after the beginning of 1970. -/
structure IsWhole (m : Moment) : Prop where
  calendar : m.inCalendar = true
  whole : m.microsOfSecond = 0
  since : 0 ≤ m.second

/-- The seconds of a moment that the calendar has, from the beginning of 1970 on. -/
def IsSecond (n : Int) : Prop := 0 ≤ n ∧ n < past.second

theorem past_second : past.second = 253402300800 := by decide

theorem IsSecond.exact {n : Int} (h : IsSecond n) : Double.Exact n := by
  obtain ⟨hsince, hpast⟩ := h
  rw [past_second] at hpast
  exact Double.exact_of_natAbs_le (by rw [Nat.pow_eq]; omega)

theorem IsSecond.exact_sub {n k : Int} (h : IsSecond n) (h' : IsSecond k) : Double.Exact (n - k) := by
  obtain ⟨hsince, hpast⟩ := h
  obtain ⟨hsince', hpast'⟩ := h'
  rw [past_second] at hpast hpast'
  exact Double.exact_of_natAbs_le (by rw [Nat.pow_eq]; omega)

theorem IsWhole.isSecond (h : m.IsWhole) : IsSecond m.second := by
  have hcalendar := h.calendar
  have hpast : past.micros = 253402300800 * 1000000 := by decide
  rw [inCalendar, Bool.and_eq_true, decide_eq_true_eq, decide_eq_true_eq, hpast] at hcalendar
  refine ⟨h.since, ?_⟩
  rw [past_second, second, perSecond]
  omega

/-- The double of whole seconds is equal to their number. -/
theorem timestamp_of_isWhole (h : m.IsWhole) : ∃ x, m.timestamp = .ok x ∧ x.whole? = some m.second := by
  have hlate : ¬ m.micros < first.micros + perDay := by
    have hsince := h.since
    have hfirst : first.micros + perDay ≤ 0 := by decide
    rw [second, perSecond] at hsince
    omega
  have hzero : (Double.ofRatio (0 : Nat) 1000000).whole? = some 0 := by decide +kernel
  refine ⟨_, by rw [timestamp, if_neg hlate, h.whole], ?_⟩
  have hsum := Double.whole?_add h.isSecond.exact.whole?_ofInt hzero (by rw [Int.add_zero]; exact h.isSecond.exact)
  rwa [Int.add_zero] at hsum

end Moment

/-! ## Asking -/

/-- A condition is about a key, and about what stands behind it up to the next separator. -/
theorem Condition.operand_append {key : Text} {sep : CodePoint} (hkey : key.trim = key) (hsep : sep ∉ key) (t : Text) :
    operand sep (key ++ sep :: t) = (key, some (Text.partition sep t).1.trim) := by
  obtain ⟨pieces, hpieces⟩ := Text.exists_splitChar sep t
  rw [operand, Text.splitChar_append hsep, hpieces]
  simp only [hkey]

namespace Act

variable {m : Message} {sc : Scene} {key user : Text} {wait : Nat} {last : Option Int}

/-- What a condition asks for: a key, and after how many seconds. -/
theorem operand_of_key (hkey : key.trim = key) (hcomma : .scalar ',' ∉ key) (n : Nat) :
    Condition.operand ',' (key ++ .scalar ',' :: Text.ofNat n) = (key, some (Text.ofNat n)) := by
  have hdigits : .scalar ',' ∉ Text.ofNat n := fun hmem => absurd (Text.digits_ofNat n _ hmem) (by decide)
  rw [Condition.operand_append hkey hcomma, Text.partition_of_not_mem hdigits, Text.trim_ofNat]

theorem numberOf_ofNat {n : Nat} (h : Double.Exact n) : Condition.numberOf (Text.ofNat n) = .ok (.ofInt n) := by
  rw [Condition.numberOf, Value.toDouble, Text.isBlank_ofNat, Text.toDouble?_ofNat h, Option.getD_some]
  simp only [Bool.false_eq_true, if_false]

theorem toDouble_int {n : Int} (h : Double.Exact n) (other : Double) :
    (Value.int n).toDouble other = .ok (.ofInt n) := by
  rw [Value.toDouble, doubleOfInt_eq, if_pos h.natAbs_lt_beyond]

/-- The waiting time has passed if nothing is stored, or if the moment that is stored was so many seconds ago. -/
theorem run_cooled (hclock : sc.world.clock.IsWhole) (hwait : (wait : Int) ≤ sc.world.clock.second)
    (hintact : sc.world.store.intact = true) (hplace : Place.isEncodable (.user user, key) = true)
    (hkey : key.trim = key) (hcomma : .scalar ',' ∉ key)
    (hheld : sc.world.store.contents (.user user, key) = last.map .int) (hlast : ∀ n ∈ last, Moment.IsSecond n) :
    (cooled user (key ++ .scalar ',' :: Text.ofNat wait)).run.run sc =
      (.ok (decide (∀ n ∈ last, n + wait ≤ sc.world.clock.second)), sc) := by
  obtain ⟨now, hnow, hwhole⟩ := Moment.timestamp_of_isWhole hclock
  have hsecond := hclock.isSecond
  have hthreshold : Moment.IsSecond wait := ⟨Int.natCast_nonneg _, Int.lt_of_le_of_lt hwait hsecond.2⟩
  have hsince : Moment.IsSecond (last.getD 0) := by
    cases last with
    | none => exact ⟨Int.le_refl 0, by decide⟩
    | some n => exact hlast n rfl
  have hread : sc.world.store.read (.user user) key (.int 0) = .ok (.int (last.getD 0)) := by
    rw [Store.read_eq (p := (.user user, key)) hintact hplace, Contents.valueOr, hheld]
    cases last with
    | none => rfl
    | some n => rfl
  have helapsed := Double.whole?_sub hwhole hsince.exact.whole?_ofInt (hsecond.exact_sub hsince)
  -- all three doubles are equal to integers, and so is the difference
  have hcooled : Condition.hasCooled (.ofInt wait) (now.sub (.ofInt (last.getD 0))) =
      decide (∀ n ∈ last, n + wait ≤ sc.world.clock.second) := by
    rw [Condition.hasCooled, Double.isNaN_of_whole? hthreshold.exact.whole?_ofInt, Double.isNaN_of_whole? helapsed,
      Bool.not_false, Bool.true_and, Bool.true_and, Bool.eq_iff_iff, decide_eq_true_eq,
      Double.le_iff_of_whole? hthreshold.exact.whole?_ofInt helapsed]
    cases last with
    | none => simpa using hwait
    | some n =>
        simp only [Option.getD_some, Option.mem_some_iff, forall_eq']
        omega
  unfold cooled
  simp only [operand_of_key hkey hcomma, Option.getD_some, numberOf_ofNat hthreshold.exact, stored, run_bind, run_lift,
    run_world, hread, toDouble_int hsince.exact, run_clock, hnow, hcooled]
  rfl

/-! ## Storing -/

/-- The token for the seconds of a moment is filled in with their digits. -/
theorem run_render_timestamp (m : Message) (hclock : sc.world.clock.IsWhole) :
    (render m (Piece.written "timestamp")).run.run sc = (.ok (Text.ofInt sc.world.clock.second), sc.rolled 3) := by
  obtain ⟨now, hnow, hwhole⟩ := Moment.timestamp_of_isWhole hclock
  have hseconds : ((sc.world.clock.timestamp.toOption.bind Double.truncate?).getD 0) = sc.world.clock.second := by
    rw [Double.whole?, Option.ite_none_right_eq_some] at hwhole
    rw [hnow, Except.toOption, Option.bind_some, hwhole.2, Option.getD_some]
  have hresolve : (Names.ofScene m sc).resolve "timestamp" = .ok (some (Text.ofInt sc.world.clock.second)) := by
    rw [← hseconds]
    rfl
  have hopen : .scalar '{' ∈ Piece.written "timestamp" := List.mem_cons_self
  rw [run_render_of_brace m (by rw [hnow]; rfl) hopen]
  have hpieces : Piece.ofText (Piece.written "timestamp") = [.token "timestamp"] := by decide
  rw [hpieces, Piece.fill, hresolve]
  simp [bind, Except.bind, Piece.fill, pure, Except.pure]

theorem run_pure {α : Type} (x : α) (sc : Scene) : (pure x : Act α).run.run sc = (.ok x, sc) := rfl

theorem run_storeValue (owner : Owner) (key : Text) (v : Value) (sc : Scene) : (storeValue owner key v).run.run sc =
    (.ok (), { sc with world := { sc.world with store := (sc.world.store.write owner key v).2 } }) := rfl

theorem run_setVariable (name : Text) (v : Value) (sc : Scene) :
    (setVariable name v).run.run sc = (.ok (), { sc with context := sc.context.set name v }) := rfl

/-- The node stores the moment under its key. -/
theorem run_storeUser_timestamp {d : StorageData UserOp} (hop : d.op = .shared .set)
    (hvalue : d.value = Piece.written "timestamp") (hnonempty : d.key ≠ []) (hbrace : .scalar '{' ∉ d.key)
    (hclock : sc.world.clock.IsWhole)
    (hintact : sc.world.store.intact = true) (hplace : Place.isEncodable (.user m.event.userId, d.key) = true) :
    ((storeUser d m).run.run sc).2.world.store =
      sc.world.store.put (.user m.event.userId) d.key (Json.text .line (.int sc.world.clock.second)) := by
  have hsecond := hclock.isSecond
  have hshort := hsecond.exact.not_integerTooLong
  have hscalar : (Text.ofInt sc.world.clock.second).scalar = .ok (.int sc.world.clock.second) := by
    obtain ⟨n, hn⟩ := Int.eq_ofNat_of_zero_le hsecond.1
    rw [hn] at hshort ⊢
    rw [Text.ofInt, if_neg (by omega), Int.natAbs_natCast]
    exact Text.scalar_ofNat hshort
  have hwrite := Store.write_eq (p := (.user m.event.userId, d.key)) hintact hplace (.int hshort) rfl
  have hnamed : d.key.isEmpty = false := List.isEmpty_eq_false_iff.mpr hnonempty
  unfold storeUser storeWith
  simp only [run_bind, run_render_of_no_brace m sc hbrace, hnamed, Bool.false_eq_true, if_false, hvalue,
    run_render_timestamp m hclock, hop, doUser, doShared, run_lift, hscalar, run_storeValue, run_pure, run_setVariable,
    Scene.rolled, hwrite]

end Act

end ChatFlow
