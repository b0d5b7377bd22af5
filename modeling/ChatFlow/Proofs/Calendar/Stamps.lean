import ChatFlow.Calendar.Stamp
import ChatFlow.Proofs.Calendar.Dates
import ChatFlow.Proofs.Text.Digits

/-!
# Time stamps of documents

The text of a time stamp is read back part by part: the date, the time of day, the fraction of the second and the
distance to universal time. Each part takes its own digits and leaves what follows, so the parts are put together
one behind the other. A stamp can be read back if its reading lies in the calendar and the distance is of whole
minutes, less than a day; and whatever is read is such a stamp.

* `Stamp.digits?_padded`: digits in a fixed number.
* `Stamp.date?_append`, `Stamp.timeOfDay?_append`, `Stamp.ahead?_aheadText`: the parts.
* `Stamp.IsWritable`: stamps that can be read back.
* `Stamp.ofText?_text`: they are.
* `Stamp.isWritable_of_ofValue?`: what is read.
-/

namespace ChatFlow

/-! ## Padded digits -/

namespace Text

variable {k n : Nat}

theorem length_padded (hk : 0 < k) (hn : n < 10 ^ k) : (padded k n).length = k := by
  have hdigits : (ofNat n).length ≤ k := (length_ofNat_le_iff hk).mpr hn
  simp only [padded, List.length_append, List.length_replicate]
  omega

theorem isDigit_of_mem_padded {c : CodePoint} (h : c ∈ padded k n) : Json.isDigit c = true := by
  rcases List.mem_append.mp h with hzero | hdigit
  · rw [List.eq_of_mem_replicate hzero]
    rfl
  · exact isDigit_of_mem_ofNat hdigit

theorem digitsValue_padded (k n : Nat) : Json.digitsValue (padded k n) = n := by
  rw [padded, Json.digitsValue_append, Json.digitsValue_zeros, Nat.zero_mul, Nat.zero_add, Json.digitsValue_ofNat]

end Text

/-! ## Moments as dates and times of day -/

namespace Moment

variable {m : Moment}

/-- The moment at the date and the time of day of a moment is that moment. -/
theorem ofDate_date (m : Moment) : ofDate m.date m.secondOfDay m.microsOfSecond = m := by
  have hday : m.date.toDay = m.micros / perDay := Date.toDay_ofDay m.day
  have hsecond : (m.secondOfDay : Int) = m.micros / perSecond % 86400 :=
    Int.toNat_of_nonneg (Int.emod_nonneg _ (by decide))
  have hrest : (m.microsOfSecond : Int) = m.micros % perSecond := Int.toNat_of_nonneg (Int.emod_nonneg _ (by decide))
  have hmicros : (m.date.toDay * 86400 + m.secondOfDay) * perSecond + m.microsOfSecond = m.micros := by
    rw [hday, hsecond, hrest]
    show (m.micros / 86400000000 * 86400 + m.micros / 1000000 % 86400) * 1000000 + m.micros % 1000000 = m.micros
    omega
  exact congrArg Moment.mk hmicros

theorem secondOfDay_lt (m : Moment) : m.secondOfDay < 86400 := by
  unfold secondOfDay
  omega

theorem microsOfSecond_lt (m : Moment) : m.microsOfSecond < 1000000 := by
  have hless : m.micros % perSecond < 1000000 := Int.emod_lt_of_pos _ (by decide)
  unfold microsOfSecond
  omega

/-- The calendar in days. -/
theorem inCalendar_iff : m.inCalendar = true ↔ -719162 ≤ m.day ∧ m.day ≤ 2932896 := by
  have hfirst : first.micros = -719162 * 86400000000 := by decide
  have hpast : past.micros = 2932897 * 86400000000 := by decide
  have hday : m.day = m.micros / 86400000000 := rfl
  rw [inCalendar, Bool.and_eq_true, decide_eq_true_eq, decide_eq_true_eq, hfirst, hpast, hday]
  omega

/-- A time of day on a valid date lies in the calendar. -/
theorem inCalendar_ofDate {d : Date} {second micros : Nat} (hd : d.isValid = true) (hsecond : second < 86400)
    (hmicros : micros < 1000000) : (ofDate d second micros).inCalendar = true := by
  obtain ⟨hfirst, hlast⟩ := Date.toDay_bounds hd
  have hday : (ofDate d second micros).day = d.toDay := by
    show ((d.toDay * 86400 + second) * 1000000 + micros) / 86400000000 = d.toDay
    omega
  rw [inCalendar_iff, hday]
  exact ⟨hfirst, hlast⟩

end Moment

namespace Stamp

variable {k n : Nat} {r t : Text} {s : Stamp}

/-! ## Digits in a fixed number -/

theorem isAscii_of_isDigit {c : CodePoint} (h : Json.isDigit c = true) : c.isAscii Char.isDigit = true := by
  have hbounds : 48 ≤ c.toNat ∧ c.toNat ≤ 57 := by
    simpa only [Json.isDigit, Bool.and_eq_true, decide_eq_true_eq] using h
  cases c with
  | scalar c =>
      change 48 ≤ c.toNat ∧ c.toNat ≤ 57 at hbounds
      have hdigit : c.isDigit = true := by
        simpa [Char.isDigit, UInt32.le_iff_toNat_le] using hbounds
      have hascii : c.toNat < 128 := by omega
      rw [CodePoint.isAscii, hdigit, decide_eq_true hascii]
      rfl
  | surrogate n =>
      change 48 ≤ 0xD800 + n.val ∧ 0xD800 + n.val ≤ 57 at hbounds
      omega

theorem digits?_append {ds : Text} (hds : ∀ c ∈ ds, Json.isDigit c = true) (value : Nat) (r : Text) :
    digits? ds.length value (ds ++ r) = some (value * 10 ^ ds.length + Json.digitsValue ds, r) := by
  induction ds generalizing value with
  | nil => simp [digits?, Json.digitsValue]
  | cons c ds ih =>
      obtain ⟨hc, hrest⟩ := List.forall_mem_cons.mp hds
      rw [List.length_cons, List.cons_append, digits?, if_pos (isAscii_of_isDigit hc), ih hrest,
        Json.digitsValue_cons]
      congr 2
      rw [Nat.pow_succ, Nat.add_mul]
      ring

/-- Padded digits are read back, and nothing behind them. -/
theorem digits?_padded (hk : 0 < k) (hn : n < 10 ^ k) (r : Text) :
    digits? k 0 (Text.padded k n ++ r) = some (n, r) := by
  have hdigits : ∀ c ∈ Text.padded k n, Json.isDigit c = true := fun c hc => Text.isDigit_of_mem_padded hc
  have hread := digits?_append hdigits 0 r
  rwa [Text.length_padded hk hn, Text.digitsValue_padded, Nat.zero_mul, Nat.zero_add] at hread

/-- What is read of a fixed number of digits is less than the power of ten. -/
theorem digits?_lt {value : Nat} {found : Nat × Text} (h : digits? k value t = some found) :
    found.1 < (value + 1) * 10 ^ k := by
  induction k generalizing value t with
  | zero =>
      cases h
      simp
  | succ k ih =>
      cases t with
      | nil => cases h
      | cons c t =>
          rw [digits?] at h
          split at h
          · next hc =>
              have hdigit : c.toNat - 0x30 ≤ 9 := by
                cases c with
                | scalar c =>
                    have hbounds : c.toNat < 128 ∧ 48 ≤ c.toNat ∧ c.toNat ≤ 57 := by
                      simpa [CodePoint.isAscii, Char.isDigit, UInt32.le_iff_toNat_le] using hc
                    rw [CodePoint.toNat]
                    omega
                | surrogate n => cases hc
              have hbound := ih h
              calc found.1 < (value * 10 + (c.toNat - 0x30) + 1) * 10 ^ k := hbound
                _ ≤ (value + 1) * 10 * 10 ^ k := Nat.mul_le_mul_right _ (by omega)
                _ = (value + 1) * 10 ^ (k + 1) := by rw [Nat.pow_succ]; ring
          · cases h

/-! ## The parts of a text -/

/-- The text of a date. -/
def dateText (d : Date) : Text :=
  Text.padded 4 d.year.toNat ++ .scalar '-' :: (Text.padded 2 d.month ++ .scalar '-' :: Text.padded 2 d.day)

theorem date?_append {d : Date} (hd : d.isValid = true) (r : Text) : date? (dateText d ++ r) = some (d, r) := by
  have hfields : (1 ≤ d.year ∧ d.year ≤ 9999) ∧ d.month < 100 ∧ d.day < 100 := by
    simp only [Date.isValid, Bool.and_eq_true, decide_eq_true_eq] at hd
    obtain ⟨⟨⟨⟨hyear, -⟩, hmonth⟩, -⟩, hday⟩ := hd
    have hmost := Date.daysInMonth_le d.year d.month
    omega
  obtain ⟨⟨hfirst, hlast⟩, hmonth, hday⟩ := hfields
  have hyear : d.year.toNat < 10 ^ 4 := by omega
  have hsame : (⟨(d.year.toNat : Int), d.month, d.day⟩ : Date) = d := by
    rw [Int.toNat_of_nonneg (by omega)]
  rw [dateText, List.append_assoc, List.cons_append, List.append_assoc, List.cons_append, date?]
  rw [digits?_padded (by decide) hyear]
  simp only [Option.bind_eq_bind, Option.bind_some]
  rw [digits?_padded (by decide) hmonth]
  simp only [Option.bind_some]
  rw [digits?_padded (by decide) hday]
  simp only [Option.bind_some]
  rw [hsame, if_pos hd]

/-- The text of the microseconds of a second, if there are any. -/
def fractionText (micros : Nat) : Text :=
  if micros = 0 then [] else .scalar '.' :: Text.padded 6 micros

/-- What may stand behind a fraction. -/
def EndsFraction (r : Text) : Prop :=
  ∀ c ∈ r.head?, c ≠ .scalar '.' ∧ c ≠ .scalar ',' ∧ c.isAscii Char.isDigit = false

theorem micros?_append {micros : Nat} (hmicros : micros < 1000000) (hr : EndsFraction r) :
    micros? (fractionText micros ++ r) = some (micros, r) := by
  unfold fractionText
  split
  · next hzero =>
      subst hzero
      rw [List.nil_append, micros?]
      · rintro r' rfl
        exact (hr _ rfl).1 rfl
      · rintro r' rfl
        exact (hr _ rfl).2.1 rfl
  · -- the digits end where the rest begins
    have hdigits : ∀ c ∈ Text.padded 6 micros, c.isAscii Char.isDigit = true := fun c hc =>
      isAscii_of_isDigit (Text.isDigit_of_mem_padded hc)
    have hlength : (Text.padded 6 micros).length = 6 := Text.length_padded (by decide) hmicros
    have hrest : r.takeWhile (·.isAscii Char.isDigit) = [] := by
      cases r with
      | nil => rfl
      | cons c r => rw [List.takeWhile_cons, (hr c rfl).2.2, if_neg (by decide)]
    have htaken : (Text.padded 6 micros ++ r).takeWhile (·.isAscii Char.isDigit) = Text.padded 6 micros := by
      rw [List.takeWhile_append_of_pos hdigits, hrest, List.append_nil]
    have hsix : (Text.padded 6 micros ++ List.replicate 6 (CodePoint.scalar '0')).take 6 = Text.padded 6 micros :=
      List.take_left' hlength
    have hread := digits?_padded (k := 6) (by decide) hmicros []
    rw [List.append_nil] at hread
    have hsome : (Text.padded 6 micros).isEmpty = false := by
      rw [List.isEmpty_eq_false_iff, ← List.length_pos_iff, hlength]
      decide
    rw [List.cons_append, micros?]
    simp only [htaken, hsix, hsome, hread, hlength]
    rw [if_neg (by decide), Option.map_some, List.drop_left' hlength]

/-- The text of a time of day. -/
def timeText (second micros : Nat) : Text :=
  Text.padded 2 (second / 3600) ++ .scalar ':' ::
    (Text.padded 2 (second / 60 % 60) ++ .scalar ':' :: (Text.padded 2 (second % 60) ++ fractionText micros))

theorem timeOfDay?_append {second micros : Nat} (hsecond : second < 86400) (hmicros : micros < 1000000)
    (hr : EndsFraction r) : timeOfDay? (timeText second micros ++ r) = some (second, micros, r) := by
  have hhour : second / 3600 < 24 := by omega
  have hminute : second / 60 % 60 < 60 := by omega
  have hparts : second / 3600 * 3600 + second / 60 % 60 * 60 + second % 60 = second := by omega
  simp only [timeText, List.append_assoc, List.cons_append]
  rw [timeOfDay?, digits?_padded (by decide) (by omega)]
  simp only [Option.bind_eq_bind, Option.bind_some]
  rw [digits?_padded (by decide) (by omega)]
  simp only [Option.bind_some]
  rw [if_neg (by omega), digits?_padded (by decide) (by omega)]
  simp only [Option.bind_some]
  rw [micros?_append hmicros hr]
  simp only [Option.bind_some]
  rw [if_neg (by omega), hparts]

/-- The text of a distance to universal time. -/
def aheadText (ahead : Option Int) : Text :=
  match ahead with
  | none => []
  | some ahead =>
    if ahead = 0 then [.scalar 'Z']
    else
      (if ahead < 0 then .scalar '-' else .scalar '+') :: (Text.padded 2 (ahead.natAbs / 60 / 60) ++
        .scalar ':' :: Text.padded 2 (ahead.natAbs / 60 % 60))

theorem endsFraction_aheadText (ahead : Option Int) : EndsFraction (aheadText ahead) := by
  intro c hc
  unfold aheadText at hc
  split at hc
  · cases hc
  · split at hc
    · cases hc
      decide
    · split at hc
      · cases hc
        decide
      · cases hc
        decide

/-- A distance that can be read back: whole minutes, less than a day. -/
def AheadWritable (ahead : Option Int) : Prop := ∀ n, ahead = some n → n % 60 = 0 ∧ n.natAbs < 86400

theorem ahead?_aheadText {ahead : Option Int} (h : AheadWritable ahead) : ahead? (aheadText ahead) = some ahead := by
  cases ahead with
  | none => rfl
  | some n =>
      obtain ⟨hminutes, hless⟩ := h n rfl
      unfold aheadText
      dsimp only
      split
      · next hzero =>
          rw [hzero]
          rfl
      · have hhours : n.natAbs / 60 / 60 < 10 ^ 2 := by omega
        have hminute : n.natAbs / 60 % 60 < 10 ^ 2 := by omega
        have hlast := digits?_padded (by decide) hminute []
        rw [List.append_nil] at hlast
        have hsum : ((n.natAbs / 60 / 60 : Nat) : Int) * 3600 + ((n.natAbs / 60 % 60 : Nat) : Int) * 60 = n.natAbs := by
          omega
        have hfits : ¬ (60 ≤ n.natAbs / 60 % 60 ∨ 24 ≤ n.natAbs / 60 / 60 ∨ (!([] : Text).isEmpty) = true) := by
          simp only [List.isEmpty_nil, Bool.not_true, Bool.false_eq_true, or_false, not_or]
          omega
        split
        · next hnegative =>
            have hvalue : -(n.natAbs : Int) = n := by omega
            rw [ahead?]
            simp only
            rw [digits?_padded (by decide) hhours]
            simp only [Option.bind_eq_bind, Option.bind_some]
            rw [hlast]
            simp only [Option.bind_some]
            rw [if_neg hfits, if_pos trivial, hsum, hvalue]
        · next hpositive =>
            have hvalue : (n.natAbs : Int) = n := by omega
            rw [ahead?]
            simp only
            rw [digits?_padded (by decide) hhours]
            simp only [Option.bind_eq_bind, Option.bind_some]
            rw [hlast]
            simp only [Option.bind_some]
            rw [if_neg hfits, if_neg Bool.false_ne_true, hsum, hvalue]

/-! ## Stamps that can be read back -/

/-- A reading in the calendar, and a distance to universal time that can be read back. -/
structure IsWritable (s : Stamp) : Prop where
  reading : s.reading.inCalendar = true
  ahead : AheadWritable s.ahead

/-- The signs of the texts, as code points. -/
theorem signs_eq : ("-" : Text) = [.scalar '-'] ∧ (":" : Text) = [.scalar ':'] ∧ ("T" : Text) = [.scalar 'T'] ∧
    ("." : Text) = [.scalar '.'] ∧ ("Z" : Text) = [.scalar 'Z'] ∧ ("+" : Text) = [.scalar '+'] := by
  decide

theorem isoText_eq (m : Moment) :
    m.isoText = dateText m.date ++ .scalar 'T' :: timeText m.secondOfDay m.microsOfSecond := by
  obtain ⟨hdash, hcolon, hT, hpoint, -, -⟩ := signs_eq
  simp only [Moment.isoText, Moment.timeText, Moment.clockText, dateText, timeText, fractionText, hdash, hcolon, hT,
    hpoint, List.append_assoc, List.cons_append, List.nil_append, Moment.hour, Moment.minuteOfHour,
    Moment.secondOfMinute]

theorem text_eq (s : Stamp) :
    s.text = dateText s.reading.date ++ .scalar 'T' ::
      (timeText s.reading.secondOfDay s.reading.microsOfSecond ++ aheadText s.ahead) := by
  obtain ⟨hdash, hcolon, -, -, hZ, hplus⟩ := signs_eq
  obtain ⟨m, ahead⟩ := s
  rw [text, isoText_eq, List.append_assoc, List.cons_append]
  congr 3
  cases ahead with
  | none => rfl
  | some n =>
      dsimp only [aheadText]
      split
      · exact hZ
      · rw [List.append_assoc, List.append_assoc, hcolon, hdash, hplus, List.singleton_append]
        split
        · rw [List.singleton_append]
        · rw [List.singleton_append]

/-- Such a stamp is read back as it was. -/
theorem ofText?_text (h : s.IsWritable) : ofText? s.text = some s := by
  obtain ⟨hfirst, hlast⟩ := Moment.inCalendar_iff.mp h.reading
  have hdate : s.reading.date.isValid = true := Date.isValid_ofDay hfirst hlast
  have hwritten : written? s.text = some s := by
    rw [text_eq, written?, date?_append hdate]
    simp only [Option.bind_eq_bind, Option.bind_some]
    rw [timeOfDay?_append s.reading.secondOfDay_lt s.reading.microsOfSecond_lt (endsFraction_aheadText _)]
    simp only [Option.bind_some]
    rw [ahead?_aheadText h.ahead, Option.bind_some, Moment.ofDate_date]
  rw [ofText?, hwritten]
  rfl

/-! ## Stamps that are read -/

theorem isWritable_of_ofSeconds? {n : Int} {micros : Nat} (h : ofSeconds? n micros = some s) : s.IsWritable := by
  unfold ofSeconds? at h
  dsimp only at h
  generalize (if n.natAbs ≤ maxSeconds.natAbs then n * 1000000 else n * 1000) + (micros : Int) = m at h
  split at h
  · next hbounds =>
      cases h
      refine ⟨?_, by rintro _ ⟨⟩; decide⟩
      have hsecond : firstSecond ≤ m / 1000000 ∧ m / 1000000 ≤ lastSecond := hbounds
      have hday : (⟨m⟩ : Moment).day = m / 86400000000 := rfl
      rw [Moment.inCalendar_iff, hday]
      unfold firstSecond lastSecond at hsecond
      omega
  · cases h

theorem isWritable_of_ofDouble? {x : Double} (h : ofDouble? x = some s) : s.IsWritable := by
  unfold ofDouble? at h
  obtain ⟨whole, -, h⟩ := Option.bind_eq_some_iff.mp h
  obtain ⟨cut, -, h⟩ := Option.bind_eq_some_iff.mp h
  obtain ⟨fraction, -, h⟩ := Option.bind_eq_some_iff.mp h
  obtain ⟨micros, -, h⟩ := Option.bind_eq_some_iff.mp h
  exact isWritable_of_ofSeconds? h

theorem isWritable_of_counted? (h : counted? t = some s) : s.IsWritable := by
  unfold counted? at h
  obtain ⟨⟨value, r⟩, -, h⟩ := Option.bind_eq_some_iff.mp h
  dsimp only at h
  -- whatever the sign
  split at h
  all_goals
    dsimp only at h
    split at h
    · cases h
    · split at h
      · exact isWritable_of_ofSeconds? h
      · obtain ⟨⟨value, r⟩, -, h⟩ := Option.bind_eq_some_iff.mp h
        obtain ⟨whole, -, h⟩ := Option.bind_eq_some_iff.mp h
        obtain ⟨micros, -, h⟩ := Option.bind_eq_some_iff.mp h
        dsimp only at h
        split at h
        · exact isWritable_of_ofSeconds? h
        · cases h
      · cases h

theorem micros?_lt {micros : Nat} (h : micros? t = some (micros, r)) : micros < 1000000 := by
  unfold micros? at h
  have hdigits : ∀ u : Text, (if (u.takeWhile (·.isAscii Char.isDigit)).isEmpty then none
      else (digits? 6 0 ((u.takeWhile (·.isAscii Char.isDigit) ++ List.replicate 6 (CodePoint.scalar '0')).take 6)).map
        fun found => (found.1, u.drop (u.takeWhile (·.isAscii Char.isDigit)).length)) = some (micros, r) →
      micros < 1000000 := by
    intro u hu
    split at hu
    · cases hu
    · obtain ⟨⟨n, r'⟩, hn, hsame⟩ := Option.map_eq_some_iff.mp hu
      cases hsame
      exact digits?_lt hn
  split at h
  · next u => exact hdigits u h
  · next u => exact hdigits u h
  · cases h
    decide

theorem aheadWritable_of_ahead? {ahead : Option Int} (h : ahead? t = some ahead) : AheadWritable ahead := by
  unfold ahead? at h
  dsimp only at h
  intro n hn
  subst hn
  split at h
  case h_1 => cases h
  case h_2 =>
    cases h
    decide
  case h_3 =>
    cases h
    decide
  case h_7 => cases h
  -- hours and minutes behind a sign, whichever it is
  all_goals
    obtain ⟨⟨hours, r⟩, -, h⟩ := Option.bind_eq_some_iff.mp h
    obtain ⟨⟨minutes, r'⟩, -, h⟩ := Option.bind_eq_some_iff.mp h
    dsimp only at h
    split at h
    · cases h
    · next hbounds =>
        have hsmall : minutes < 60 ∧ hours < 24 := by
          rw [not_or, not_or] at hbounds
          omega
        cases h
        simp only [Bool.false_eq_true, if_true, if_false]
        omega

theorem timeOfDay?_lt {second micros : Nat} (h : timeOfDay? t = some (second, micros, r)) :
    second < 86400 ∧ micros < 1000000 := by
  unfold timeOfDay? at h
  obtain ⟨⟨hour, r₁⟩, -, h⟩ := Option.bind_eq_some_iff.mp h
  dsimp only at h
  split at h
  · obtain ⟨⟨minute, r₂⟩, -, h⟩ := Option.bind_eq_some_iff.mp h
    dsimp only at h
    split at h
    · cases h
    · split at h
      · obtain ⟨⟨second', r₃⟩, -, h⟩ := Option.bind_eq_some_iff.mp h
        obtain ⟨⟨micros', r₄⟩, hmicros, h⟩ := Option.bind_eq_some_iff.mp h
        dsimp only at h
        split at h
        · cases h
        · cases h
          exact ⟨by omega, micros?_lt hmicros⟩
      · cases h
        exact ⟨by omega, by decide⟩
  · cases h

theorem isValid_of_date? {d : Date} (h : date? t = some (d, r)) : d.isValid = true := by
  unfold date? at h
  obtain ⟨⟨year, r₁⟩, -, h⟩ := Option.bind_eq_some_iff.mp h
  dsimp only at h
  split at h
  · obtain ⟨⟨month, r₂⟩, -, h⟩ := Option.bind_eq_some_iff.mp h
    dsimp only at h
    split at h
    · obtain ⟨⟨day, r₃⟩, -, h⟩ := Option.bind_eq_some_iff.mp h
      dsimp only at h
      split at h
      · next hvalid =>
          cases h
          exact hvalid
      · cases h
    · cases h
  · cases h

theorem isWritable_of_written? (h : written? t = some s) : s.IsWritable := by
  unfold written? at h
  obtain ⟨⟨date, r⟩, hdate, h⟩ := Option.bind_eq_some_iff.mp h
  have hvalid := isValid_of_date? hdate
  have htime : ∀ u : Text, (timeOfDay? u).bind (fun time =>
      (ahead? time.2.2).bind fun ahead => some ⟨.ofDate date time.1 time.2.1, ahead⟩) = some s → s.IsWritable := by
    intro u hu
    obtain ⟨⟨second, micros, r⟩, htime, hu⟩ := Option.bind_eq_some_iff.mp hu
    obtain ⟨ahead, hahead, hsame⟩ := Option.bind_eq_some_iff.mp hu
    obtain ⟨hsecond, hmicros⟩ := timeOfDay?_lt htime
    cases hsame
    exact ⟨Moment.inCalendar_ofDate hvalid hsecond hmicros, aheadWritable_of_ahead? hahead⟩
  dsimp only at h
  split at h
  · cases h
    exact ⟨Moment.inCalendar_ofDate hvalid (by decide) (by decide), nofun⟩
  · exact htime _ h
  · exact htime _ h
  · exact htime _ h
  · exact htime _ h
  · cases h

/-- What is read of a value can be written, and read back. -/
theorem isWritable_of_ofValue? {v : Value} (h : ofValue? v = some s) : s.IsWritable := by
  unfold ofValue? at h
  split at h
  · next t =>
      unfold ofText? at h
      cases hwritten : written? t with
      | some found =>
          rw [hwritten] at h
          cases h
          exact isWritable_of_written? hwritten
      | none =>
          rw [hwritten] at h
          exact isWritable_of_counted? h
  · exact isWritable_of_ofSeconds? h
  · exact isWritable_of_ofDouble? h
  · cases h

end Stamp

end ChatFlow
