import ChatFlow.Proofs.Schedule.Documents
import ChatFlow.Proofs.Schedule.Periods
import ChatFlow.Proofs.Text.Integers

/-!
# What is accepted, and when it is due

What is sent is judged as it is sent, and the task is read of it by readers of its own. Where both accept, they agree:
the time of a daily task is the text that was judged, and the interval is the number of seconds that was. So a task in
intervals is due at once. A daily task is due in its minute on one of its days, if there is such a minute: the
judgement lets through digits of other scripts and a line end behind the time, which no clock shows, and it does not
look at the days, which need not be days of the week.

* `Text.padded_two`: numbers in two digits.
* `Moment.exists_at`: every minute of every weekday comes.
* `Scheduler.Adds.exists_readOf`: an accepted task, and what was sent of it.
* `Scheduler.dailyTime_of_sent`, `Scheduler.intervalSeconds_of_sent`: the readers agree with the judgement.
* `Task.NamesTime`: the time and the days of a daily task are such as come.
* `Scheduler.due_of_accepted`: when accepted tasks are due.
* `Scheduler.accepted_in_vain`: accepted tasks that are never due.
-/

namespace ChatFlow

variable {c : CodePoint} {u : Text}

/-! ## Times of day -/

/-- The only decimal digits of ASCII are those of documents. -/
theorem CodePoint.isDigit_of_isDecimal (hdecimal : c.isDecimal = true) (hascii : c.toNat < 128) :
    Json.isDigit c = true := by
  have hfirsts : ∀ first ∈ Unicode.zeros, first < 128 → first = 0x30 := by decide +kernel
  rw [isDecimal, decimal?, Option.isSome_map] at hdecimal
  obtain ⟨first, hfirst⟩ := Option.isSome_iff_exists.mp hdecimal
  have hblock := List.find?_some hfirst
  rw [Bool.and_eq_true, decide_eq_true_eq, decide_eq_true_eq] at hblock
  rw [hfirsts first (List.mem_of_find?_eq_some hfirst) (by omega)] at hblock
  rw [Json.isDigit, decide_eq_true hblock.1, decide_eq_true (by omega)]
  rfl

/-- A digit is the character of its number. -/
theorem CodePoint.eq_digitChar (h : Json.isDigit c = true) : c = .scalar (Nat.digitChar (c.toNat - 0x30)) := by
  have hchars : ∀ k < 10, Nat.digitChar k = Char.ofNat (0x30 + k) := by decide
  rw [Json.isDigit, Bool.and_eq_true, decide_eq_true_eq, decide_eq_true_eq] at h
  rw [hchars _ (by omega)]
  have hnumber : 0x30 + (c.toNat - 0x30) = c.toNat := by omega
  rw [hnumber]
  cases c with
  | scalar ch => exact congrArg scalar (Char.ofNat_toNat ch).symm
  | surrogate n =>
      change 0x30 ≤ 0xD800 + n.val ∧ 0xD800 + n.val ≤ 0x39 at h
      omega

/-- Two digits write the number that they do in documents. -/
theorem Text.padded_two {a b : CodePoint} (ha : Json.isDigit a = true) (hb : Json.isDigit b = true) :
    padded 2 ((a.toNat - 0x30) * 10 + (b.toNat - 0x30)) = [a, b] := by
  have htwo : ∀ p < 10, ∀ q < 10,
      padded 2 (p * 10 + q) = [.scalar (Nat.digitChar p), .scalar (Nat.digitChar q)] := by decide +kernel
  have hbounds : ∀ {d : CodePoint}, Json.isDigit d = true → d.toNat - 0x30 < 10 := by
    intro d hd
    rw [Json.isDigit, Bool.and_eq_true, decide_eq_true_eq, decide_eq_true_eq] at hd
    omega
  rw [htwo _ (hbounds ha) _ (hbounds hb), ← CodePoint.eq_digitChar ha, ← CodePoint.eq_digitChar hb]

/-- A minute of the day comes on every weekday. -/
theorem Moment.exists_at {weekday hour minute : Nat} (hweekday : weekday < 7) (hhour : hour < 24)
    (hminute : minute < 60) :
    ∃ now : Moment, now.inCalendar = true ∧ now.weekday = weekday ∧
      now.clockText = Text.padded 2 hour ++ ":" ++ Text.padded 2 minute := by
  -- the fourth day of the count is a Sunday
  let now : Moment := ⟨(((weekday + 3) * 1440 + hour * 60 + minute) * 60 * 1000000 : Nat)⟩
  have hday : now.day = (weekday : Int) + 3 := by
    show (((weekday + 3) * 1440 + hour * 60 + minute) * 60 * 1000000 : Nat) / (86400000000 : Int) = _
    omega
  have hsecond : now.secondOfDay = hour * 3600 + minute * 60 := by
    show ((((weekday + 3) * 1440 + hour * 60 + minute) * 60 * 1000000 : Nat) / (1000000 : Int) % 86400).toNat = _
    omega
  refine ⟨now, ?_, ?_, ?_⟩
  · rw [inCalendar_iff, hday]
    omega
  · rw [Moment.weekday, hday, weekdayOf]
    omega
  · have hhourOf : now.hour = hour := by
      rw [Moment.hour, hsecond]
      omega
    have hminuteOf : now.minuteOfHour = minute := by
      rw [minuteOfHour, hsecond]
      omega
    rw [clockText, hhourOf, hminuteOf]

theorem Moment.weekday_lt (m : Moment) : m.weekday < 7 := by
  rw [weekday, weekdayOf]
  omega

namespace Scheduler

/-- Is it an ASCII character, and no line end? -/
def isPlain (c : CodePoint) : Bool := c.isAscii fun ch => ch ≠ '\n'

theorem isDigit_of_isDigitTo {last : Char} (hlast : last.toNat ≤ 0x39) (h : isDigitTo last c = true) :
    Json.isDigit c = true ∧ c.toNat ≤ last.toNat := by
  cases c with
  | scalar ch =>
      have hbounds : ch.toNat < 128 ∧ 0x30 ≤ ch.toNat ∧ ch.toNat ≤ last.toNat := by
        simpa [isDigitTo, CodePoint.isAscii, Char.le_def, UInt32.le_iff_toNat_le] using h
      rw [Json.isDigit, CodePoint.toNat, decide_eq_true hbounds.2.1, decide_eq_true (by omega)]
      exact ⟨rfl, hbounds.2.2⟩
  | surrogate n => cases h

theorem isDigit_of_plain (hplain : isPlain c = true) (hdecimal : c.isDecimal = true) : Json.isDigit c = true := by
  apply CodePoint.isDigit_of_isDecimal hdecimal
  cases c with
  | scalar ch => exact of_decide_eq_true (Bool.and_eq_true_iff.mp hplain).1
  | surrogate n => cases hplain

/-- A time of day in plain characters is shown by the clock. -/
theorem exists_time_of_isTimeOfDay (h : isTimeOfDay u = true) (hplain : ∀ c ∈ u, isPlain c = true) :
    ∃ hour < 24, ∃ minute < 60, u = Text.padded 2 hour ++ ":" ++ Text.padded 2 minute := by
  have hend : u.withoutLineEnd = u := by
    rw [Text.withoutLineEnd, if_neg]
    intro hlast
    have hnewline := hplain _ (List.mem_of_getLast? hlast)
    cases hnewline
  unfold isTimeOfDay at h
  rw [hend] at h
  split at h
  · next a b c d =>
      simp only [List.mem_cons, List.not_mem_nil, or_false, forall_eq_or_imp, forall_eq] at hplain
      obtain ⟨-, hb, -, -, hd⟩ := hplain
      rw [Bool.and_eq_true, Bool.and_eq_true, Bool.or_eq_true, Bool.and_eq_true, Bool.and_eq_true] at h
      obtain ⟨⟨hhour, htens⟩, hones⟩ := h
      have hdigit : ∀ {e : CodePoint}, Json.isDigit e = true → 0x30 ≤ e.toNat ∧ e.toNat ≤ 0x39 := by
        intro e he
        rwa [Json.isDigit, Bool.and_eq_true, decide_eq_true_eq, decide_eq_true_eq] at he
      -- the first digit of each number is bounded by the pattern; the second is one of ASCII only because it is plain
      obtain ⟨hc, hfifties⟩ := isDigit_of_isDigitTo (by decide) htens
      have hd := isDigit_of_plain hd hones
      have hminute : (c.toNat - 0x30) * 10 + (d.toNat - 0x30) < 60 := by
        have hfive : c.toNat ≤ 0x35 := hfifties
        have hnine := hdigit hd
        omega
      have hboth : Json.isDigit a = true ∧ Json.isDigit b = true ∧
          (a.toNat - 0x30) * 10 + (b.toNat - 0x30) < 24 := by
        rcases hhour with ⟨ha, hdecimal⟩ | ⟨ha, hb'⟩
        · obtain ⟨ha, hone⟩ := isDigit_of_isDigitTo (by decide) ha
          have hone : a.toNat ≤ 0x31 := hone
          have hb := isDigit_of_plain hb hdecimal
          have hnine := hdigit hb
          exact ⟨ha, hb, by omega⟩
        · obtain rfl : a = .scalar '2' := beq_iff_eq.mp ha
          obtain ⟨hb, hthree⟩ := isDigit_of_isDigitTo (by decide) hb'
          have hthree : b.toNat ≤ 0x33 := hthree
          have htwo : CodePoint.toNat (.scalar '2') = 0x32 := rfl
          exact ⟨by decide, hb, by omega⟩
      obtain ⟨ha, hb, hhour⟩ := hboth
      refine ⟨_, hhour, _, hminute, ?_⟩
      rw [Text.padded_two ha hb, Text.padded_two hc hd]
      rfl
  · cases h

/-- The clock shows plain characters. -/
theorem isPlain_of_mem_clockText {m : Moment} (h : c ∈ m.clockText) : isPlain c = true := by
  rcases m.mem_clockText h with hdigit | rfl
  · rw [CodePoint.eq_digitChar hdigit]
    have hdigits : ∀ k < 10, isPlain (.scalar (Nat.digitChar k)) = true := by decide
    rw [Json.isDigit, Bool.and_eq_true, decide_eq_true_eq, decide_eq_true_eq] at hdigit
    exact hdigits _ (by omega)
  · decide

end Scheduler

/-! ## Tasks that are due -/

namespace Task

variable {t : Task} {time : Text} {stamp : Stamp} {n : Int}

/-- The time of day is in plain characters, and there are no days, or one of them is a day of the week. -/
def NamesTime (t : Task) : Prop :=
  (∀ time, t.dailyTime = some time → ∀ c ∈ time, Scheduler.isPlain c = true) ∧
    ∀ days, t.weekdays = some days → days ≠ [] → ∃ d ∈ days, 0 ≤ d ∧ d ≤ 6

theorem exists_runsOn_iff :
    (∃ weekday < 7, t.runsOn weekday = true) ↔
      ∀ days, t.weekdays = some days → days ≠ [] → ∃ d ∈ days, 0 ≤ d ∧ d ≤ 6 := by
  unfold runsOn
  split
  · next day days hdays =>
      constructor
      · rintro ⟨weekday, hweekday, hlisted⟩ days' hdays' -
        cases hdays.symm.trans hdays'
        exact ⟨weekday, List.contains_iff_mem.mp hlisted, by omega, by omega⟩
      · intro h
        obtain ⟨d, hd, hfirst, hlast⟩ := h _ hdays (List.cons_ne_nil _ _)
        refine ⟨d.toNat, by omega, List.contains_iff_mem.mpr ?_⟩
        rwa [Int.toNat_of_nonneg hfirst]
  · next hnone =>
      refine ⟨?_, fun _ => ⟨0, by decide, rfl⟩⟩
      rintro - days hdays hsome
      obtain ⟨day, rest, rfl⟩ := List.exists_cons_of_ne_nil hsome
      exact absurd hdays (hnone day rest)

/-- A task that has not run yet is due as of that. -/
theorem isDue_of_new (hlast : t.lastRun = none) {now : Moment} (hnow : stamp.toLocal = .ok now) :
    t.isDue stamp = .ok (t.isDueAt now none) := by
  rw [isDue, hnow, lastMoment, hlast]
  rfl

/-- A daily task that has not run yet is due at some moment, if it names a time that comes. -/
theorem exists_due (hkind : t.kind = .daily) (hlast : t.lastRun = none) (htime : t.dailyTime = some time)
    (haccepted : Scheduler.isTimeOfDay time = true) (h : t.NamesTime) :
    ∃ now : Moment, now.inCalendar = true ∧ t.isDue ⟨now, none⟩ = .ok true := by
  obtain ⟨hplain, hdays⟩ := h
  obtain ⟨hour, hhour, minute, hminute, rfl⟩ := Scheduler.exists_time_of_isTimeOfDay haccepted (hplain time htime)
  obtain ⟨weekday, hweekday, hruns⟩ := exists_runsOn_iff.mpr hdays
  obtain ⟨now, hcalendar, rfl, hclock⟩ := Moment.exists_at hweekday hhour hminute
  refine ⟨now, hcalendar, ?_⟩
  have hdue : t.isDueAt now none = t.isDailyDue now none := by rw [isDueAt, hkind]
  rw [isDue_of_new hlast rfl, hdue, isDailyDue, htime, hclock, hruns, decide_eq_true rfl]
  rfl

/-- A daily task that is ever due names a time that comes. -/
theorem namesTime_of_isDue (hkind : t.kind = .daily) (hdue : t.isDue stamp = .ok true) : t.NamesTime := by
  rw [isDue] at hdue
  cases hnow : stamp.toLocal with
  | error fault =>
      rw [hnow] at hdue
      cases hdue
  | ok now =>
      rw [hnow] at hdue
      cases hlast : t.lastMoment with
      | error fault =>
          rw [hlast] at hdue
          cases hdue
      | ok last =>
          rw [hlast] at hdue
          have hdaily : t.isDailyDue now last = true := by
            have hdueAt : t.isDueAt now last = true := Except.ok.inj hdue
            rwa [isDueAt, hkind] at hdueAt
          rw [isDailyDue, Bool.and_eq_true, Bool.and_eq_true, decide_eq_true_eq] at hdaily
          obtain ⟨⟨htime, hruns⟩, -⟩ := hdaily
          refine ⟨?_, exists_runsOn_iff.mp ⟨now.weekday, now.weekday_lt, hruns⟩⟩
          intro time htime' c hc
          cases htime.symm.trans htime'
          exact Scheduler.isPlain_of_mem_clockText hc

/-- A task with a positive interval that has not run yet is due at every moment. -/
theorem isDue_of_interval (hkind : t.kind = .interval) (hlast : t.lastRun = none) (hn : t.intervalSeconds = some n)
    (hpos : 0 < n) {now : Moment} (hnow : stamp.toLocal = .ok now) : t.isDue stamp = .ok true := by
  have hdue : t.isDueAt now none = t.isIntervalDue now none := by rw [isDueAt, hkind]
  rw [isDue_of_new hlast hnow, hdue, isIntervalDue, hn]
  dsimp only
  rw [decide_eq_true hpos]
  rfl

end Task

/-! ## What is sent and what is read -/

/-- A word for a kind is its name. -/
theorem Task.eq_kindLabel {k : TaskKind} (h : Fields.get? TaskKind.words u = some k) : u = k.label := by
  simp only [TaskKind.words, Fields.get?] at h
  split at h
  · next hword =>
      cases h
      exact hword.symm
  · split at h
    · next hword =>
        cases h
        exact hword.symm
    · split at h
      · next hword =>
          cases h
          exact hword.symm
      · cases h

namespace Check

theorem ofOption_eq_accepted {α : Type} {found : Option α} {a : α} : ofOption found = .accepted a ↔ found = some a := by
  cases found with
  | none => exact ⟨nofun, nofun⟩
  | some b =>
      constructor
      · rintro ⟨⟩
        rfl
      · rintro ⟨⟩
        rfl

/-- Where a value is an integer, and is read as one, it is read as that one. -/
theorem int_eq_of_exactInteger {v : Value} {m n : Int} (h : int v = .accepted m) (hexact : v.exactInteger = .ok n) :
    m = n := by
  cases v with
  | int k =>
      cases h
      cases hexact
      rfl
  | bool b =>
      cases h
      cases hexact
      rfl
  -- a double that is whole is cut to the integer that it is equal to
  | float x =>
      unfold int at h
      dsimp only at h
      split at h
      · next k hwhole hcut =>
          split at h
          · cases h
            have hnan : x ≠ .nan := by
              rintro rfl
              cases hwhole
            rw [Value.exactInteger, hcut] at hexact
            · cases hexact
              rfl
            · exact hnan
          · cases h
      · cases h
  | text t =>
      unfold int ofOption at h
      dsimp only at h
      split at h
      · next k hread =>
          cases h
          rw [Value.exactInteger] at hexact
          cases hinteger : t.toInteger? with
          | none =>
              rw [hinteger] at hexact
              cases hexact
          | some k' =>
              rw [hinteger] at hexact
              cases hexact
              exact integerText?_eq_of_toInteger? hread hinteger
      · cases h
  | null => cases h
  | bytes b => cases h
  | list items => cases h
  | object fields => cases h

/-- A field that may be missing is read as null then. -/
theorem fieldOr_nullable {α : Type} (fs : Fields Value) (name : Text) (part : Value → Check α) :
    fieldOr fs name none (nullable part) = nullable part ((fs.get? name).getD .null) := by
  rw [fieldOr]
  cases fs.get? name with
  | none => rfl
  | some v => rfl

end Check

namespace Scheduler

variable {s : Scheduler} {t : Task} {payload v : Value} {n : Int}

/-- The number that was sent is an integer, unless it counts for nothing. -/
theorem exactInteger_of_secondsSent (h : secondsSent v = .ok n) (hn : n ≠ 0) : v.exactInteger = .ok n := by
  unfold secondsSent at h
  split at h
  · cases h
  · have hvalue := Except.ok.inj h
    split at hvalue
    · cases hexact : v.exactInteger with
      | ok k =>
          rw [hexact] at hvalue
          exact congrArg Except.ok hvalue
      | error fault =>
          rw [hexact] at hvalue
          exact absurd hvalue.symm hn
    · exact absurd hvalue.symm hn

/-- The interval is the number of seconds that was judged. -/
theorem intervalSeconds_of_sent (h : secondsSent v = .ok n) (hn : n ≠ 0) {seconds : Option Int}
    (hread : Check.nullable Check.int v = .accepted seconds) : seconds = some n := by
  have hexact := exactInteger_of_secondsSent h hn
  unfold Check.nullable at hread
  split at hread
  · cases hexact
  · obtain ⟨k, hk, rfl⟩ := Check.map_eq_accepted.mp hread
    rw [Check.int_eq_of_exactInteger hk hexact]

/-- The time of day is the text that was judged. -/
theorem dailyTime_of_sent (h : textSent v = .ok u) (hu : isTimeOfDay u = true) {time : Option Text}
    (hread : Check.nullable Check.text v = .accepted time) : time = some u := by
  have htruthy : v.truthy = true := by
    by_contra hfalsy
    rw [textSent, if_neg hfalsy] at h
    cases h
    cases hu
  rw [textSent, if_pos htruthy] at h
  cases v with
  | text t =>
      cases h
      cases hread
      rfl
  -- a number is read as its literal, which is what was judged as well
  | int k =>
      cases hread
      have hplain : (Value.int k).plain = (Value.int k).literal false := rfl
      rw [hplain, Value.literal] at h
      split at h
      · cases h
      · cases h
        rfl
  | float x =>
      cases hread
      cases h
      rfl
  | null => cases htruthy
  | bool b => cases hread
  | bytes b => cases hread
  | list items => cases hread
  | object fields => cases hread

/-- A daily task is not accepted unless a time of day was sent, -/
theorem exists_textSent (hkind : payload.fieldOrNull "task_type" = .text "daily") (h : objection payload = .ok none) :
    ∃ u, textSent (payload.fieldOrNull "daily_time") = .ok u ∧ isTimeOfDay u = true := by
  unfold objection at h
  rw [hkind] at h
  dsimp only at h
  rw [if_pos rfl] at h
  cases hsent : textSent (payload.fieldOrNull "daily_time") with
  | error fault =>
      rw [hsent] at h
      cases h
  | ok u =>
      rw [hsent] at h
      refine ⟨u, rfl, ?_⟩
      by_contra hrefused
      have hreason := Except.ok.inj h
      rw [if_neg hrefused] at hreason
      cases hreason

/-- and one in intervals not unless the interval is long enough. -/
theorem exists_secondsSent (hkind : payload.fieldOrNull "task_type" = .text "interval")
    (h : objection payload = .ok none) :
    ∃ n, secondsSent (payload.fieldOrNull "interval_seconds") = .ok n ∧ shortestInterval ≤ n := by
  unfold objection at h
  rw [hkind] at h
  dsimp only at h
  rw [if_neg (by decide), if_pos rfl] at h
  cases hsent : secondsSent (payload.fieldOrNull "interval_seconds") with
  | error fault =>
      rw [hsent] at h
      cases h
  | ok n =>
      rw [hsent] at h
      refine ⟨n, rfl, ?_⟩
      by_contra hshort
      have hreason := Except.ok.inj h
      rw [if_pos (Int.not_le.mp hshort)] at hreason
      cases hreason

namespace Adds

variable (h : Adds s payload t)

include h

/-- Nothing was said against what was sent. -/
theorem unopposed : objection payload = .ok none := by
  obtain ⟨fs, rfl, ht⟩ := h.task
  have hdone : (s.addFields fs).1.map (·.success) = .ok true := h.done
  unfold addFields at hdone
  split at hdone
  · cases hdone
  · split at hdone
    · cases hdone
    · cases hdone
    · next hnone => exact hnone

/-- What the task has is read of what was sent, but for its switch and the record of its runs. -/
theorem exists_readOf :
    ∃ fs, t.ReadOf fs ∧ ∀ name, name ∉ (["enabled", "last_run", "run_count"] : List Text) →
      (fs.get? name).getD .null = payload.fieldOrNull name := by
  obtain ⟨fs, rfl, ht⟩ := h.task
  refine ⟨_, Task.readOf_of_check ht, ?_⟩
  intro name hname
  simp only [List.mem_cons, List.not_mem_nil, or_false, not_or] at hname
  obtain ⟨henabled, hlast, hcount⟩ := hname
  rw [Fields.get?_set, if_neg (Ne.symm hcount), Fields.get?_set, if_neg (Ne.symm hlast), Fields.get?_set,
    if_neg (Ne.symm henabled)]
  rfl

/-- The kind of the task is the one that was sent. -/
theorem kind_sent : payload.fieldOrNull "task_type" = .text t.kind.label := by
  obtain ⟨fs, hread, hsent⟩ := h.exists_readOf
  have hkind := hread.kind
  rw [← hsent "task_type" (by decide)]
  rw [Check.field] at hkind
  cases hget : Fields.get? fs "task_type" with
  | none =>
      rw [hget] at hkind
      cases hkind
  | some v =>
      rw [hget, Option.elim_some] at hkind
      unfold Check.word at hkind
      split at hkind
      · exact congrArg Value.text (Task.eq_kindLabel (Check.ofOption_eq_accepted.mp hkind))
      · cases hkind

/-- The time of a daily task is a time of day. -/
theorem dailyTime_eq (hkind : t.kind = .daily) : ∃ time, t.dailyTime = some time ∧ isTimeOfDay time = true := by
  obtain ⟨fs, hread, hsent⟩ := h.exists_readOf
  have htype := h.kind_sent
  rw [hkind] at htype
  obtain ⟨u, hu, htime⟩ := exists_textSent htype h.unopposed
  have hdaily := hread.dailyTime
  rw [Check.fieldOr_nullable, hsent "daily_time" (by decide)] at hdaily
  exact ⟨u, dailyTime_of_sent hu htime hdaily, htime⟩

/-- The interval of a task in intervals is long enough. -/
theorem intervalSeconds_eq (hkind : t.kind = .interval) : ∃ n, t.intervalSeconds = some n ∧ shortestInterval ≤ n := by
  obtain ⟨fs, hread, hsent⟩ := h.exists_readOf
  have htype := h.kind_sent
  rw [hkind] at htype
  obtain ⟨n, hn, hlong⟩ := exists_secondsSent htype h.unopposed
  have hseconds := hread.intervalSeconds
  rw [Check.fieldOr_nullable, hsent "interval_seconds" (by decide)] at hseconds
  have hsome : n ≠ 0 := by
    rintro rfl
    exact absurd hlong (by decide)
  exact ⟨n, intervalSeconds_of_sent hn hsome hseconds, hlong⟩

end Adds

/-- A task that is accepted stands under its id and has not run yet. If it is a daily one, then it is due at some moment
of the calendar, provided that it names a time that comes; if it does not, then it is never due. If it is one in
intervals, then the interval is a minute or longer, and the task is due at once. -/
theorem due_of_accepted (h : (s.add payload).1.map (·.success) = .ok true) :
    ∃ t, (s.add payload).2.tasks.get? t.id = some t ∧ payload.fieldOrNull "task_type" = .text t.kind.label ∧
      t.lastRun = none ∧
      (t.kind = .daily →
        (t.NamesTime → ∃ now : Moment, now.inCalendar = true ∧ t.isDue ⟨now, none⟩ = .ok true) ∧
          (¬ t.NamesTime → ∀ stamp, t.isDue stamp ≠ .ok true)) ∧
      (t.kind = .interval → ∃ n, t.intervalSeconds = some n ∧ 60 ≤ n ∧
        ∀ stamp now, stamp.toLocal = .ok now → t.isDue stamp = .ok true) := by
  obtain ⟨t, hadds⟩ := exists_adds h
  have hlast := hadds.lastRun_eq
  refine ⟨t, hadds.get?_eq, hadds.kind_sent, hlast, ?_, ?_⟩
  · intro hkind
    obtain ⟨time, htime, haccepted⟩ := hadds.dailyTime_eq hkind
    constructor
    · exact fun hnames => Task.exists_due hkind hlast htime haccepted hnames
    · exact fun hnames stamp hdue => hnames (Task.namesTime_of_isDue hkind hdue)
  · intro hkind
    obtain ⟨n, hn, hlong⟩ := hadds.intervalSeconds_eq hkind
    have hminute : (60 : Int) ≤ n := hlong
    exact ⟨n, hn, hminute, fun stamp now hnow => Task.isDue_of_interval hkind hlast hn (by omega) hnow⟩

/-- A daily task for Wednesdays, and for a day that is none. -/
def sampleWednesdays : Task := { sampleTask "a" "08:00" with weekdays := some [7, 3] }

/-- What was sent of a task in intervals, with the seconds as a text. -/
def sampleMinutely : Value :=
  .object [("id", .text "b"), ("workflow_id", .text "w"), ("target_id", .text "g"), ("target_type", .text "group"),
    ("task_type", .text "interval"), ("interval_seconds", .text " +6_0 ")]

theorem due_of_accepted_of_samples :
    let daily := (ofFile .absent).add sampleWednesdays.toValue
    let minutely := (ofFile .absent).add sampleMinutely
    (daily.1.map (·.success) = .ok true ∧ minutely.1.map (·.success) = .ok true) ∧
      (∃ t, daily.2.tasks.get? t.id = some t ∧ ∃ now : Moment, now.inCalendar = true ∧
        t.isDue ⟨now, none⟩ = .ok true) ∧
      ∃ t, minutely.2.tasks.get? t.id = some t ∧ ∀ now, t.isDue ⟨now, none⟩ = .ok true := by
  dsimp only
  have haccepted : ((ofFile .absent).add sampleWednesdays.toValue).1.map (·.success) = .ok true ∧
      ∀ e ∈ ((ofFile .absent).add sampleWednesdays.toValue).2.tasks, e.2 = sampleWednesdays := by
    decide +kernel
  have hinterval : ((ofFile .absent).add sampleMinutely).1.map (·.success) = .ok true ∧
      ∀ e ∈ ((ofFile .absent).add sampleMinutely).2.tasks, e.2.kind = .interval := by
    decide +kernel
  obtain ⟨hdaily, hwednesdays⟩ := haccepted
  obtain ⟨hminutely, hkind⟩ := hinterval
  refine ⟨⟨hdaily, hminutely⟩, ?_, ?_⟩
  · obtain ⟨t, hget, -, -, hdue, -⟩ := due_of_accepted hdaily
    obtain rfl : t = sampleWednesdays := hwednesdays _ (Fields.mem_of_get? hget)
    have hnames : sampleWednesdays.NamesTime := by
      constructor
      · rintro _ ⟨⟩
        decide +kernel
      · rintro _ ⟨⟩ -
        exact ⟨3, by decide, by decide, by decide⟩
    exact ⟨_, hget, (hdue rfl).1 hnames⟩
  · obtain ⟨t, hget, -, -, -, hdue⟩ := due_of_accepted hminutely
    obtain ⟨-, -, -, hnow⟩ := hdue (hkind _ (Fields.mem_of_get? hget))
    exact ⟨t, hget, fun now => hnow _ now rfl⟩

/-- A time with a line end behind it, a time with a digit of another script, and a day that is no day of the week: each
is accepted, and the task is never due. -/
theorem accepted_in_vain :
    let ended := sampleTask "a" "08:00\n"
    let foreign := sampleTask "a" [.scalar '0', .ofNat 0x668, .scalar ':', .scalar '0', .scalar '0']
    let eighth : Task := { sampleTask "a" "08:00" with weekdays := some [7] }
    ∀ t ∈ [ended, foreign, eighth], ((ofFile .absent).add t.toValue).1.map (·.success) = .ok true ∧
      ((ofFile .absent).add t.toValue).2.tasks.get? "a" = some t ∧ t.kind = .daily ∧ t.lastRun = none ∧
      ∀ stamp, t.isDue stamp ≠ .ok true := by
  intro ended foreign eighth t ht
  have haccepted : ∀ t ∈ [ended, foreign, eighth], ((ofFile .absent).add t.toValue).1.map (·.success) = .ok true ∧
      ((ofFile .absent).add t.toValue).2.tasks.get? "a" = some t ∧ t.kind = .daily ∧ t.lastRun = none := by
    decide +kernel
  have hnames : ∀ t ∈ [ended, foreign, eighth], ¬ t.NamesTime := by
    simp only [List.mem_cons, List.not_mem_nil, or_false, forall_eq_or_imp, forall_eq]
    refine ⟨?_, ?_, ?_⟩
    · intro h
      exact absurd (h.1 _ rfl (.scalar '\n') (by decide +kernel)) (by decide)
    · intro h
      exact absurd (h.1 _ rfl (.ofNat 0x668) (by decide +kernel)) (by decide +kernel)
    · intro h
      exact absurd (h.2 _ rfl (by decide)) (by decide)
  obtain ⟨hdone, hget, hkind, hlast⟩ := haccepted t ht
  exact ⟨hdone, hget, hkind, hlast, fun _ hdue => hnames t ht (Task.namesTime_of_isDue hkind hdue)⟩

end Scheduler

end ChatFlow
