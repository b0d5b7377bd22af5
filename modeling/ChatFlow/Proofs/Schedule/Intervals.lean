import ChatFlow.Proofs.Double.Seconds
import ChatFlow.Proofs.Schedule.Records

/-!
# Intervals between runs

A task in intervals is run by a tick when its interval has passed since its last run, and not before, by whatever it
was run last. The seconds that have passed are counted as a double; this makes no difference for intervals of up to
2³⁴ seconds, above which a run may come a microsecond early. A task with no interval, or with one that is not
positive, is never due.

* `Task.interval_of_isDueAt`, `Task.isDueAt_of_interval`: when a task in intervals is due.
* `Scheduler.intervals_kept`: its runs by ticks.
* `Scheduler.interval_not_kept`: tasks that are not run, or are run too early.
-/

namespace ChatFlow

/-! ## When a task in intervals is due -/

/-- Between two moments of the calendar lie less than 2⁵³ seconds. -/
theorem Moment.seconds_lt {p now : Moment} (hp : p.inCalendar = true) (hnow : now.inCalendar = true) {n : Int}
    (h : p.micros + n * perSecond ≤ now.micros) : n ≤ 2 ^ 53 := by
  rw [inCalendar, Bool.and_eq_true, decide_eq_true_eq, decide_eq_true_eq] at hp hnow
  have hfirst : first.micros = -62135596800000000 := by decide
  have hpast : past.micros = 253402300800000000 := by decide
  rw [hfirst, hpast] at hp hnow
  unfold perSecond at h
  omega

namespace Task

variable {t : Task} {now p : Moment} {last : Option Moment}

/-- The last run of a task lies in the calendar, if it can be read back. -/
theorem Recordable.inCalendar (h : t.Recordable) (hlast : t.lastMoment = .ok (some p)) : p.inCalendar = true := by
  unfold lastMoment at hlast
  split at hlast
  · cases hlast
  · next s hs =>
      have hwritable := h s hs
      cases hlocal : s.toLocal with
      | error fault =>
          rw [hlocal] at hlast
          cases hlast
      | ok m =>
          rw [hlocal] at hlast
          cases hlast
          unfold Stamp.toLocal at hlocal
          split at hlocal
          · cases hlocal
            exact hwritable.reading
          · dsimp only at hlocal
            split at hlocal
            · next hcalendar =>
                cases hlocal
                exact hcalendar
            · cases hlocal

/-- A task in intervals that is due has a positive interval, which has passed since its last run. -/
theorem interval_of_isDueAt (hkind : t.kind = .interval) (hdue : t.isDueAt now last = true) :
    ∃ n, t.intervalSeconds = some n ∧ 0 < n ∧
      ∀ p, last = some p → n ≤ 2 ^ 34 → p.micros + n * Moment.perSecond ≤ now.micros := by
  have hinterval : t.isIntervalDue now last = true := by
    rw [isDueAt, hkind] at hdue
    exact hdue
  unfold isIntervalDue at hinterval
  split at hinterval
  · cases hinterval
  · next n hn =>
      rw [Bool.and_eq_true, decide_eq_true_eq] at hinterval
      obtain ⟨hpos, hpassed⟩ := hinterval
      refine ⟨n, hn, hpos, ?_⟩
      rintro p rfl hmost
      refine Int.not_lt.mp ?_
      intro hearly
      -- what has passed would be less than the interval, and the double as well
      have hless : now.micros - p.micros < n * 1000000 := by
        unfold Moment.perSecond at hearly
        omega
      rw [Option.all_some, secondsBetween, Double.compareInt?_of_micros_lt hpos hmost hless] at hpassed
      cases hpassed

/-- A task with a positive interval is due when that has passed since its last run, or if there was none. -/
theorem isDueAt_of_interval (hkind : t.kind = .interval) {n : Int} (hn : t.intervalSeconds = some n) (hpos : 0 < n)
    (hnow : now.inCalendar = true) (hlast : ∀ p, last = some p → p.inCalendar = true)
    (hpassed : ∀ p, last = some p → p.micros + n * Moment.perSecond ≤ now.micros) : t.isDueAt now last = true := by
  have hseconds : ∀ p, last = some p → ((secondsBetween p now).compareInt? n != some .lt) = true := by
    intro p hp
    have hbehind := hpassed p hp
    have hmost := Moment.seconds_lt (hlast p hp) hnow hbehind
    rw [bne_iff_ne]
    intro hless
    have hearly := Double.micros_lt_of_compareInt? hpos hmost hless
    unfold Moment.perSecond at hbehind
    omega
  have hinterval : t.isDueAt now last = t.isIntervalDue now last := by rw [isDueAt, hkind]
  rw [hinterval, isIntervalDue, hn]
  dsimp only
  rw [decide_eq_true hpos, Bool.true_and]
  cases last with
  | none => rfl
  | some p =>
      rw [Option.all_some]
      exact hseconds p rfl

end Task

namespace Scheduler

variable {t : Task} {id : Text} {r : Round} {before earlier : List Round} {f : File}

/-- Whatever was done before a task in intervals came to be there, and whatever else is run and switched then at
times that stand still while tasks run: a tick that runs the task does so at its time, and the task has a positive
interval that has passed since its last run, by a tick or by hand; and a tick that serves the task runs it, if the
interval is positive and has passed since the last run, or if there was none. -/
theorem intervals_kept (hget : (along before (ofFile f)).tasks.get? id = some t) (hkind : t.kind = .interval)
    (hkeeps : ∀ r' ∈ earlier, r'.keepsTasks = true) (htick : r.isTick = true)
    (hstill : Course.Keeps r.course (· = ·)) (hclock : ∀ r' ∈ before ++ earlier ++ [r], r'.InCalendar) :
    let s := along before (ofFile f)
    (∀ m ∈ timesOf id (r.finishes (along earlier s)), m = r.clock ∧ ∃ n last, t.intervalSeconds = some n ∧ 0 < n ∧
        lastEnd t earlier s = .ok last ∧
        ∀ p, last = some p → n ≤ 2 ^ 34 → p.micros + n * Moment.perSecond ≤ r.clock.micros) ∧
      ∀ n, t.intervalSeconds = some n → 0 < n → r.Serves id (along earlier s) →
        (∀ p, lastEnd t earlier s = .ok (some p) → p.micros + n * Moment.perSecond ≤ r.clock.micros) →
          ∃ m, m ∈ timesOf id (r.finishes (along earlier s)) := by
  intro s
  have htidy : (along earlier s).Tidy := by
    have hrounds : ∀ r' ∈ before ++ earlier, r'.InCalendar := fun r' hr' => hclock r' (List.mem_append_left _ hr')
    rw [← along_append]
    exact (tidy_ofFile f).along hrounds
  have hkeyed : Keyed s.tasks := (keyed_ofFile f).along before
  obtain ⟨u, hu, hlastMoment, hdueAt⟩ := exists_along hkeyed hkeeps hget
  constructor
  · intro m hm
    obtain ⟨-, last, hlast, hdue⟩ := Task.isCalled_iff.mp (Round.called_of_mem htidy.keyed htick hu hm)
    rw [hdueAt] at hdue
    obtain ⟨n, hn, hpos, hpassed⟩ := Task.interval_of_isDueAt hkind hdue
    have htime := (Round.clock_finishes hstill (along earlier s)).2 _ (mem_timesOf.mp hm)
    exact ⟨htime.1.symm, n, last, hn, hpos, hlastMoment.symm.trans hlast, hpassed⟩
  · intro n hn hpos hserves hpassed
    obtain ⟨last, hlast, hruns⟩ := hserves.exists_time htidy.keyed hu
    refine hruns ?_
    rw [hdueAt]
    have hr : r.InCalendar := hclock r (List.mem_append_right _ (List.mem_singleton_self r))
    have hrecordable : u.Recordable := htidy.recordable _ (Fields.mem_of_get? hu)
    have hend : ∀ p, last = some p → u.lastMoment = .ok (some p) := by
      rintro p rfl
      exact hlast
    refine Task.isDueAt_of_interval hkind hn hpos hr.clock ?_ ?_
    · exact fun p hp => hrecordable.inCalendar (hend p hp)
    · exact fun p hp => hpassed p (hlastMoment.symm.trans (hend p hp))

/-- A task that runs in intervals of some seconds. -/
def sampleInterval (seconds : Int) (lastRun : Option Stamp) : Task :=
  { sampleTask "b" "" with kind := .interval, dailyTime := none, intervalSeconds := some seconds, lastRun := lastRun }

/-- An hour after the task was run by hand a tick comes, and another one before. -/
theorem intervals_kept_of_sample :
    let before := [(sampleTurn (.add (sampleInterval 3600 none).toValue) 0 0 0).round]
    let earlier := [(sampleTurn (.runNow "b") 0 420 0).round, (sampleTurn .tick 0 450 0).round]
    let r := (sampleTurn .tick 0 480 0).round
    let t := sampleInterval 3600 none
    let s := along before (ofFile .absent)
    (s.tasks.get? "b" = some t ∧ t.kind = .interval ∧ (∀ r' ∈ earlier, r'.keepsTasks = true) ∧ r.isTick = true ∧
        Course.Keeps r.course (· = ·) ∧ ∀ r' ∈ before ++ earlier ++ [r], r'.InCalendar) ∧
      r.Serves "b" (along earlier s) ∧
      ∃ m, m ∈ timesOf "b" (r.finishes (along earlier s)) ∧ m = r.clock ∧ ∃ n last, t.intervalSeconds = some n ∧
        lastEnd t earlier s = .ok last ∧
        ∀ p, last = some p → n ≤ 2 ^ 34 → p.micros + n * Moment.perSecond ≤ r.clock.micros := by
  intro before earlier r t s
  have hstart : s.tasks.get? "b" = some t ∧ (∀ r' ∈ earlier, r'.keepsTasks = true) ∧
      lastEnd t earlier s = .ok (some ⟨25200000000⟩) ∧ r.isWhole (along earlier s) = true ∧
      ((along earlier s).tasks.get? "b").any (·.enabled) = true ∧
      ∀ e ∈ r.starts (along earlier s), e.id = "b" → (e.finish? r.course).isSome = true := by
    decide +kernel
  obtain ⟨hget, hkeeps, hlast, hwhole, henabled, hable⟩ := hstart
  have hstill : Course.Keeps r.course (· = ·) := sampleHost.course_keeps
  have hclock : ∀ r' ∈ before ++ earlier ++ [r], r'.InCalendar := by
    intro r' hr'
    simp only [before, earlier, List.cons_append, List.nil_append, List.mem_cons, List.not_mem_nil, or_false] at hr'
    rcases hr' with rfl | rfl | rfl | rfl
    · exact Turn.inCalendar_round (by decide +kernel)
    · exact Turn.inCalendar_round (by decide +kernel)
    · exact Turn.inCalendar_round (by decide +kernel)
    · exact Turn.inCalendar_round (by decide +kernel)
  have hserves : r.Serves "b" (along earlier s) := ⟨rfl, hwhole, henabled, hable⟩
  have hpassed : ∀ p, lastEnd t earlier s = .ok (some p) → p.micros + 3600 * Moment.perSecond ≤ r.clock.micros := by
    intro p hp
    cases hlast.symm.trans hp
    decide +kernel
  obtain ⟨hspaced, hserved⟩ := intervals_kept hget rfl hkeeps rfl hstill hclock
  obtain ⟨m, hm⟩ := hserved 3600 rfl (by decide) hserves hpassed
  obtain ⟨htime, n, last, hn, -, hlast, hall⟩ := hspaced m hm
  exact ⟨⟨hget, rfl, hkeeps, rfl, hstill, hclock⟩, hserves, m, hm, htime, n, last, hn, hlast, hall⟩

/-- A task with an interval of no seconds has never run, and no tick runs it. A task with an interval of 2³⁴ seconds
and one is run a microsecond before that has passed. And a task with another one before it, of which the last run lies
outside of the calendar, is not run. -/
theorem interval_not_kept :
    let r := (sampleTurn .tick 0 480 0).round
    let opened : List Task → Scheduler := fun ts =>
      ofFile (File.absent.writeDocument (.object (ts.map fun t => (t.id, t.toValue)))).2
    let last : Moment := ⟨r.clock.micros - (2 ^ 34 + 1) * Moment.perSecond + 1⟩
    let zero := opened [sampleInterval 0 none]
    let long := opened [sampleInterval (2 ^ 34 + 1) (some ⟨last, none⟩)]
    let behind := opened [sampleOld, sampleInterval 3600 none]
    (zero.tasks.get? "b" = some (sampleInterval 0 none) ∧ r.Serves "b" zero ∧
        timesOf "b" (r.finishes zero) = []) ∧
      (lastEnd (sampleInterval (2 ^ 34 + 1) (some ⟨last, none⟩)) [] long = .ok (some last) ∧
        timesOf "b" (r.finishes long) = [r.clock] ∧
        ¬ last.micros + (2 ^ 34 + 1) * Moment.perSecond ≤ r.clock.micros) ∧
      behind.tasks.get? "b" = some (sampleInterval 3600 none) ∧ timesOf "b" (r.finishes behind) = [] := by
  intro r opened last zero long behind
  have hzero : zero.tasks.get? "b" = some (sampleInterval 0 none) ∧ (r.isWhole zero = true ∧
      (zero.tasks.get? "b").any (·.enabled) = true ∧
      ∀ e ∈ r.starts zero, e.id = "b" → (e.finish? r.course).isSome = true) ∧
      timesOf "b" (r.finishes zero) = [] := by
    decide +kernel
  obtain ⟨hget, ⟨hwhole, henabled, hable⟩, hidle⟩ := hzero
  refine ⟨⟨hget, ⟨rfl, hwhole, henabled, hable⟩, hidle⟩, ?_, ?_⟩
  · decide +kernel
  · decide +kernel

end Scheduler

end ChatFlow
