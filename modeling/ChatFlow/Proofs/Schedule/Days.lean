import ChatFlow.Proofs.Schedule.Documents
import ChatFlow.Proofs.Schedule.Periods
import ChatFlow.Proofs.Schedule.Rounds

/-!
# Every day, while runs take their time

A daily task is due in its minute, unless its last run ended on the same day. What is noted of a run is the time of its
end, so a run counts for the day on which it ends. If all runs of a task that end on a day were begun on it, by ticks,
then the task is run on the day as soon as a tick comes in its minute; but a run that goes on past midnight takes the
place of the run of the day on which it ends.

* `Task.isDueAt_daily`: when a daily task is due.
* `Scheduler.ran_on_day`: days on which a daily task is run by a tick.
* `Scheduler.skipped_after_midnight`: a day on which it is not.
-/

namespace ChatFlow

/-- In its minute, on one of its days, a daily task is due unless it ran last on the same day. -/
theorem Task.isDueAt_daily {t : Task} (hkind : t.kind = .daily) {now : Moment}
    (htime : t.dailyTime = some now.clockText) (hday : t.runsOn now.weekday = true) (last : Option Moment) :
    t.isDueAt now last = true ↔ ∀ m, last = some m → m.day ≠ now.day := by
  have hdaily : t.isDueAt now last = t.isDailyDue now last := by rw [isDueAt, hkind]
  rw [hdaily, isDailyDue, decide_eq_true htime, hday, Bool.true_and, Bool.true_and]
  cases last with
  | none => simp
  | some m => simp

namespace Scheduler

variable {t : Task} {id : Text} {r : Round} {before earlier : List Round} {f : File}

/-- Whatever was done before a daily task came to be there, and whatever else is run and switched then, however long
runs take: on the day of a tick that serves the task in its minute, the task is run by a tick that begins on that day,
unless a run of it ended on that day that was begun by hand or on another day, or is recorded to have ended on it. -/
theorem ran_on_day (hget : (along before (ofFile f)).tasks.get? id = some t) (hkind : t.kind = .daily)
    (hkeeps : ∀ r' ∈ earlier, r'.keepsTasks = true)
    (hserves : r.Serves id (along earlier (along before (ofFile f))))
    (htime : t.dailyTime = some r.clock.clockText) (hday : t.runsOn r.clock.weekday = true)
    (hbegun : ∀ e ∈ history id earlier (along before (ofFile f)), e.2.day = r.clock.day →
      e.1.isTick = true ∧ e.1.clock.day = r.clock.day)
    (hrecorded : ∀ m, t.lastMoment = .ok (some m) → m.day ≠ r.clock.day) :
    ∃ e ∈ history id (earlier ++ [r]) (along before (ofFile f)), e.1.isTick = true ∧ e.1.clock.day = r.clock.day := by
  generalize hs : along before (ofFile f) = s at *
  have hkeyed : Keyed s.tasks := by
    rw [← hs]
    exact (keyed_ofFile f).along before
  obtain ⟨u, hu, hlastMoment, hdueAt⟩ := exists_along hkeyed hkeeps hget
  obtain ⟨last, hlast, hruns⟩ := hserves.exists_time (hkeyed.along earlier) hu
  rw [hdueAt, Task.isDueAt_daily hkind htime hday] at hruns
  rw [hlastMoment, lastEnd] at hlast
  obtain rfl : t.id = id := hkeyed.id_of_get? hget
  rw [history_append]
  by_cases hfree : ∀ m, last = some m → m.day ≠ r.clock.day
  · -- the tick itself runs the task
    obtain ⟨m, hm⟩ := hruns hfree
    refine ⟨(r, m), List.mem_append_right _ ?_, hserves.isTick, rfl⟩
    rw [history, history, List.append_nil]
    exact List.mem_map_of_mem hm
  · -- a run of the task ended on the day before the tick began
    simp only [not_forall, not_not] at hfree
    obtain ⟨m, rfl, hsame⟩ := hfree
    cases hhistory : (history t.id earlier s).getLast? with
    | none =>
        rw [hhistory] at hlast
        exact absurd hsame (hrecorded m hlast)
    | some e =>
        rw [hhistory] at hlast
        cases hlast
        have hmem : e ∈ history t.id earlier s := List.mem_of_getLast? hhistory
        exact ⟨e, List.mem_append_left _ hmem, hbegun e hmem hsame⟩

/-- In this course every run takes a minute. -/
def sampleSlow : Course := fun t w world =>
  let (outcome, world) := sampleHost.course t w world
  (outcome, { world with clock := ⟨world.clock.micros + Moment.perMinute⟩ })

/-- A tick in this course, at a minute and a second of a day. -/
def sampleSlowTick (day minute second : Nat) : Round :=
  { (sampleTurn .tick day minute second).round with course := sampleSlow }

/-- On the first day the task is run at eight. It is switched off and on, and is run at eight on the second day. -/
theorem ran_on_day_of_sample :
    let before := [(sampleTurn (.add (sampleTask "b" "08:00").toValue) 0 0 0).round]
    let earlier := [sampleSlowTick 0 480 0, (sampleTurn (.toggle "b") 0 600 0).round,
      (sampleTurn (.toggle "b") 1 0 0).round]
    let r := sampleSlowTick 1 480 40
    let t := sampleTask "b" "08:00"
    let s := along before (ofFile .absent)
    (s.tasks.get? "b" = some t ∧ t.kind = .daily ∧ (∀ r' ∈ earlier, r'.keepsTasks = true) ∧
        r.Serves "b" (along earlier s) ∧ t.dailyTime = some r.clock.clockText ∧
        t.runsOn r.clock.weekday = true ∧
        (∀ e ∈ history "b" earlier s, e.2.day = r.clock.day → e.1.isTick = true ∧ e.1.clock.day = r.clock.day) ∧
        ∀ m, t.lastMoment = .ok (some m) → m.day ≠ r.clock.day) ∧
      ∃ e ∈ history "b" (earlier ++ [r]) s, e.1.isTick = true ∧ e.1.clock.day = r.clock.day := by
  intro before earlier r t s
  have hget : s.tasks.get? "b" = some t := by decide +kernel
  have hkeeps : ∀ r' ∈ earlier, r'.keepsTasks = true := by decide +kernel
  have hnow : (r.isWhole (along earlier s) = true ∧ ((along earlier s).tasks.get? "b").any (·.enabled) = true ∧
      ∀ e ∈ r.starts (along earlier s), e.id = "b" → (e.finish? r.course).isSome = true) ∧
      t.dailyTime = some r.clock.clockText ∧
      ∀ e ∈ history "b" earlier s, e.2.day = r.clock.day → e.1.isTick = true ∧ e.1.clock.day = r.clock.day := by
    decide +kernel
  obtain ⟨⟨hwhole, henabled, hable⟩, htime, hbegun⟩ := hnow
  have hserves : r.Serves "b" (along earlier s) := ⟨rfl, hwhole, henabled, hable⟩
  have hrecorded : ∀ m, t.lastMoment = .ok (some m) → m.day ≠ r.clock.day := nofun
  exact ⟨⟨hget, rfl, hkeeps, hserves, htime, rfl, hbegun, hrecorded⟩,
    ran_on_day hget rfl hkeeps hserves htime rfl hbegun hrecorded⟩

/-- A run that begins at 23:59 takes a minute, and ends on the next day. On that day no tick runs the task, though one
comes at 23:59 again: nothing else was done to the task, it is enabled, and it would come to its end. -/
theorem skipped_after_midnight :
    let t := sampleTask "b" "23:59"
    let s := ((ofFile .absent).add t.toValue).2
    let first := sampleSlowTick 0 1439 30
    let second := sampleSlowTick 1 1439 0
    (Adds (ofFile .absent) t.toValue t ∧ t.kind = .daily ∧ t.weekdays = none ∧
        Course.Keeps sampleSlow (fun m m' => m.micros ≤ m'.micros) ∧
        (first.clockAfter s).micros ≤ second.clock.micros) ∧
      (first.Serves "b" s ∧ t.dailyTime = some first.clock.clockText) ∧
      (second.Serves "b" (first.perform s) ∧ t.dailyTime = some second.clock.clockText ∧
        (Start.finish? second.course ⟨second.host, "b", first.perform s, second.world⟩).isSome = true) ∧
      ¬ ∃ e ∈ history "b" [first, second] s, e.1.isTick = true ∧ e.1.clock.day = second.clock.day := by
  intro t s first second
  have hadds : Adds (ofFile .absent) t.toValue t := ⟨⟨_, rfl, rfl⟩, by decide +kernel⟩
  have hkeeps : Course.Keeps sampleSlow (fun m m' => m.micros ≤ m'.micros) := by
    refine ⟨fun _ => Int.le_refl _, Int.le_trans, ?_⟩
    intro t w world
    have hstill : world.clock = (sampleHost.course t w world).2.clock := sampleHost.course_keeps.run t w world
    show world.clock.micros ≤ (sampleHost.course t w world).2.clock.micros + Moment.perMinute
    rw [← hstill]
    exact Int.le_add_of_nonneg_right (by decide)
  have hfirst : (first.clockAfter s).micros ≤ second.clock.micros ∧
      (first.isWhole s = true ∧ (s.tasks.get? "b").any (·.enabled) = true ∧
        ∀ e ∈ first.starts s, e.id = "b" → (e.finish? first.course).isSome = true) ∧
      t.dailyTime = some first.clock.clockText := by
    decide +kernel
  have hsecond : (second.isWhole (first.perform s) = true ∧
      ((first.perform s).tasks.get? "b").any (·.enabled) = true ∧
        ∀ e ∈ second.starts (first.perform s), e.id = "b" → (e.finish? second.course).isSome = true) ∧
      (t.dailyTime = some second.clock.clockText ∧
        (Start.finish? second.course ⟨second.host, "b", first.perform s, second.world⟩).isSome = true) ∧
      ¬ ∃ e ∈ history "b" [first, second] s, e.1.isTick = true ∧ e.1.clock.day = second.clock.day := by
    decide +kernel
  obtain ⟨horder, ⟨hwhole₁, henabled₁, hable₁⟩, htime₁⟩ := hfirst
  obtain ⟨⟨hwhole₂, henabled₂, hable₂⟩, hready, hskipped⟩ := hsecond
  exact ⟨⟨hadds, rfl, rfl, hkeeps, horder⟩, ⟨⟨rfl, hwhole₁, henabled₁, hable₁⟩, htime₁⟩,
    ⟨⟨rfl, hwhole₂, henabled₂, hable₂⟩, hready⟩, hskipped⟩

end Scheduler

end ChatFlow
