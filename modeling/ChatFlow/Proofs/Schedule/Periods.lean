import ChatFlow.Proofs.Run.Traversal
import ChatFlow.Proofs.Schedule.Ticks

/-!
# Once a day, once a minute

A daily task has the day for its period, a task with a schedule the minute. Whatever ticks, runs by hand and
switches follow its adding, in the order of time, ticks run it at most once in each of its periods. They run it
exactly once in a period in which one of them calls it, unless it was run by hand before; a tick calls it if
its time fits and it is enabled and able to run.

A last run that lies outside of the calendar ends every tick that comes upon it, and then the tasks behind it
are not run. And an accepted time of day may have a line end, with which it fits no time.

* `Task.period`, `Task.timeFits`: the period of a task, and the times that it names.
* `Scheduler.Carries.step`: what a turn makes of the period of the last run.
* `Scheduler.timesRun`: how often a task ran in a period.
* `Scheduler.timesRun_once`: it runs at most once, and exactly once if it is called.
* `Scheduler.called_in_vain`: tasks that are not run.
-/

namespace ChatFlow

/-- A time of day is written with digits and a colon. -/
theorem Moment.mem_clockText (m : Moment) {c : CodePoint} (h : c ∈ m.clockText) :
    Json.isDigit c = true ∨ c = .scalar ':' := by
  have hpadded : ∀ {n : Nat}, c ∈ Text.padded 2 n → Json.isDigit c = true := by
    intro n hmem
    rcases List.mem_append.mp hmem with hzero | hdigit
    · rw [List.eq_of_mem_replicate hzero]
      rfl
    · exact Text.isDigit_of_mem_ofNat hdigit
  rcases List.mem_append.mp h with hhour | hminute
  · rcases List.mem_append.mp hhour with hhour | hcolon
    · exact .inl (hpadded hhour)
    · exact .inr (List.mem_singleton.mp hcolon)
  · exact .inl (hpadded hminute)

namespace Task

variable {t u : Task} {now now' : Moment} {last : Option Moment}

/-! ## Periods -/

/-- The period that a moment lies in: its day for a daily task, its minute for others. -/
def period (t : Task) (m : Moment) : Int :=
  match t.kind with
  | .daily => m.day
  | _ => m.minute

/-- Does the task name the time: the minute of a daily task on one of its days, or a minute of its schedule? -/
def timeFits (t : Task) (now : Moment) : Bool :=
  match t.kind with
  | .daily => t.dailyTime = some now.clockText && t.runsOn now.weekday
  | .cron => (t.cron.bind Cron.parse?).any fun c => c.fits now
  | .interval => false

theorem timeFits_of_ne (hkind : t.kind = .daily) (hne : t.dailyTime ≠ some now.clockText) :
    t.timeFits now = false := by
  simp [timeFits, hkind, hne]

/-- A task is due if its time fits and it did not run in that period. -/
theorem isDueAt_eq (hkind : t.kind ≠ .interval) (now : Moment) (last : Option Moment) :
    t.isDueAt now last = (t.timeFits now && last.all fun m => t.period m ≠ t.period now) := by
  unfold isDueAt timeFits period
  cases h : t.kind with
  | daily => rfl
  | interval => exact absurd h hkind
  | cron =>
      simp only [isCronDue]
      cases t.cron.bind Cron.parse? <;> rfl

theorem period_mono (t : Task) (h : now.micros ≤ now'.micros) : t.period now ≤ t.period now' := by
  unfold period
  split
  · exact Int.ediv_le_ediv (by decide) h
  · exact Int.ediv_le_ediv (by decide) h

/-- The second task is the first at another time: it may have been switched and may have run. -/
def Continues (t u : Task) : Prop :=
  ∃ enabled lastRun runCount, u = { t with enabled := enabled, lastRun := lastRun, runCount := runCount }

theorem Continues.refl (t : Task) : t.Continues t := ⟨t.enabled, t.lastRun, t.runCount, rfl⟩

theorem Continues.noted (h : t.Continues u) (now : Moment) : t.Continues (u.noted now) := by
  obtain ⟨enabled, lastRun, runCount, rfl⟩ := h
  exact ⟨enabled, some ⟨now, none⟩, runCount + 1, rfl⟩

theorem Continues.switched (h : t.Continues u) (enabled : Bool) : t.Continues { u with enabled := enabled } := by
  obtain ⟨_, lastRun, runCount, rfl⟩ := h
  exact ⟨enabled, lastRun, runCount, rfl⟩

theorem Continues.isAble_eq (h : t.Continues u) (host : TaskHost) (world : World) :
    u.isAble host world = t.isAble host world := by
  obtain ⟨enabled, lastRun, runCount, rfl⟩ := h
  rfl

/-- It is due at the same times. -/
theorem Continues.isDueAt_eq (h : t.Continues u) (hkind : t.kind ≠ .interval) (now : Moment)
    (last : Option Moment) :
    u.isDueAt now last = (t.timeFits now && last.all fun m => t.period m ≠ t.period now) := by
  obtain ⟨enabled, lastRun, runCount, rfl⟩ := h
  exact Task.isDueAt_eq hkind now last

end Task

namespace Scheduler

variable {s : Scheduler} {t : Task} {c : Turn} {later : List Turn} {p : Int} {byTick : Bool}

/-! ## What a turn does with a task -/

/-- The task is there, as it was or as it is by now, in a scheduler that can be written. -/
structure Carries (s : Scheduler) (t : Task) : Prop where
  keyed : Keyed s.tasks
  savable : s.Savable
  task : ∃ u, s.tasks.get? t.id = some u ∧ t.Continues u

/-- The last run of the task was in the period. -/
def RanIn (t : Task) (p : Int) (s : Scheduler) : Prop :=
  ∃ u last, s.tasks.get? t.id = some u ∧ u.lastMoment = .ok (some last) ∧ t.period last = p

section Step

variable (h : s.Carries t) (hkeeps : c.keepsTasks = true)

include h hkeeps

theorem Carries.perform : (c.perform s).Carries t := by
  obtain ⟨u, hget, hcontinues⟩ := h.task
  refine ⟨h.keyed.perform c, h.savable.perform hkeeps, ?_⟩
  have hid : u.id = t.id := h.keyed.id_of_get? hget
  rw [← hid] at hget ⊢
  rcases Turn.step h.keyed h.savable hkeeps hget with ⟨-, hnoted, -⟩ | ⟨-, enabled, hswitched⟩
  · exact ⟨_, hnoted, hcontinues.noted c.clock⟩
  · exact ⟨_, hswitched, hcontinues.switched enabled⟩

/-- A turn that runs a task does so in its period, and a tick only if the task did not run in it before. Another
turn leaves the last run as it was. -/
theorem Carries.step (hkind : t.kind ≠ .interval) :
    (runs t.id (c.starts s) = 1 ∧ (∀ p, RanIn t p (c.perform s) ↔ t.period c.clock = p) ∧
        (c.isTick = true → ¬ RanIn t (t.period c.clock) s)) ∨
      (runs t.id (c.starts s) = 0 ∧ ∀ p, RanIn t p (c.perform s) ↔ RanIn t p s) := by
  obtain ⟨u, hget, hcontinues⟩ := h.task
  have hid : u.id = t.id := h.keyed.id_of_get? hget
  have hget' : s.tasks.get? u.id = some u := by rw [hid]; exact hget
  rcases Turn.step h.keyed h.savable hkeeps hget' with ⟨hruns, hnoted, hcalled⟩ | ⟨hruns, enabled, hswitched⟩
  · rw [hid] at hruns hnoted
    refine .inl ⟨hruns, ?_, ?_⟩
    · -- the note has the time of the turn
      intro p
      constructor
      · rintro ⟨u', last, hu', hlast, hperiod⟩
        cases hnoted.symm.trans hu'
        cases hlast
        exact hperiod
      · intro hperiod
        exact ⟨_, c.clock, hnoted, rfl, hperiod⟩
    · -- a task is not called again in the period of its last run
      rintro htick ⟨u', last, hu', hlast, hperiod⟩
      cases hget.symm.trans hu'
      obtain ⟨-, last', hlast', hdue⟩ := Task.isCalled_iff.mp (hcalled htick)
      cases hlast.symm.trans hlast'
      rw [hcontinues.isDueAt_eq hkind, Bool.and_eq_true] at hdue
      exact absurd hperiod (by simpa using hdue.2)
  · -- a switch does not touch the note
    rw [hid] at hruns hswitched
    refine .inr ⟨hruns, ?_⟩
    intro p
    constructor
    · rintro ⟨u', last, hu', hlast, hperiod⟩
      cases hswitched.symm.trans hu'
      exact ⟨u, last, hget, hlast, hperiod⟩
    · rintro ⟨u', last, hu', hlast, hperiod⟩
      cases hget.symm.trans hu'
      exact ⟨_, last, hswitched, hlast, hperiod⟩

end Step

/-! ## Counting runs -/

/-- How often a task ran in a period: by ticks, or by hand. -/
def timesRun (t : Task) (p : Int) (byTick : Bool) : List Turn → Scheduler → Nat
  | [], _ => 0
  | c :: later, s =>
    (if c.isTick = byTick ∧ t.period c.clock = p then runs t.id (c.starts s) else 0)
      + timesRun t p byTick later (c.perform s)

/-- No turn of another period counts. -/
theorem timesRun_of_ne (hne : ∀ c ∈ later, t.period c.clock ≠ p) : timesRun t p byTick later s = 0 := by
  induction later generalizing s with
  | nil => rfl
  | cons c later ih =>
      obtain ⟨hc, hlater⟩ := List.forall_mem_cons.mp hne
      rw [timesRun, ih hlater, if_neg (fun h => hc h.2)]

theorem timesRun_of_run (htick : c.isTick = byTick) (hperiod : t.period c.clock = p)
    (hruns : runs t.id (c.starts s) = 1) :
    timesRun t p byTick (c :: later) s = 1 + timesRun t p byTick later (c.perform s) := by
  rw [timesRun, if_pos ⟨htick, hperiod⟩, hruns]

theorem timesRun_append (before later : List Turn) (s : Scheduler) :
    timesRun t p byTick (before ++ later) s =
      timesRun t p byTick before s + timesRun t p byTick later (past before s) := by
  induction before generalizing s with
  | nil => rw [List.nil_append, timesRun, past, Nat.zero_add]
  | cons c before ih => rw [List.cons_append, timesRun, timesRun, past, ih, Nat.add_assoc]

theorem Carries.past (h : s.Carries t) (hkeeps : ∀ c ∈ later, c.keepsTasks = true) :
    (past later s).Carries t := by
  induction later generalizing s with
  | nil => exact h
  | cons c later ih =>
      obtain ⟨hc, hlater⟩ := List.forall_mem_cons.mp hkeeps
      exact ih (h.perform hc) hlater

section Run

variable (h : s.Carries t) (hkind : t.kind ≠ .interval) (hkeeps : ∀ c ∈ later, c.keepsTasks = true)

include h hkind hkeeps

/-- A task that ran in a period was noted then, or was run by one of the turns. -/
theorem RanIn.of_past (hran : RanIn t p (past later s)) :
    RanIn t p s ∨ 0 < timesRun t p true later s ∨ 0 < timesRun t p false later s := by
  induction later generalizing s with
  | nil => exact .inl hran
  | cons c later ih =>
      obtain ⟨hc, hlater⟩ := List.forall_mem_cons.mp hkeeps
      rcases ih (h.perform hc) hlater hran with hnoted | hticks | hhand
      · -- the note was there after the first turn, so it was made by it or before
        rcases h.step hc hkind with ⟨hruns, hiff, -⟩ | ⟨-, hiff⟩
        · have hperiod := (hiff p).mp hnoted
          refine .inr ?_
          cases htick : c.isTick with
          | true =>
              rw [timesRun_of_run htick hperiod hruns]
              exact .inl (by omega)
          | false =>
              rw [timesRun_of_run htick hperiod hruns]
              exact .inr (by omega)
        · exact .inl ((hiff p).mp hnoted)
      · exact .inr (.inl (Nat.lt_of_lt_of_le hticks (Nat.le_add_left _ _)))
      · exact .inr (.inr (Nat.lt_of_lt_of_le hhand (Nat.le_add_left _ _)))

variable (hclock : later.Pairwise fun c d => c.clock.micros ≤ d.clock.micros)

include hclock

/-- Behind a run in a period, no tick runs the task in it again. -/
theorem timesRun_of_ranIn (hran : RanIn t p s) (hperiod : ∀ c ∈ later, p ≤ t.period c.clock) :
    timesRun t p true later s = 0 := by
  induction later generalizing s with
  | nil => rfl
  | cons c later ih =>
      obtain ⟨hc, hlater⟩ := List.forall_mem_cons.mp hkeeps
      obtain ⟨hp, hlaterPeriod⟩ := List.forall_mem_cons.mp hperiod
      obtain ⟨hfirst, hclock⟩ := List.pairwise_cons.mp hclock
      rw [timesRun]
      rcases h.step hc hkind with ⟨-, hiff, hnot⟩ | ⟨hruns, hiff⟩
      · by_cases hsame : t.period c.clock = p
        · -- it was not a tick, since the task ran in the period
          have htick : c.isTick ≠ true := fun htick => hnot htick (hsame ▸ hran)
          rw [if_neg (fun hand => htick hand.1), Nat.zero_add]
          exact ih (h.perform hc) hlater hclock ((hiff p).mpr hsame) hlaterPeriod
        · -- the period is over
          have hover : ∀ d ∈ later, t.period d.clock ≠ p := by
            intro d hd
            have hmono := t.period_mono (hfirst d hd)
            omega
          rw [if_neg (fun hand => hsame hand.2), timesRun_of_ne hover]
      · rw [hruns, ite_self, Nat.zero_add]
        exact ih (h.perform hc) hlater hclock ((hiff p).mpr hran) hlaterPeriod

/-- Ticks run a task at most once in a period. -/
theorem timesRun_le_one (p : Int) : timesRun t p true later s ≤ 1 := by
  induction later generalizing s with
  | nil => exact Nat.zero_le 1
  | cons c later ih =>
      obtain ⟨hc, hlater⟩ := List.forall_mem_cons.mp hkeeps
      obtain ⟨hfirst, hclock⟩ := List.pairwise_cons.mp hclock
      have hrest := ih (h.perform hc) hlater hclock
      rw [timesRun]
      rcases h.step hc hkind with ⟨hruns, hiff, -⟩ | ⟨hruns, -⟩
      · by_cases hsame : t.period c.clock = p
        · -- the task has run in the period, which is not over for the turns behind this one
          have hperiod : ∀ d ∈ later, p ≤ t.period d.clock := by
            intro d hd
            rw [← hsame]
            exact t.period_mono (hfirst d hd)
          rw [hruns, timesRun_of_ranIn (h.perform hc) hkind hlater hclock ((hiff p).mpr hsame) hperiod]
          split
          · exact Nat.le_refl 1
          · exact Nat.zero_le 1
        · rw [if_neg (fun hand => hsame hand.2), Nat.zero_add]
          exact hrest
      · rw [hruns, ite_self, Nat.zero_add]
        exact hrest

end Run

/-! ## Once in a period -/

/-- A tick calls a task: the task is enabled, its time fits, it is able to run when it is started, and no enabled
task ran last outside of the calendar. -/
structure Turn.Calls (c : Turn) (t : Task) (s : Scheduler) : Prop where
  isTick : c.isTick = true
  enabled : (s.tasks.get? t.id).any (·.enabled) = true
  timeFits : t.timeFits c.clock = true
  able : ∀ e ∈ c.starts s, e.id = t.id → t.isAble e.host e.state.2 = true
  readable : ∀ e ∈ s.tasks, e.2.enabled = true → e.2.lastMoment.isOk = true

instance (c : Turn) (t : Task) (s : Scheduler) : Decidable (c.Calls t s) :=
  decidable_of_iff
    (c.isTick = true ∧ (s.tasks.get? t.id).any (·.enabled) = true ∧ t.timeFits c.clock = true ∧
      (∀ e ∈ c.starts s, e.id = t.id → t.isAble e.host e.state.2 = true) ∧
      ∀ e ∈ s.tasks, e.2.enabled = true → e.2.lastMoment.isOk = true)
    ⟨fun ⟨htick, henabled, hfits, hable, hreadable⟩ => ⟨htick, henabled, hfits, hable, hreadable⟩,
      fun h => ⟨h.isTick, h.enabled, h.timeFits, h.able, h.readable⟩⟩

/-- A task that is called runs, if it did not run in the period. -/
theorem Carries.runs_of_calls (h : s.Carries t) (hkind : t.kind ≠ .interval) (hcalls : c.Calls t s)
    (hnot : ¬ RanIn t (t.period c.clock) s) : runs t.id (c.starts s) = 1 := by
  obtain ⟨deed, host, world⟩ := c
  obtain rfl : deed = .tick := Turn.deed_of_isTick hcalls.isTick
  obtain ⟨u, hget, hcontinues⟩ := h.task
  have hid : u.id = t.id := h.keyed.id_of_get? hget
  have hmem := Keyed.mem_of_get? hget
  have hreadable : ∀ v ∈ s.tasks.map Prod.snd, v.enabled = true → v.lastMoment.isOk = true := by
    intro v hv
    obtain ⟨e, he, rfl⟩ := List.mem_map.mp hv
    exact hcalls.readable e he
  have hcalled : u.isCalled world.clock = .ok true := by
    have henabled := hcalls.enabled
    rw [hget, Option.any_some] at henabled
    obtain ⟨last, hlast⟩ := Task.exists_last (hreadable u hmem henabled)
    refine Task.isCalled_iff.mpr ⟨henabled, last, hlast, ?_⟩
    have hfits : t.timeFits world.clock = true := hcalls.timeFits
    rw [hcontinues.isDueAt_eq hkind, hfits, Bool.true_and]
    cases last with
    | none => rfl
    | some m =>
        have hother : t.period m ≠ t.period world.clock := fun hsame => hnot ⟨u, m, hget, hlast, hsame⟩
        exact decide_eq_true hother
  rw [← hid] at hget
  rcases executeDue_task host world.clock (s, world) h.keyed.nodup_ids hmem h.savable hget with
      ⟨-, hruns, -⟩ | ⟨-, -, hwhy⟩
  · rw [← hid]
    exact hruns
  · obtain ⟨ids, hids⟩ := executeDue_ok host world.clock (s, world) h.savable hreadable
    rcases hwhy with hnotCalled | ⟨fault, hfault⟩ | ⟨e, he, hsame, hunable⟩
    · exact absurd hcalled hnotCalled
    · rw [hids] at hfault
      cases hfault
    · have hable := hcalls.able e he (hsame.trans hid)
      rw [hcontinues.isAble_eq, hable] at hunable
      cases hunable

theorem Adds.carries {payload : Value} (h : Adds s payload t) (hkeyed : Keyed s.tasks) :
    (s.add payload).2.Carries t :=
  ⟨hkeyed.add payload, h.savable, t, h.get?_eq, .refl t⟩

/-- After a daily task or one with a schedule was added, ticks run it at most once in each of its periods,
whatever else is run or switched, and exactly once in a period in which a tick calls it, unless it was run by
hand before. -/
theorem timesRun_once (f : File) (before : List Turn) (payload : Value)
    (hadds : Adds (past before (ofFile f)) payload t) (hkind : t.kind ≠ .interval)
    (hkeeps : ∀ c ∈ later, c.keepsTasks = true)
    (hclock : later.Pairwise fun c d => c.clock.micros ≤ d.clock.micros) :
    let s := ((past before (ofFile f)).add payload).2
    (∀ p, timesRun t p true later s ≤ 1) ∧
      ∀ earlier c rest, later = earlier ++ c :: rest → c.Calls t (past earlier s) →
        timesRun t (t.period c.clock) false earlier s = 0 →
          timesRun t (t.period c.clock) true later s = 1 := by
  intro s
  have hcarries : s.Carries t := hadds.carries ((keyed_ofFile f).past before)
  have honce := timesRun_le_one hcarries hkind hkeeps hclock
  refine ⟨honce, ?_⟩
  rintro earlier c rest rfl hcalls hhand
  refine Nat.le_antisymm (honce _) ?_
  have hearlier : ∀ d ∈ earlier, d.keepsTasks = true := fun d hd => hkeeps d (List.mem_append_left _ hd)
  rw [timesRun_append, timesRun, if_pos ⟨hcalls.isTick, rfl⟩]
  by_cases hran : RanIn t (t.period c.clock) (past earlier s)
  · rcases hran.of_past hcarries hkind hearlier with ⟨u, last, hget, hlast, -⟩ | hticks | hmore
    · -- the task that was added has not run
      cases hadds.get?_eq.symm.trans hget
      rw [Task.lastMoment, hadds.lastRun_eq] at hlast
      cases hlast
    · omega
    · omega
  · rw [(hcarries.past hearlier).runs_of_calls hkind hcalls hran]
    omega

/-- A host with one workflow. -/
def sampleHost : TaskHost :=
  ⟨fun _ => Runner.sampleRunner, fun id => if id = "w" then some Runner.sampleFork else none, "scheduler"⟩

/-- A deed at a minute and a second of a day. -/
def sampleTurn (deed : Deed) (day minute second : Nat) : Turn :=
  ⟨deed, sampleHost,
    { Runner.sampleWorld with clock := ⟨(((day * 1440 + minute) * 60 + second) * 1000000 : Nat)⟩ }⟩

/-- A task that runs daily at a time. -/
def sampleTask (id time : Text) : Task :=
  ⟨id, "w", .daily, some time, none, none, none, .group, "g", none, true, none, 0, []⟩

/-- On the first day the task is run by hand at seven, before the tick at eight. On the second day it is
switched off and on. -/
def sampleEarlier : List Turn :=
  [sampleTurn (.runNow "b") 0 420 0, sampleTurn .tick 0 480 0, sampleTurn (.toggle "b") 1 0 0,
    sampleTurn (.toggle "b") 1 480 5]

/-- The tick that calls the task, and a later one in the same minute. -/
def sampleLater : List Turn := [sampleTurn .tick 1 480 40, sampleTurn .tick 1 480 50]

theorem timesRun_once_of_sample :
    let before := [sampleTurn (.add (sampleTask "a" "08:00").toValue) 0 0 0]
    let t := sampleTask "b" "08:00"
    let c := sampleTurn .tick 1 480 40
    let s := ((past before (ofFile .absent)).add t.toValue).2
    (Adds (past before (ofFile .absent)) t.toValue t ∧ t.kind ≠ .interval ∧
        (∀ c ∈ sampleEarlier ++ sampleLater, c.keepsTasks = true) ∧
        (sampleEarlier ++ sampleLater).Pairwise fun c d => c.clock.micros ≤ d.clock.micros) ∧
      (c.Calls t (past sampleEarlier s) ∧ timesRun t (t.period c.clock) false sampleEarlier s = 0) ∧
      (∀ p, timesRun t p true (sampleEarlier ++ sampleLater) s ≤ 1) ∧
        timesRun t (t.period c.clock) true (sampleEarlier ++ sampleLater) s = 1 := by
  intro before t c s
  have hkind : t.kind ≠ .interval := by decide
  have hnow : ((past before (ofFile .absent)).add t.toValue).1.map (·.success) = .ok true ∧
      (∀ c ∈ sampleEarlier ++ sampleLater, c.keepsTasks = true) ∧
      ((sampleEarlier ++ sampleLater).Pairwise fun c d => c.clock.micros ≤ d.clock.micros) ∧
      c.Calls t (past sampleEarlier s) ∧ timesRun t (t.period c.clock) false sampleEarlier s = 0 := by
    decide +kernel
  obtain ⟨hdone, hkeeps, hclock, hcalls, hhand⟩ := hnow
  have hadds : Adds (past before (ofFile .absent)) t.toValue t := ⟨⟨_, rfl, rfl⟩, hdone⟩
  obtain ⟨honce, hcalled⟩ := timesRun_once .absent before t.toValue hadds hkind hkeeps hclock
  exact ⟨⟨hadds, hkind, hkeeps, hclock⟩, ⟨hcalls, hhand⟩, honce, hcalled sampleEarlier c _ rfl hcalls hhand⟩

/-- A task that ran when the calendar began, by a clock that was ahead. -/
def sampleOld : Task := { sampleTask "a" "09:00" with lastRun := some ⟨.first, some 43200⟩ }

/-- A task of which the last run lies outside of the calendar ends the tick, and a task behind it is not run,
though it is called. And a task of which the time ends with a line end is accepted, but no time fits. -/
theorem called_in_vain :
    let old : File := (File.absent.writeDocument (.object [("a", sampleOld.toValue)])).2
    let t := sampleTask "b" "08:00"
    let c := sampleTurn .tick 1 480 0
    let s := ((ofFile old).add t.toValue).2
    (Adds (ofFile old) t.toValue t ∧ (s.tasks.get? t.id).any (·.enabled) = true ∧
        t.timeFits c.clock = true ∧ t.isAble c.host c.world = true ∧
        (tick c.host (s, c.world)).1 = .error .outsideCalendar ∧
        timesRun t (t.period c.clock) true [c] s = 0) ∧
      Adds (ofFile .absent) (sampleTask "b" "08:00\n").toValue (sampleTask "b" "08:00\n") ∧
        ∀ now, (sampleTask "b" "08:00\n").timeFits now = false := by
  intro old t c s
  have hbroken : ((ofFile old).add t.toValue).1.map (·.success) = .ok true ∧
      (s.tasks.get? t.id).any (·.enabled) = true ∧ t.timeFits c.clock = true ∧ t.isAble c.host c.world = true ∧
      (tick c.host (s, c.world)).1 = .error .outsideCalendar ∧
      timesRun t (t.period c.clock) true [c] s = 0 := by
    decide +kernel
  obtain ⟨hdone, hcalled⟩ := hbroken
  refine ⟨⟨⟨⟨_, rfl, rfl⟩, hdone⟩, hcalled⟩, ⟨⟨_, rfl, rfl⟩, by decide +kernel⟩, ?_⟩
  · intro now
    have hne : (sampleTask "b" "08:00\n").dailyTime ≠ some now.clockText := by
      intro hsame
      have hmem : CodePoint.scalar '\n' ∈ now.clockText := by
        rw [← Option.some.inj hsame]
        decide +kernel
      exact absurd (now.mem_clockText hmem) (by decide)
    exact Task.timeFits_of_ne rfl hne

end Scheduler

end ChatFlow
