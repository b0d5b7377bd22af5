import ChatFlow.Proofs.Schedule.Courses
import ChatFlow.Proofs.Schedule.Ticks

/-!
# Rounds in which time may pass

A round is something done to a scheduler in which runs take a course of their own. What becomes of a task is told
by its history: in which rounds its runs came to their end, and when. A task that is neither added nor removed is
noted once for each entry of its history, and is otherwise only switched.

* `Scheduler.Round`, `Scheduler.along`: what is done, and the scheduler after all of it.
* `Scheduler.history`: the runs of a task that came to their end.
* `Scheduler.Round.perform_keeps`: what a round keeps.
* `Scheduler.Round.get?_perform`, `Scheduler.get?_along`: what becomes of a task.
* `Scheduler.Round.clock_finishes`: when its runs end.
* `Scheduler.Round.called_of_mem`, `Scheduler.Round.Serves.exists_time`: which tasks a tick runs.
* `Scheduler.lastEnd`: when a task ran last.
-/

namespace ChatFlow

namespace Scheduler

/-- Something done to a scheduler, where runs of workflows take a course. -/
structure Round where
  deed : Deed
  host : TaskHost
  course : Course
  world : World

/-- A turn is a round in which runs take the course of the host. -/
def Turn.round (c : Turn) : Round := ⟨c.deed, c.host, c.host.course, c.world⟩

namespace Round

/-- The time at which the round begins. -/
def clock (r : Round) : Moment := r.world.clock

/-- The scheduler and its surroundings after the round. -/
def after (r : Round) (s : Scheduler) : State :=
  match r.deed with
  | .add payload => ((s.add payload).2, r.world)
  | .remove id => ((s.remove id).2, r.world)
  | .toggle id => ((s.toggle id).2, r.world)
  | .runNow id => (runNowBy r.course r.host id (s, r.world)).2
  | .tick => (tickBy r.course r.host (s, r.world)).2

/-- The scheduler after the round. -/
def perform (r : Round) (s : Scheduler) : Scheduler := (r.after s).1

/-- The time at which the round is over. -/
def clockAfter (r : Round) (s : Scheduler) : Moment := (r.after s).2.clock

/-- The tasks that are started. -/
def starts (r : Round) (s : Scheduler) : List Start :=
  match r.deed with
  | .runNow id => if s.tasks.has id then [⟨r.host, id, s, r.world⟩] else []
  | .tick => startsBy r.course r.host r.clock (s.tasks.map Prod.snd) (s, r.world)
  | _ => []

/-- The runs that come to their end. -/
def finishes (r : Round) (s : Scheduler) : List Finish := (r.starts s).filterMap (Start.finish? r.course)

/-- Is it a tick? -/
def isTick (r : Round) : Bool :=
  match r.deed with
  | .tick => true
  | _ => false

/-- Does it come to its end without a fault, if it is a tick? -/
def isWhole (r : Round) (s : Scheduler) : Bool := (tickBy r.course r.host (s, r.world)).1.isOk

/-- Are the same tasks there afterwards? -/
def keepsTasks (r : Round) : Bool :=
  match r.deed with
  | .add _ | .remove _ => false
  | _ => true

theorem deed_of_isTick {r : Round} (h : r.isTick = true) : r.deed = .tick := by
  unfold isTick at h
  split at h
  · assumption
  · cases h

end Round

variable {s : Scheduler} {t u : Task} {id : Text} {r : Round} {rounds : List Round} {m : Moment}

theorem Turn.perform_round (c : Turn) (s : Scheduler) : c.round.perform s = c.perform s := by
  obtain ⟨deed, host, world⟩ := c
  cases deed with
  | add payload => rfl
  | remove id => rfl
  | toggle id => rfl
  | runNow id =>
      show (runNowBy host.course host id (s, world)).2.1 = _
      rw [runNowBy_course]
      rfl
  | tick =>
      show (tickBy host.course host (s, world)).2.1 = _
      rw [tickBy_course]
      rfl

/-! ## What a round makes of the scheduler -/

/-- A round that runs tasks notes the runs that come to their end, and changes nothing else. -/
theorem Round.perform_of_runs (h : (∃ id, r.deed = .runNow id) ∨ r.deed = .tick) (s : Scheduler) :
    r.perform s = (r.finishes s).foldl note s := by
  obtain ⟨deed, host, course, world⟩ := r
  rcases h with ⟨id, hdeed⟩ | hdeed
  · obtain rfl : deed = .runNow id := hdeed
    show (runNowBy course host id (s, world)).2.1 = List.foldl note s (List.filterMap _ (ite _ _ _))
    unfold runNowBy
    split
    · rw [List.filterMap_cons]
      refine (executeBy_scheduler course host id (s, world)).trans ?_
      cases Start.finish? course ⟨host, id, s, world⟩ with
      | none => rfl
      | some f => rfl
    · rfl
  · obtain rfl : deed = .tick := hdeed
    exact executeDueBy_scheduler course host world.clock (s.tasks.map Prod.snd) (s, world)

/-- Nothing else runs tasks. -/
theorem Round.finishes_eq_nil (h : ∀ id, r.deed ≠ .runNow id) (htick : r.deed ≠ .tick) : r.finishes s = [] := by
  unfold finishes starts
  split
  · next id hdeed => exact absurd hdeed (h id)
  · next hdeed => exact absurd hdeed htick
  · rfl

/-- Runs end between the begin of a round and its end. -/
theorem Round.clock_finishes {R : Moment → Moment → Prop} (h : Course.Keeps r.course R) (s : Scheduler) :
    R r.clock (r.clockAfter s) ∧ ∀ f ∈ r.finishes s, R r.clock f.time ∧ R f.time (r.clockAfter s) := by
  obtain ⟨deed, host, course, world⟩ := r
  have hidle : R world.clock world.clock ∧ ∀ f ∈ ([] : List Finish), R world.clock f.time ∧ R f.time world.clock :=
    ⟨h.refl _, by simp⟩
  cases deed with
  | add payload => exact hidle
  | remove id => exact hidle
  | toggle id => exact hidle
  | runNow id =>
      show R world.clock (runNowBy course host id (s, world)).2.2.clock ∧
        ∀ f ∈ List.filterMap (Start.finish? course) (if s.tasks.has id then [⟨host, id, s, world⟩] else []),
          R world.clock f.time ∧ R f.time (runNowBy course host id (s, world)).2.2.clock
      unfold runNowBy
      split
      · obtain ⟨hclock, htime⟩ := clock_executeBy h host id (s, world)
        refine ⟨hclock, ?_⟩
        intro f hf
        obtain ⟨e, he, hfinish⟩ := List.mem_filterMap.mp hf
        obtain rfl := List.mem_singleton.mp he
        rw [htime f hfinish]
        exact ⟨hclock, h.refl _⟩
      · exact hidle
  | tick => exact clock_startsBy h host world.clock (s.tasks.map Prod.snd) (s, world)

/-- What becomes of a task in a round that keeps the tasks: it is noted for each of its runs, and it may be
switched. -/
theorem Round.get?_perform (hkeeps : r.keepsTasks = true) (s : Scheduler) (id : Text) :
    ∃ flip : Bool, (r.perform s).tasks.get? id = (s.tasks.get? id).map fun t =>
      { t.notedAll (timesOf id (r.finishes s)) with enabled := t.enabled ^^ flip } := by
  cases hdeed : r.deed with
  | add payload =>
      rw [keepsTasks, hdeed] at hkeeps
      cases hkeeps
  | remove id =>
      rw [keepsTasks, hdeed] at hkeeps
      cases hkeeps
  | toggle id' =>
      have hnone : r.finishes s = [] := finishes_eq_nil (by simp [hdeed]) (by simp [hdeed])
      have hperform : r.perform s = (s.toggle id').2 := by rw [perform, after, hdeed]
      refine ⟨decide (id' = id), ?_⟩
      rw [hperform, hnone]
      exact toggle_get? s id' id
  | runNow id' =>
      refine ⟨false, ?_⟩
      rw [perform_of_runs (.inl ⟨id', hdeed⟩), foldl_note_get?]
      simp [Task.notedAll_eq]
  | tick =>
      refine ⟨false, ?_⟩
      rw [perform_of_runs (.inr hdeed), foldl_note_get?]
      simp [Task.notedAll_eq]

theorem Keyed.note (h : Keyed s.tasks) (f : Finish) : Keyed (s.note f).tasks := by
  unfold Scheduler.note
  cases hget : s.tasks.get? f.id with
  | none => exact h
  | some t =>
      rw [Option.elim_some, save_tasks, ← h.id_of_get? hget]
      exact h.set (t.noted f.time)

/-- What is kept when tasks are added, removed and switched, and when runs are noted, is kept by a round. -/
theorem Round.perform_keeps {P : Scheduler → Prop} (hadd : ∀ s payload, P s → P (Scheduler.add s payload).2)
    (hremove : ∀ s id, P s → P (Scheduler.remove s id).2) (htoggle : ∀ s id, P s → P (Scheduler.toggle s id).2)
    (hnote : ∀ f ∈ r.finishes s, ∀ s', P s' → P (s'.note f)) (h : P s) : P (r.perform s) := by
  have hnotes : ∀ (fs : List Finish) (s : Scheduler), (∀ f ∈ fs, ∀ s', P s' → P (s'.note f)) → P s →
      P (fs.foldl Scheduler.note s) := by
    intro fs
    induction fs with
    | nil => exact fun s _ h => h
    | cons f fs ih =>
        intro s hfs h
        obtain ⟨hf, hrest⟩ := List.forall_mem_cons.mp hfs
        exact ih (s.note f) hrest (hf s h)
  cases hdeed : r.deed with
  | add payload =>
      rw [perform, after, hdeed]
      exact hadd s payload h
  | remove id =>
      rw [perform, after, hdeed]
      exact hremove s id h
  | toggle id =>
      rw [perform, after, hdeed]
      exact htoggle s id h
  | runNow id =>
      rw [perform_of_runs (.inl ⟨id, hdeed⟩)]
      exact hnotes _ s hnote h
  | tick =>
      rw [perform_of_runs (.inr hdeed)]
      exact hnotes _ s hnote h

theorem Keyed.performRound (h : Keyed s.tasks) (r : Round) : Keyed (r.perform s).tasks :=
  r.perform_keeps (P := fun s => Keyed s.tasks) (fun _ payload h => h.add payload) (fun _ id h => h.remove id)
    (fun _ id h => h.toggle id) (fun f _ _ h => h.note f) h

/-! ## The tasks of a tick -/

/-- A tick runs a task only if it is called. -/
theorem Round.called_of_mem (h : Keyed s.tasks) (htick : r.isTick = true) (hget : s.tasks.get? id = some t)
    (hm : m ∈ timesOf id (r.finishes s)) : t.isCalled r.clock = .ok true := by
  obtain ⟨e, he, hfinish⟩ := List.mem_filterMap.mp (mem_timesOf.mp hm)
  rw [starts, deed_of_isTick htick] at he
  -- the task that was started is called, and no other one has its id
  have hstarted := (startsBy_sublist r.course r.host r.clock (s.tasks.map Prod.snd) (s, r.world)).subset
    (List.mem_map_of_mem he)
  obtain ⟨u, hu, hid⟩ := List.mem_map.mp hstarted
  obtain ⟨hmem, hcalled⟩ := List.mem_filter.mp hu
  have hsame : u.id = id := hid.trans (Start.id_of_finish? hfinish).symm
  have hfound := h.get?_of_mem hmem
  rw [hsame, hget] at hfound
  obtain rfl := Option.some.inj hfound
  split at hcalled
  · assumption
  · cases hcalled

/-- A tick serves a task: it comes to its end, the task is enabled, and the runs of the task that it starts come to
theirs. -/
structure Round.Serves (r : Round) (id : Text) (s : Scheduler) : Prop where
  isTick : r.isTick = true
  whole : r.isWhole s = true
  enabled : (s.tasks.get? id).any (·.enabled) = true
  able : ∀ e ∈ r.starts s, e.id = id → (e.finish? r.course).isSome = true

/-- A tick runs a task that it serves, if the task is due. -/
theorem Round.Serves.exists_time (hserves : r.Serves id s) (h : Keyed s.tasks) (hget : s.tasks.get? id = some t) :
    ∃ last, t.lastMoment = .ok last ∧
      (t.isDueAt r.clock last = true → ∃ m, m ∈ timesOf id (r.finishes s)) := by
  obtain rfl : t.id = id := h.id_of_get? hget
  have henabled := hserves.enabled
  rw [hget, Option.any_some] at henabled
  have hok : ∃ ids, (executeDueBy r.course r.host r.clock (s.tasks.map Prod.snd) (s, r.world)).1 = .ok ids := by
    have hresult : (executeDueBy r.course r.host r.clock (s.tasks.map Prod.snd) (s, r.world)).1.isOk = true :=
      hserves.whole
    cases hids : (executeDueBy r.course r.host r.clock (s.tasks.map Prod.snd) (s, r.world)).1 with
    | error fault =>
        rw [hids] at hresult
        cases hresult
    | ok ids => exact ⟨ids, rfl⟩
  obtain ⟨ids, hids⟩ := hok
  have hmem := Keyed.mem_of_get? hget
  -- the tick has looked at the task, so the last run lies in the calendar
  obtain ⟨called, hcalled⟩ := exists_calledBy hids hmem
  have hdue : t.isDue ⟨r.clock, none⟩ = .ok called := by
    rw [Task.isCalled, if_pos henabled] at hcalled
    exact hcalled
  obtain ⟨last, hlast, hdueAt⟩ := Task.exists_last_of_isDue hdue
  refine ⟨last, hlast, ?_⟩
  intro hnow
  have hcalled' : t.isCalled r.clock = .ok true := Task.isCalled_iff.mpr ⟨henabled, last, hlast, hnow⟩
  obtain ⟨e, he, hid⟩ := exists_startsBy hids hmem hcalled'
  have hstart : e ∈ r.starts s := by
    rw [starts, deed_of_isTick hserves.isTick]
    exact he
  obtain ⟨f, hf⟩ := Option.isSome_iff_exists.mp (hserves.able e hstart hid)
  refine ⟨f.time, mem_timesOf.mpr (List.mem_filterMap.mpr ⟨e, hstart, ?_⟩)⟩
  rw [hf, ← hid, ← Start.id_of_finish? hf]

/-! ## Several rounds -/

/-- The scheduler after all rounds. -/
def along : List Round → Scheduler → Scheduler
  | [], s => s
  | r :: later, s => along later (r.perform s)

/-- The runs of a task that came to their end: in which rounds, and when. -/
def history (id : Text) : List Round → Scheduler → List (Round × Moment)
  | [], _ => []
  | r :: later, s => (timesOf id (r.finishes s)).map (r, ·) ++ history id later (r.perform s)

theorem along_append (before later : List Round) (s : Scheduler) :
    along (before ++ later) s = along later (along before s) := by
  induction before generalizing s with
  | nil => rfl
  | cons r before ih => exact ih (r.perform s)

theorem history_append (id : Text) (before later : List Round) (s : Scheduler) :
    history id (before ++ later) s = history id before s ++ history id later (along before s) := by
  induction before generalizing s with
  | nil => rfl
  | cons r before ih =>
      rw [List.cons_append, history, history, along, ih, List.append_assoc]

theorem Keyed.along (h : Keyed s.tasks) (rounds : List Round) : Keyed (along rounds s).tasks := by
  induction rounds generalizing s with
  | nil => exact h
  | cons r rounds ih => exact ih (h.performRound r)

/-- What becomes of a task in rounds that keep the tasks: it is noted for each entry of its history, and it may be
switched. -/
theorem get?_along (hkeeps : ∀ r ∈ rounds, r.keepsTasks = true) (s : Scheduler) (id : Text) :
    ∃ flip : Bool, (along rounds s).tasks.get? id = (s.tasks.get? id).map fun t =>
      { t.notedAll ((history id rounds s).map Prod.snd) with enabled := t.enabled ^^ flip } := by
  induction rounds generalizing s with
  | nil =>
      refine ⟨false, ?_⟩
      simp [along, history, Task.notedAll]
  | cons r rounds ih =>
      obtain ⟨hr, hrounds⟩ := List.forall_mem_cons.mp hkeeps
      obtain ⟨flip, hfirst⟩ := r.get?_perform hr s id
      obtain ⟨flip', hrest⟩ := ih hrounds (r.perform s)
      refine ⟨flip ^^ flip', ?_⟩
      rw [along, hrest, hfirst, history, Option.map_map]
      refine congrFun (congrArg Option.map ?_) _
      funext t
      have htimes : ∀ times : List Moment, (times.map (r, ·)).map Prod.snd = times := fun times => by simp
      rw [Function.comp, List.map_append, htimes, Task.notedAll_append, Task.notedAll_switched, ← Bool.xor_assoc]

/-- When a task ran last, after some rounds: at the end of its last run in them, or else at the time that is recorded
of it. -/
def lastEnd (t : Task) (rounds : List Round) (s : Scheduler) : Except Fault (Option Moment) :=
  ((history t.id rounds s).getLast?.map fun e => .ok (some e.2)).getD t.lastMoment

/-- After rounds that keep the tasks, a task is due as it was, by the end of its last run. -/
theorem exists_along (h : Keyed s.tasks) (hkeeps : ∀ r ∈ rounds, r.keepsTasks = true)
    (hget : s.tasks.get? id = some t) :
    ∃ u, (along rounds s).tasks.get? id = some u ∧ u.lastMoment = lastEnd t rounds s ∧
      ∀ now last, u.isDueAt now last = t.isDueAt now last := by
  obtain ⟨flip, halong⟩ := get?_along hkeeps s id
  rw [hget, Option.map_some] at halong
  refine ⟨_, halong, ?_, ?_⟩
  · obtain rfl : t.id = id := h.id_of_get? hget
    rw [lastEnd]
    have hlast : ({ t.notedAll ((history t.id rounds s).map Prod.snd) with enabled := t.enabled ^^ flip }).lastRun =
        ((history t.id rounds s).getLast?.map fun e => ⟨e.2, none⟩).or t.lastRun := by
      rw [Task.notedAll_eq, List.getLast?_map, Option.map_map]
      rfl
    rw [Task.lastMoment, hlast]
    cases (history t.id rounds s).getLast? with
    | none => rfl
    | some e => rfl
  · intro now last
    rw [Task.notedAll_eq]
    rfl

end Scheduler

end ChatFlow
