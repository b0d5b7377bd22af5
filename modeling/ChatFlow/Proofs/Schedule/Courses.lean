import ChatFlow.Proofs.Schedule.Ticks

/-!
# Runs that take their time

While the run of a task goes on, the clock may go on too, and what is noted is the time of the end. So it is left
open here how runs go: a course says how the run for a task ends and what it makes of its surroundings, the clock
included. What a tick makes of the scheduler is told by the runs that come to their end in it, each noted at its
time; the tasks of a host run along the course of the host, in which no time passes.

* `Course`, `TaskHost.course`: how runs go.
* `Scheduler.executeBy`, `Scheduler.executeDueBy`: a task and a tick along a course.
* `Scheduler.executeDueBy_scheduler`: what a tick makes of the scheduler.
* `Scheduler.executeDueBy_ids`: it answers with the runs that came to their end.
* `Scheduler.exists_startsBy`: a task that is called is started, if the tick comes to its end.
* `Scheduler.clock_startsBy`: when runs end.
-/

namespace ChatFlow

/-- How runs of workflows go: how the run for a task ends, and what it makes of its surroundings. -/
abbrev Course := Task → Workflow → World → Except RunFault Context × World

/-- How they go with the runners of a host. -/
def TaskHost.course (host : TaskHost) : Course := fun t w world =>
  (host.runner t.target).executeScheduled w t.event world

/-- What runs make of the time: it gets from the begin of a run to its end by a relation. -/
structure Course.Keeps (course : Course) (R : Moment → Moment → Prop) : Prop where
  refl : ∀ m, R m m
  trans : ∀ {a b c}, R a b → R b c → R a c
  run : ∀ t w world, R world.clock (course t w world).2.clock

/-- In the course of a host no time passes. -/
theorem TaskHost.course_keeps (host : TaskHost) : Course.Keeps host.course (· = ·) where
  refl _ := rfl
  trans := Eq.trans
  run t w world := ((host.runner t.target).executeScheduled_clock w t.event world).symm

namespace Task

variable {t : Task} {times : List Moment}

/-- The task after runs that ended at some times. -/
def notedAll (t : Task) (times : List Moment) : Task := times.foldl noted t

theorem notedAll_append (t : Task) (times more : List Moment) :
    t.notedAll (times ++ more) = (t.notedAll times).notedAll more := List.foldl_append

/-- Each of them counts, the last one is the last run, and nothing else is changed. -/
theorem notedAll_eq (t : Task) (times : List Moment) :
    t.notedAll times =
      { t with
        lastRun := (times.getLast?.map fun m => ⟨m, none⟩).or t.lastRun
        runCount := t.runCount + times.length } := by
  induction times generalizing t with
  | nil => simp [notedAll]
  | cons m times ih =>
      have hrest : t.notedAll (m :: times) = (t.noted m).notedAll times := rfl
      rw [hrest, ih]
      have hcount : t.runCount + 1 + (times.length : Int) = t.runCount + ((times.length + 1 : Nat) : Int) := by
        omega
      -- behind the first run, the last one is that of the others, if there are any
      simp only [noted, hcount, List.length_cons, List.getLast?_cons, Option.map_some, Option.some_or]
      cases times.getLast? with
      | none => rfl
      | some m' => rfl

theorem notedAll_switched (t : Task) (enabled : Bool) (times : List Moment) :
    ({ t with enabled := enabled }).notedAll times = { t.notedAll times with enabled := enabled } := by
  rw [notedAll_eq, notedAll_eq]

end Task

namespace Scheduler

variable {course : Course} {host : TaskHost} {s : Scheduler} {t : Task} {id : Text} {now : Moment}
  {state : State} {tasks : List Task} {ids : List Text}

/-! ## Tasks along a course -/

/-- Runs a task, and finishes it if the run comes to its end. -/
def executeBy (course : Course) (host : TaskHost) (id : Text) (state : State) : Except Fault Bool × State :=
  match state.1.start? host id with
  | none => (.ok false, state)
  | some (t, w) =>
    match course t w state.2 with
    | (.error fault, world) => (.ok false, state.1, world.log (failedLine host t w fault))
    | (.ok context, world) =>
      match state.1.noteRun id t world.clock with
      | (.error fault, s) => (.error fault, s, world)
      | (.ok (), s) => (.ok true, s, world.log (executedLine host t w context.executed))

/-- Runs those of some tasks that are due, and gives the ids of those that ran to their end. -/
def executeDueBy (course : Course) (host : TaskHost) (now : Moment) :
    List Task → State → Except Fault (List Text) × State
  | [], state => (.ok [], state)
  | t :: rest, state =>
    match t.isCalled now with
    | .error fault => (.error fault, state)
    | .ok false => executeDueBy course host now rest state
    | .ok true =>
      match executeBy course host t.id state with
      | (.error fault, state) => (.error fault, state)
      | (.ok ran, state) =>
        let (r, state) := executeDueBy course host now rest state
        (r.map fun ids => if ran then t.id :: ids else ids, state)

/-- Runs all tasks that are due at the time of the clock. -/
def tickBy (course : Course) (host : TaskHost) (state : State) : Except Fault (List Text) × State :=
  let tasks := state.1.tasks.map Prod.snd
  let (r, s, world) := executeDueBy course host state.2.clock tasks state
  (r, s, world.log (tickLine host tasks.length r))

/-- Runs a task at once, whether it is due or not. -/
def runNowBy (course : Course) (host : TaskHost) (id : Text) (state : State) : Except Fault Report × State :=
  if state.1.tasks.has id then
    let (r, state) := executeBy course host id state
    (r.map fun _ => .done "已执行" [], state)
  else (.ok missing, state)

/-- The tasks that a tick starts, each in the state that those before it leave. -/
def startsBy (course : Course) (host : TaskHost) (now : Moment) : List Task → State → List Start
  | [], _ => []
  | t :: rest, state =>
    match t.isCalled now with
    | .error _ => []
    | .ok false => startsBy course host now rest state
    | .ok true =>
      ⟨host, t.id, state⟩ ::
        match (executeBy course host t.id state).1 with
        | .error _ => []
        | .ok _ => startsBy course host now rest (executeBy course host t.id state).2

/-- The tasks of a host run along the course of the host. -/
theorem executeBy_course (host : TaskHost) : executeBy host.course host = execute host := by
  funext id state
  rfl

theorem executeDueBy_course (host : TaskHost) (now : Moment) (tasks : List Task) (state : State) :
    executeDueBy host.course host now tasks state = executeDue host now tasks state := by
  induction tasks generalizing state with
  | nil => rfl
  | cons t rest ih =>
      rw [executeDueBy, executeDue_cons, executeBy_course]
      cases t.isCalled now with
      | error fault => rfl
      | ok called =>
          cases called with
          | false => exact ih state
          | true =>
              cases execute host t.id state with
              | mk result state' =>
                  cases result with
                  | error fault => rfl
                  | ok ran =>
                      exact congrArg (fun p : Except Fault (List Text) × State =>
                        (p.1.map fun ids => if ran then t.id :: ids else ids, p.2)) (ih state')

theorem tickBy_course (host : TaskHost) : tickBy host.course host = tick host := by
  funext state
  simp only [tickBy, tick, executeDueBy_course]

theorem runNowBy_course (host : TaskHost) : runNowBy host.course host = runNow host := by
  funext id state
  simp only [runNowBy, runNow, executeBy_course]

theorem startsBy_course (host : TaskHost) (now : Moment) (tasks : List Task) (state : State) :
    startsBy host.course host now tasks state = starts host now tasks state := by
  induction tasks generalizing state with
  | nil => rfl
  | cons t rest ih =>
      rw [startsBy, starts, executeBy_course]
      cases t.isCalled now with
      | error fault => rfl
      | ok called =>
          cases called with
          | false => exact ih state
          | true =>
              cases execute host t.id state with
              | mk result state' =>
                  cases result with
                  | error fault => rfl
                  | ok ran => exact congrArg (List.cons _) (ih state')

/-! ## The ends of runs -/

/-- The end of a run: whose run it was, and when it ended. -/
structure Finish where
  id : Text
  time : Moment

/-- The end of a run that was started, if it comes to one. -/
def Start.finish? (course : Course) (e : Start) : Option Finish :=
  (e.state.1.start? e.host e.id).bind fun (t, w) =>
    match course t w e.state.2 with
    | (.ok _, world) => some ⟨e.id, world.clock⟩
    | (.error _, _) => none

theorem Start.id_of_finish? {e : Start} {f : Finish} (h : e.finish? course = some f) : f.id = e.id := by
  obtain ⟨⟨t, w⟩, -, hrun⟩ := Option.bind_eq_some_iff.mp h
  dsimp only at hrun
  split at hrun
  · cases hrun
    rfl
  · cases hrun

/-- Notes the end of a run, and writes the file. -/
def note (s : Scheduler) (f : Finish) : Scheduler :=
  (s.tasks.get? f.id).elim s fun t => ({ s with tasks := s.tasks.set f.id (t.noted f.time) }).save.2

/-- When the runs of a task ended. -/
def timesOf (id : Text) (fs : List Finish) : List Moment := (fs.filter (·.id = id)).map Finish.time

theorem mem_timesOf {m : Moment} {fs : List Finish} : m ∈ timesOf id fs ↔ ⟨id, m⟩ ∈ fs := by
  rw [timesOf, List.mem_map]
  constructor
  · rintro ⟨f, hmem, rfl⟩
    obtain ⟨hf, hid⟩ := List.mem_filter.mp hmem
    obtain rfl : f.id = id := of_decide_eq_true hid
    exact hf
  · intro hmem
    exact ⟨⟨id, m⟩, List.mem_filter.mpr ⟨hmem, decide_eq_true rfl⟩, rfl⟩

theorem note_get? (s : Scheduler) (f : Finish) (id : Text) :
    (s.note f).tasks.get? id =
      if f.id = id then (s.tasks.get? id).map (·.noted f.time) else s.tasks.get? id := by
  unfold note
  cases hget : s.tasks.get? f.id with
  | none =>
      split
      · next hsame =>
          rw [← hsame, hget]
          exact hget
      · rfl
  | some t =>
      rw [Option.elim_some, save_tasks, Fields.get?_set]
      split
      · next hsame =>
          rw [← hsame, hget]
          rfl
      · rfl

/-- Behind several runs, a task is noted at the times of its own. -/
theorem foldl_note_get? (fs : List Finish) (s : Scheduler) (id : Text) :
    (fs.foldl note s).tasks.get? id = (s.tasks.get? id).map (·.notedAll (timesOf id fs)) := by
  induction fs generalizing s with
  | nil => simp [timesOf, Task.notedAll]
  | cons f fs ih =>
      rw [List.foldl_cons, ih, note_get?]
      by_cases hsame : f.id = id
      · have htimes : timesOf id (f :: fs) = f.time :: timesOf id fs := by simp [timesOf, hsame]
        rw [if_pos hsame, htimes, Option.map_map]
        rfl
      · have htimes : timesOf id (f :: fs) = timesOf id fs := by simp [timesOf, hsame]
        rw [if_neg hsame, htimes]

/-- Whatever course runs take, a task changes the scheduler by the end of its run only. -/
theorem executeBy_scheduler (course : Course) (host : TaskHost) (id : Text) (state : State) :
    (executeBy course host id state).2.1 =
      (Start.finish? course ⟨host, id, state⟩).elim state.1 state.1.note := by
  obtain ⟨s, world⟩ := state
  unfold executeBy Start.finish?
  dsimp only
  cases hstart : s.start? host id with
  | none => rfl
  | some started =>
      obtain ⟨t, w⟩ := started
      obtain ⟨hget, -, -⟩ := start?_eq_some_iff.mp hstart
      rw [Option.bind_some]
      dsimp only
      cases hrun : course t w world with
      | mk outcome world' =>
          cases outcome with
          | error fault => rfl
          | ok context =>
              -- nothing is done in between, so the task is still there as it was when the run was started
              have hnote : s.noteRun id t world'.clock =
                  ({ s with tasks := s.tasks.set id (t.noted world'.clock) }).save := noteRun_eq hget t _
              have hnoted : s.note ⟨id, world'.clock⟩ =
                  ({ s with tasks := s.tasks.set id (t.noted world'.clock) }).save.2 := by
                rw [note, hget]
                rfl
              dsimp only
              rw [hnote, Option.elim_some, hnoted]
              cases ({ s with tasks := s.tasks.set id (t.noted world'.clock) } : Scheduler).save with
              | mk saved s' =>
                  cases saved with
                  | error fault => rfl
                  | ok _ => rfl

/-- A task that is run to its end without a fault came to the end of its run. -/
theorem executeBy_ran {ran : Bool} (h : (executeBy course host id state).1 = .ok ran) :
    ran = (Start.finish? course ⟨host, id, state⟩).isSome := by
  obtain ⟨s, world⟩ := state
  unfold executeBy at h
  unfold Start.finish?
  dsimp only at h ⊢
  cases hstart : s.start? host id with
  | none =>
      rw [hstart] at h
      cases h
      rfl
  | some started =>
      obtain ⟨t, w⟩ := started
      rw [hstart] at h
      rw [Option.bind_some]
      dsimp only at h ⊢
      cases hrun : course t w world with
      | mk outcome world' =>
          rw [hrun] at h
          cases outcome with
          | error fault =>
              cases h
              rfl
          | ok context =>
              dsimp only at h
              split at h
              · cases h
              · cases h
                rfl

/-! ## The runs of a tick -/

/-- Induction along a tick: it ends with a task that breaks it, passes over a task that is not called, or goes on
behind one that was started. -/
@[elab_as_elim]
theorem tickBy_induction (course : Course) (host : TaskHost) (now : Moment)
    {motive : List Task → State → Except Fault (List Text) × State → List Start → Prop}
    (nil : ∀ state, motive [] state (.ok [], state) [])
    (broken : ∀ t rest state fault, t.isCalled now = .error fault →
      motive (t :: rest) state (.error fault, state) [])
    (passed : ∀ t rest state, t.isCalled now = .ok false →
      motive rest state (executeDueBy course host now rest state) (startsBy course host now rest state) →
      motive (t :: rest) state (executeDueBy course host now rest state) (startsBy course host now rest state))
    (unwritten : ∀ t rest state state' fault, t.isCalled now = .ok true →
      executeBy course host t.id state = (.error fault, state') →
      motive (t :: rest) state (.error fault, state') [⟨host, t.id, state⟩])
    (started : ∀ t rest state state' ran, t.isCalled now = .ok true →
      executeBy course host t.id state = (.ok ran, state') →
      motive rest state' (executeDueBy course host now rest state') (startsBy course host now rest state') →
      motive (t :: rest) state
        ((executeDueBy course host now rest state').1.map fun ids => if ran then t.id :: ids else ids,
          (executeDueBy course host now rest state').2)
        (⟨host, t.id, state⟩ :: startsBy course host now rest state'))
    (tasks : List Task) (state : State) :
    motive tasks state (executeDueBy course host now tasks state) (startsBy course host now tasks state) := by
  induction tasks generalizing state with
  | nil => exact nil state
  | cons t rest ih =>
      rw [executeDueBy, startsBy]
      cases hcalled : t.isCalled now with
      | error fault => exact broken t rest state fault hcalled
      | ok called =>
          cases called with
          | false => exact passed t rest state hcalled (ih state)
          | true =>
              cases hrun : executeBy course host t.id state with
              | mk result state' =>
                  cases result with
                  | error fault => exact unwritten t rest state state' fault hcalled hrun
                  | ok ran => exact started t rest state state' ran hcalled hrun (ih state')

/-- The runs of a tick that come to their end. -/
def finishesBy (course : Course) (host : TaskHost) (now : Moment) (tasks : List Task) (state : State) :
    List Finish :=
  (startsBy course host now tasks state).filterMap (Start.finish? course)

/-- A tick notes the runs that come to their end, and changes nothing else. -/
theorem executeDueBy_scheduler (course : Course) (host : TaskHost) (now : Moment) (tasks : List Task)
    (state : State) :
    (executeDueBy course host now tasks state).2.1 =
      (finishesBy course host now tasks state).foldl note state.1 := by
  unfold finishesBy
  induction tasks, state using tickBy_induction course host now with
  | nil state => rfl
  | broken t rest state fault hcalled => rfl
  | passed t rest state hcalled ih => exact ih
  | unwritten t rest state state' fault hcalled hrun =>
      have hfirst := executeBy_scheduler course host t.id state
      rw [hrun] at hfirst
      rw [List.filterMap_cons]
      cases hfinish : Start.finish? course ⟨host, t.id, state⟩ with
      | none =>
          rw [hfinish] at hfirst
          exact hfirst
      | some f =>
          rw [hfinish] at hfirst
          exact hfirst
  | started t rest state state' ran hcalled hrun ih =>
      have hfirst := executeBy_scheduler course host t.id state
      rw [hrun] at hfirst
      rw [List.filterMap_cons]
      cases hfinish : Start.finish? course ⟨host, t.id, state⟩ with
      | none =>
          rw [hfinish] at hfirst
          have hsame : state'.1 = state.1 := hfirst
          rw [← hsame]
          exact ih
      | some f =>
          rw [hfinish] at hfirst
          have hnoted : state'.1 = state.1.note f := hfirst
          rw [List.foldl_cons, ← hnoted]
          exact ih

/-- Only tasks that are called are started, in their order. -/
theorem startsBy_sublist (course : Course) (host : TaskHost) (now : Moment) (tasks : List Task) (state : State) :
    ((startsBy course host now tasks state).map Start.id).Sublist
      ((tasks.filter fun t => t.isCalled now matches .ok true).map Task.id) := by
  induction tasks, state using tickBy_induction course host now with
  | nil state => exact List.Sublist.refl []
  | broken t rest state fault hcalled => exact List.nil_sublist _
  | passed t rest state hcalled ih =>
      rw [List.filter_cons, hcalled]
      exact ih
  | unwritten t rest state state' fault hcalled hrun =>
      rw [List.filter_cons, hcalled]
      exact (List.nil_sublist _).cons_cons t.id
  | started t rest state state' ran hcalled hrun ih =>
      rw [List.filter_cons, hcalled]
      exact ih.cons_cons t.id

/-- A tick that comes to its end has found of each task whether it is called. -/
theorem exists_calledBy (hok : (executeDueBy course host now tasks state).1 = .ok ids) (ht : t ∈ tasks) :
    ∃ called, t.isCalled now = .ok called := by
  induction tasks, state using tickBy_induction course host now generalizing ids with
  | nil state => cases ht
  | broken u rest state fault hbroken => cases hok
  | passed u rest state hpassed ih =>
      rcases List.mem_cons.mp ht with rfl | hmem
      · exact ⟨false, hpassed⟩
      · exact ih hok hmem
  | unwritten u rest state state' fault hstarted hrun => cases hok
  | started u rest state state' ran hstarted hrun ih =>
      rcases List.mem_cons.mp ht with rfl | hmem
      · exact ⟨true, hstarted⟩
      · cases hrest : (executeDueBy course host now rest state').1 with
        | error fault =>
            rw [hrest] at hok
            cases hok
        | ok others => exact ih hrest hmem

/-- A tick that comes to its end starts every task that is called. -/
theorem exists_startsBy (hok : (executeDueBy course host now tasks state).1 = .ok ids) (ht : t ∈ tasks)
    (hcalled : t.isCalled now = .ok true) : ∃ e ∈ startsBy course host now tasks state, e.id = t.id := by
  induction tasks, state using tickBy_induction course host now generalizing ids with
  | nil state => cases ht
  | broken u rest state fault hbroken => cases hok
  | passed u rest state hpassed ih =>
      rcases List.mem_cons.mp ht with rfl | hmem
      · rw [hpassed] at hcalled
        cases hcalled
      · exact ih hok hmem
  | unwritten u rest state state' fault hstarted hrun => cases hok
  | started u rest state state' ran hstarted hrun ih =>
      rcases List.mem_cons.mp ht with rfl | hmem
      · exact ⟨_, List.mem_cons_self, rfl⟩
      · cases hrest : (executeDueBy course host now rest state').1 with
        | error fault =>
            rw [hrest] at hok
            cases hok
        | ok others =>
            obtain ⟨e, he, hid⟩ := ih hrest hmem
            exact ⟨e, List.mem_cons_of_mem _ he, hid⟩

/-- A tick that comes to its end answers with the tasks whose runs came to theirs, in their order. -/
theorem executeDueBy_ids (h : (executeDueBy course host now tasks state).1 = .ok ids) :
    (finishesBy course host now tasks state).map Finish.id = ids := by
  unfold finishesBy
  induction tasks, state using tickBy_induction course host now generalizing ids with
  | nil state =>
      cases h
      rfl
  | broken t rest state fault hcalled => cases h
  | passed t rest state hcalled ih => exact ih h
  | unwritten t rest state state' fault hcalled hrun => cases h
  | started t rest state state' ran hcalled hrun ih =>
      -- its id is answered if its run came to its end, and the others are answered behind it
      have hran := executeBy_ran (congrArg Prod.fst hrun)
      cases hrest : (executeDueBy course host now rest state').1 with
      | error fault =>
          rw [hrest] at h
          cases h
      | ok others =>
          rw [hrest] at h
          cases h
          have hothers := ih hrest
          rw [List.filterMap_cons]
          cases hfinish : Start.finish? course ⟨host, t.id, state⟩ with
          | none =>
              rw [hfinish] at hran
              subst hran
              exact hothers
          | some f =>
              rw [hfinish] at hran
              subst hran
              have hid : f.id = t.id := Start.id_of_finish? hfinish
              rw [List.map_cons, hothers, hid]
              rfl

/-! ## When runs end -/

theorem clock_executeBy {R : Moment → Moment → Prop} (h : Course.Keeps course R) (host : TaskHost) (id : Text)
    (state : State) : R state.2.clock (executeBy course host id state).2.2.clock ∧
      ∀ f, Start.finish? course ⟨host, id, state⟩ = some f →
        f.time = (executeBy course host id state).2.2.clock := by
  obtain ⟨s, world⟩ := state
  unfold Scheduler.executeBy Start.finish?
  dsimp only
  cases hstart : s.start? host id with
  | none => exact ⟨h.refl _, nofun⟩
  | some started =>
      obtain ⟨t, w⟩ := started
      have hkeeps := h.run t w world
      rw [Option.bind_some]
      dsimp only
      cases hrun : course t w world with
      | mk outcome world' =>
          rw [hrun] at hkeeps
          cases outcome with
          | error fault => exact ⟨hkeeps, nofun⟩
          | ok context =>
              dsimp only
              split
              · exact ⟨hkeeps, fun f hf => by cases hf; rfl⟩
              · exact ⟨hkeeps, fun f hf => by cases hf; rfl⟩

/-- Runs end between the times of the clock when the tick begins and when it is over. -/
theorem clock_startsBy {R : Moment → Moment → Prop} (h : Course.Keeps course R) (host : TaskHost) (now : Moment)
    (tasks : List Task) (state : State) :
    R state.2.clock (executeDueBy course host now tasks state).2.2.clock ∧
      ∀ f ∈ finishesBy course host now tasks state,
        R state.2.clock f.time ∧ R f.time (executeDueBy course host now tasks state).2.2.clock := by
  unfold finishesBy
  induction tasks, state using tickBy_induction course host now with
  | nil state => exact ⟨h.refl _, by simp⟩
  | broken t rest state fault hcalled => exact ⟨h.refl _, by simp⟩
  | passed t rest state hcalled ih => exact ih
  | unwritten t rest state state' fault hcalled hrun =>
      obtain ⟨hclock, htime⟩ := clock_executeBy h host t.id state
      rw [hrun] at hclock htime
      refine ⟨hclock, ?_⟩
      intro f hf
      rw [List.filterMap_cons] at hf
      cases hfinish : Start.finish? course ⟨host, t.id, state⟩ with
      | none =>
          rw [hfinish] at hf
          cases hf
      | some g =>
          rw [hfinish, List.filterMap_nil] at hf
          obtain rfl := List.mem_singleton.mp hf
          rw [htime f hfinish]
          exact ⟨hclock, h.refl _⟩
  | started t rest state state' ran hcalled hrun ih =>
      obtain ⟨hclock, htime⟩ := clock_executeBy h host t.id state
      rw [hrun] at hclock htime
      obtain ⟨hbehind, hothers⟩ := ih
      refine ⟨h.trans hclock hbehind, ?_⟩
      intro f hf
      -- it is the first run that ended, or one of those behind it
      have hcases : Start.finish? course ⟨host, t.id, state⟩ = some f ∨
          f ∈ (startsBy course host now rest state').filterMap (Start.finish? course) := by
        obtain ⟨e, he, hfinish⟩ := List.mem_filterMap.mp hf
        rcases List.mem_cons.mp he with rfl | hrest
        · exact .inl hfinish
        · exact .inr (List.mem_filterMap.mpr ⟨e, hrest, hfinish⟩)
      rcases hcases with hfirst | hrest
      · rw [htime f hfirst]
        exact ⟨hclock, hbehind⟩
      · obtain ⟨hbefore, hafter⟩ := hothers f hrest
        exact ⟨h.trans hclock hbefore, hafter⟩

end Scheduler

end ChatFlow
