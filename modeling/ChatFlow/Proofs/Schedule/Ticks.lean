import ChatFlow.Proofs.Run.Visit
import ChatFlow.Proofs.Schedule.Changes

/-!
# What is done to a scheduler

A tick starts the tasks that are due, one after the other, and a task is due by what the tick found when it
began. So every task is started at most once; and it is started if it is due, unless the tick ends before,
which only a last run outside of the calendar or a file that cannot be written makes it do. A task that ran is
noted with the time of the tick, and the others are left alone.

Tasks are added and removed, switched, run by hand and run by ticks, each at its time and in surroundings of
its own. Whatever is done, the tasks stand under their ids. What leaves the tasks where they are leaves the file
writable too, and each task as it was, but for its switch and the note of its last run.

* `Scheduler.execute_cases`: a task runs and is noted, or nothing is changed.
* `Scheduler.starts`: the tasks that a tick starts.
* `Scheduler.tick_induction`: what may become of each task of a tick.
* `Scheduler.executeDue_ok`: it comes to its end.
* `Scheduler.executeDue_task`: what it does with a task.
* `Scheduler.Deed`, `Scheduler.Turn`: what is done, and where.
* `Scheduler.Keyed.past`, `Scheduler.Savable.perform`: what is kept.
* `Scheduler.Turn.step`: a task is run and noted, or it is not run.
-/

namespace ChatFlow

namespace Task

variable {t : Task} {now : Moment} {last : Option Moment} {due : Bool}

/-- Is the workflow of the task there and enabled, and does its run come to its end? -/
def isAble (t : Task) (host : TaskHost) (world : World) : Bool :=
  (host.workflow t.workflow).any fun w =>
    w.enabled && ((host.runner t.target).executeScheduled w t.event world).1.isOk

/-- Is the task enabled and due? -/
def isCalled (t : Task) (now : Moment) : Except Fault Bool :=
  if t.enabled then t.isDue ⟨now, none⟩ else .ok false

/-- A task is due as of its last run, if that lies in the calendar. -/
theorem isDue_eq (h : t.lastMoment = .ok last) : t.isDue ⟨now, none⟩ = .ok (t.isDueAt now last) := by
  rw [isDue, h]
  rfl

theorem exists_last_of_isDue (h : t.isDue ⟨now, none⟩ = .ok due) :
    ∃ last, t.lastMoment = .ok last ∧ t.isDueAt now last = due := by
  cases hlast : t.lastMoment with
  | error fault =>
      rw [isDue, hlast] at h
      cases h
  | ok last =>
      rw [isDue_eq hlast] at h
      cases h
      exact ⟨last, rfl, rfl⟩

theorem exists_last (h : t.lastMoment.isOk = true) : ∃ last, t.lastMoment = .ok last := by
  cases hlast : t.lastMoment with
  | error fault =>
      rw [hlast] at h
      cases h
  | ok last => exact ⟨last, rfl⟩

/-- A task that ran last in the calendar, or not yet, is called or not. -/
theorem exists_called (h : t.enabled = true → t.lastMoment.isOk = true) (now : Moment) :
    ∃ called, t.isCalled now = .ok called := by
  unfold isCalled
  split
  · next henabled =>
      obtain ⟨last, hlast⟩ := exists_last (h henabled)
      exact ⟨_, isDue_eq hlast⟩
  · exact ⟨false, rfl⟩

theorem isCalled_iff :
    t.isCalled now = .ok true ↔
      t.enabled = true ∧ ∃ last, t.lastMoment = .ok last ∧ t.isDueAt now last = true := by
  unfold isCalled
  split
  · next henabled =>
      refine ⟨fun h => ⟨henabled, exists_last_of_isDue h⟩, ?_⟩
      rintro ⟨-, last, hlast, hdue⟩
      rw [isDue_eq hlast, hdue]
  · next hdisabled => simp [hdisabled]

end Task

namespace Scheduler

variable {s : Scheduler} {t : Task} {id : Text} {host : TaskHost} {world : World} {now : Moment}
  {state : State} {tasks : List Task} {ids : List Text}

/-! ## A run of a task -/

theorem start?_eq_some_iff {w : Workflow} :
    s.start? host id = some (t, w) ↔
      s.tasks.get? id = some t ∧ host.workflow t.workflow = some w ∧ w.enabled = true := by
  constructor
  · intro h
    obtain ⟨t', hget, h⟩ := Option.bind_eq_some_iff.mp h
    obtain ⟨w', hworkflow, h⟩ := Option.bind_eq_some_iff.mp h
    split at h
    · next henabled =>
        cases h
        exact ⟨hget, hworkflow, henabled⟩
    · cases h
  · rintro ⟨hget, hworkflow, henabled⟩
    simp [start?, hget, hworkflow, henabled]

theorem execute_of_none (h : state.1.start? host id = none) : execute host id state = (.ok false, state) := by
  simp only [execute, h]

/-- A task that is able to run does so and is noted with the time at which it was started. Another one leaves
the scheduler as it is. -/
theorem execute_cases (host : TaskHost) (hget : s.tasks.get? id = some t) (world : World) :
    let noted : Scheduler := { s with tasks := s.tasks.set id (t.noted world.clock) }
    let result := execute host id (s, world)
    result.2.2.clock = world.clock ∧
      ((t.isAble host world = false ∧ result.1 = .ok false ∧ result.2.1 = s) ∨
        (t.isAble host world = true ∧ result.1 = noted.save.1.map (fun _ => true) ∧
          result.2.1 = noted.save.2)) := by
  intro noted result
  cases hstart : s.start? host id with
  | none =>
      have hresult : result = (.ok false, s, world) := execute_of_none hstart
      have hunable : t.isAble host world = false := by
        -- an enabled workflow would be started
        refine Bool.eq_false_iff.mpr fun hable => ?_
        obtain ⟨w, hworkflow, hw⟩ := (Option.any_eq_true _ _).mp hable
        obtain ⟨henabled, -⟩ := Bool.and_eq_true_iff.mp hw
        rw [start?_eq_some_iff.mpr ⟨hget, hworkflow, henabled⟩] at hstart
        cases hstart
      rw [hresult]
      exact ⟨rfl, .inl ⟨hunable, rfl, rfl⟩⟩
  | some started =>
      obtain ⟨t', w⟩ := started
      obtain ⟨hget', hworkflow, henabled⟩ := start?_eq_some_iff.mp hstart
      cases hget.symm.trans hget'
      have hresult : result = runStarted host id t w (s, world) := by simp only [result, execute, hstart]
      rw [hresult, runStarted]
      have hclock := (host.runner t.target).executeScheduled_clock w t.event world
      have hable : t.isAble host world = ((host.runner t.target).executeScheduled w t.event world).1.isOk := by
        rw [Task.isAble, hworkflow, Option.any_some, henabled, Bool.true_and]
      cases hrun : (host.runner t.target).executeScheduled w t.event world with
      | mk outcome world' =>
          rw [hrun] at hclock hable
          change world'.clock = world.clock at hclock
          cases outcome with
          | error fault => exact ⟨hclock, .inl ⟨hable, rfl, rfl⟩⟩
          | ok context =>
              have hnote : s.noteRun id t world'.clock = noted.save := by rw [noteRun_eq hget, hclock]
              simp only [hnote]
              cases hsave : noted.save with
              | mk saved s' =>
                  cases saved with
                  | error fault => exact ⟨hclock, .inr ⟨hable, rfl, rfl⟩⟩
                  | ok _ => exact ⟨hclock, .inr ⟨hable, rfl, rfl⟩⟩

/-- Nothing is changed but one task, which is noted. -/
theorem execute_scheduler (host : TaskHost) (id : Text) (state : State) :
    (execute host id state).2.1 = state.1 ∨
      ∃ t, state.1.tasks.get? id = some t ∧ (execute host id state).2.1 =
        ({ state.1 with tasks := state.1.tasks.set id (t.noted state.2.clock) } : Scheduler).save.2 := by
  cases hget : state.1.tasks.get? id with
  | none =>
      have hstart : state.1.start? host id = none := by simp [start?, hget]
      rw [execute_of_none hstart]
      exact .inl rfl
  | some t =>
      obtain ⟨-, ⟨-, -, hsame⟩ | ⟨-, -, hnoted⟩⟩ := execute_cases host hget state.2
      · exact .inl hsame
      · exact .inr ⟨t, rfl, hnoted⟩

theorem execute_clock (host : TaskHost) (id : Text) (state : State) :
    (execute host id state).2.2.clock = state.2.clock := by
  cases hget : state.1.tasks.get? id with
  | none =>
      have hstart : state.1.start? host id = none := by simp [start?, hget]
      rw [execute_of_none hstart]
  | some t => exact (execute_cases host hget state.2).1

theorem execute_get?_of_ne {other : Text} (h : id ≠ other) (host : TaskHost) (state : State) :
    (execute host id state).2.1.tasks.get? other = state.1.tasks.get? other := by
  rcases execute_scheduler host id state with hsame | ⟨t, -, hnoted⟩
  · rw [hsame]
  · rw [hnoted, save_tasks, Fields.get?_set, if_neg h]

theorem Keyed.execute (h : Keyed state.1.tasks) (host : TaskHost) (id : Text) :
    Keyed (execute host id state).2.1.tasks := by
  rcases execute_scheduler host id state with hsame | ⟨t, hget, hnoted⟩
  · rw [hsame]
    exact h
  · rw [hnoted, save_tasks, ← h.id_of_get? hget]
    exact h.set (t.noted state.2.clock)

theorem Savable.execute (h : state.1.Savable) (host : TaskHost) (id : Text) :
    (execute host id state).2.1.Savable := by
  rcases execute_scheduler host id state with hsame | ⟨t, hget, hnoted⟩
  · rw [hsame]
    exact h
  · rw [hnoted]
    exact (h.set hget (t.isEncodable_noted _)).save

/-- Where the file can be written, a task that is able to run is noted, and another one is not. -/
theorem Savable.execute_cases (h : s.Savable) (host : TaskHost) (hget : s.tasks.get? id = some t)
    (world : World) :
    let result := Scheduler.execute host id (s, world)
    (t.isAble host world = false ∧ result.1 = .ok false ∧ result.2.1.tasks.get? id = some t) ∨
      (t.isAble host world = true ∧ result.1 = .ok true ∧
        result.2.1.tasks.get? id = some (t.noted world.clock)) := by
  obtain ⟨-, ⟨hunable, hresult, hsame⟩ | ⟨hable, hresult, hnoted⟩⟩ :=
    Scheduler.execute_cases host hget world
  · refine .inl ⟨hunable, hresult, ?_⟩
    rw [hsame]
    exact hget
  · have hsaved := h.set hget (t.isEncodable_noted world.clock)
    refine .inr ⟨hable, ?_, ?_⟩
    · refine hresult.trans ?_
      rw [hsaved]
      rfl
    · rw [hnoted, save_tasks, Fields.get?_set, if_pos rfl]

/-- Then no run of a task fails. -/
theorem Savable.exists_ran (h : state.1.Savable) (host : TaskHost) (id : Text) :
    ∃ ran, (Scheduler.execute host id state).1 = .ok ran := by
  cases hget : state.1.tasks.get? id with
  | none =>
      have hstart : state.1.start? host id = none := by simp [start?, hget]
      rw [execute_of_none hstart]
      exact ⟨false, rfl⟩
  | some t =>
      rcases h.execute_cases host hget state.2 with ⟨-, hresult, -⟩ | ⟨-, hresult, -⟩
      · exact ⟨false, hresult⟩
      · exact ⟨true, hresult⟩

/-! ## The tasks that a tick starts -/

/-- A task that is started, and the state in which it is. -/
structure Start where
  host : TaskHost
  id : Text
  state : State

/-- Did the task run to its end? -/
def Start.ran (e : Start) : Bool :=
  match (execute e.host e.id e.state).1 with
  | .ok ran => ran
  | .error _ => false

/-- How often a task ran. -/
def runs (id : Text) (es : List Start) : Nat := es.countP fun e => e.id = id && e.ran

/-- The tasks that a tick starts, each in the state that those before it leave. -/
def starts (host : TaskHost) (now : Moment) : List Task → State → List Start
  | [], _ => []
  | t :: rest, state =>
    match t.isCalled now with
    | .error _ => []
    | .ok false => starts host now rest state
    | .ok true =>
      ⟨host, t.id, state⟩ ::
        match (execute host t.id state).1 with
        | .error _ => []
        | .ok _ => starts host now rest (execute host t.id state).2

section Head

variable {fault : Fault} {ran : Bool}

theorem executeDue_cons (host : TaskHost) (now : Moment) (t : Task) (rest : List Task) (state : State) :
    executeDue host now (t :: rest) state =
      match t.isCalled now with
      | .error fault => (.error fault, state)
      | .ok false => executeDue host now rest state
      | .ok true =>
        match execute host t.id state with
        | (.error fault, state) => (.error fault, state)
        | (.ok ran, state) =>
          let (r, state) := executeDue host now rest state
          (r.map fun ids => if ran then t.id :: ids else ids, state) := rfl

/-- A task that is not called is passed over. -/
theorem executeDue_passed (h : t.isCalled now = .ok false) (host : TaskHost) (tasks : List Task)
    (state : State) :
    executeDue host now (t :: tasks) state = executeDue host now tasks state ∧
      starts host now (t :: tasks) state = starts host now tasks state := by
  rw [executeDue_cons, starts, h]
  exact ⟨rfl, rfl⟩

/-- A last run outside of the calendar ends the tick. -/
theorem executeDue_broken (h : t.isCalled now = .error fault) (host : TaskHost) (tasks : List Task)
    (state : State) :
    executeDue host now (t :: tasks) state = (.error fault, state) ∧ starts host now (t :: tasks) state = [] := by
  rw [executeDue_cons, starts, h]
  exact ⟨rfl, rfl⟩

/-- So does a file that cannot be written. -/
theorem executeDue_unwritten (h : t.isCalled now = .ok true)
    (hrun : (execute host t.id state).1 = .error fault) (tasks : List Task) :
    executeDue host now (t :: tasks) state = (.error fault, (execute host t.id state).2) ∧
      starts host now (t :: tasks) state = [⟨host, t.id, state⟩] := by
  rw [executeDue_cons, starts, h, hrun]
  cases hresult : execute host t.id state with
  | mk result state' =>
      rw [hresult] at hrun
      cases hrun
      exact ⟨rfl, rfl⟩

/-- Otherwise the tick goes on behind a task that was started. -/
theorem executeDue_started (h : t.isCalled now = .ok true)
    (hrun : (execute host t.id state).1 = .ok ran) (tasks : List Task) :
    executeDue host now (t :: tasks) state =
        ((executeDue host now tasks (execute host t.id state).2).1.map
          (fun ids => if ran then t.id :: ids else ids),
        (executeDue host now tasks (execute host t.id state).2).2) ∧
      starts host now (t :: tasks) state =
        ⟨host, t.id, state⟩ :: starts host now tasks (execute host t.id state).2 := by
  rw [executeDue_cons, starts, h, hrun]
  cases hresult : execute host t.id state with
  | mk result state' =>
      rw [hresult] at hrun
      cases hrun
      exact ⟨rfl, rfl⟩

end Head

/-- Induction along a tick: it ends with a task that breaks it, passes over a task that is not called, or goes on
behind one that was started. -/
@[elab_as_elim]
theorem tick_induction (host : TaskHost) (now : Moment) {motive : List Task → State → Prop}
    (nil : ∀ state, motive [] state)
    (broken : ∀ t rest state fault, t.isCalled now = .error fault → motive (t :: rest) state)
    (passed : ∀ t rest state, t.isCalled now = .ok false → motive rest state → motive (t :: rest) state)
    (unwritten : ∀ t rest state fault, t.isCalled now = .ok true →
      (execute host t.id state).1 = .error fault → motive (t :: rest) state)
    (started : ∀ t rest state ran, t.isCalled now = .ok true → (execute host t.id state).1 = .ok ran →
      motive rest (execute host t.id state).2 → motive (t :: rest) state)
    (tasks : List Task) (state : State) : motive tasks state := by
  induction tasks generalizing state with
  | nil => exact nil state
  | cons t rest ih =>
      cases hcalled : t.isCalled now with
      | error fault => exact broken t rest state fault hcalled
      | ok called =>
          cases called with
          | false => exact passed t rest state hcalled (ih state)
          | true =>
              cases hrun : (execute host t.id state).1 with
              | error fault => exact unwritten t rest state fault hcalled hrun
              | ok ran => exact started t rest state ran hcalled hrun (ih (execute host t.id state).2)

/-- What the runs of its tasks keep, a tick keeps. -/
theorem executeDue_keeps {P : State → Prop}
    (hrun : ∀ t ∈ tasks, ∀ state, P state → P (execute host t.id state).2) (h : P state) :
    P (executeDue host now tasks state).2 := by
  induction tasks, state using tick_induction host now with
  | nil state => exact h
  | broken t rest state fault hcalled =>
      rw [(executeDue_broken hcalled host rest state).1]
      exact h
  | passed t rest state hcalled ih =>
      rw [(executeDue_passed hcalled host rest state).1]
      exact ih (List.forall_mem_cons.mp hrun).2 h
  | unwritten t rest state fault hcalled hresult =>
      rw [(executeDue_unwritten hcalled hresult rest).1]
      exact hrun t List.mem_cons_self state h
  | started t rest state ran hcalled hresult ih =>
      obtain ⟨hfirst, hothers⟩ := List.forall_mem_cons.mp hrun
      rw [(executeDue_started hcalled hresult rest).1]
      exact ih hothers (hfirst state h)

theorem Keyed.executeDue (h : Keyed state.1.tasks) (host : TaskHost) (now : Moment) (tasks : List Task) :
    Keyed (executeDue host now tasks state).2.1.tasks :=
  executeDue_keeps (P := fun state => Keyed state.1.tasks) (fun t _ _ h => h.execute host t.id) h

theorem Savable.executeDue (h : state.1.Savable) (host : TaskHost) (now : Moment) (tasks : List Task) :
    (executeDue host now tasks state).2.1.Savable :=
  executeDue_keeps (P := fun state => state.1.Savable) (fun t _ _ h => h.execute host t.id) h

/-! ## A task of a tick -/

theorem runs_cons (id : Text) (e : Start) (es : List Start) :
    runs id (e :: es) = runs id es + if e.id = id ∧ e.ran = true then 1 else 0 := by
  simp [runs, List.countP_cons]

theorem id_ne_of_notMem (hid : id ∉ tasks.map (·.id)) (ht : t ∈ tasks) : t.id ≠ id := by
  have hmem : t.id ∈ tasks.map (·.id) := List.mem_map_of_mem ht
  rintro rfl
  exact hid hmem

/-- A tick leaves a task alone that is none of its tasks. -/
theorem executeDue_of_notMem (hid : id ∉ tasks.map (·.id)) :
    (executeDue host now tasks state).2.1.tasks.get? id = state.1.tasks.get? id :=
  executeDue_keeps (P := fun state' => state'.1.tasks.get? id = state.1.tasks.get? id)
    (fun _ ht _ h => (execute_get?_of_ne (id_ne_of_notMem hid ht) host _).trans h) rfl

theorem id_of_mem_starts {e : Start} (h : e ∈ starts host now tasks state) : e.id ∈ tasks.map (·.id) := by
  induction tasks, state using tick_induction host now with
  | nil state => cases h
  | broken t rest state fault hcalled =>
      rw [(executeDue_broken hcalled host rest state).2] at h
      cases h
  | passed t rest state hcalled ih =>
      rw [(executeDue_passed hcalled host rest state).2] at h
      exact List.mem_cons_of_mem _ (ih h)
  | unwritten t rest state fault hcalled hrun =>
      rw [(executeDue_unwritten hcalled hrun rest).2] at h
      rw [List.mem_singleton.mp h]
      exact List.mem_cons_self
  | started t rest state ran hcalled hrun ih =>
      rw [(executeDue_started hcalled hrun rest).2] at h
      rcases List.mem_cons.mp h with rfl | hrest
      · exact List.mem_cons_self
      · exact List.mem_cons_of_mem _ (ih hrest)

theorem runs_of_notMem (hid : id ∉ tasks.map (·.id)) : runs id (starts host now tasks state) = 0 := by
  refine List.countP_eq_zero.mpr ?_
  intro e he
  have hne : e.id ≠ id := by
    rintro rfl
    exact hid (id_of_mem_starts he)
  simp [hne]

/-- A tick comes to its end if the file can be written, and if no enabled task ran last outside of the
calendar. -/
theorem executeDue_ok (host : TaskHost) (now : Moment) (state : State) (hsavable : state.1.Savable)
    (hreadable : ∀ u ∈ tasks, u.enabled = true → u.lastMoment.isOk = true) :
    ∃ ids, (executeDue host now tasks state).1 = .ok ids := by
  induction tasks, state using tick_induction host now with
  | nil state => exact ⟨[], rfl⟩
  | broken u rest state fault hcalled =>
      obtain ⟨called, hok⟩ := Task.exists_called (hreadable u List.mem_cons_self) now
      rw [hcalled] at hok
      cases hok
  | passed u rest state hcalled ih =>
      rw [(executeDue_passed hcalled host rest state).1]
      exact ih hsavable (List.forall_mem_cons.mp hreadable).2
  | unwritten u rest state fault hcalled hrun =>
      obtain ⟨ran, hran⟩ := hsavable.exists_ran host u.id
      rw [hrun] at hran
      cases hran
  | started u rest state ran hcalled hrun ih =>
      obtain ⟨ids, hrest⟩ := ih (hsavable.execute host u.id) (List.forall_mem_cons.mp hreadable).2
      rw [(executeDue_started hcalled hrun rest).1, hrest]
      exact ⟨_, rfl⟩

/-- What a tick does with a task: it runs once and is noted, as it is called; or it is left as it is, and it is
not called, or the tick does not come to its end, or the task is not able to run when it is started. -/
theorem executeDue_task (host : TaskHost) (now : Moment) (state : State)
    (hnodup : (tasks.map (·.id)).Nodup) (ht : t ∈ tasks) (hsavable : state.1.Savable)
    (hget : state.1.tasks.get? t.id = some t) :
    (t.isCalled now = .ok true ∧ runs t.id (starts host now tasks state) = 1 ∧
        (executeDue host now tasks state).2.1.tasks.get? t.id = some (t.noted state.2.clock)) ∨
      (runs t.id (starts host now tasks state) = 0 ∧
        (executeDue host now tasks state).2.1.tasks.get? t.id = some t ∧
        (t.isCalled now ≠ .ok true ∨ (∃ fault, (executeDue host now tasks state).1 = .error fault) ∨
          ∃ e ∈ starts host now tasks state, e.id = t.id ∧ t.isAble e.host e.state.2 = false)) := by
  induction tasks, state using tick_induction host now with
  | nil state => cases ht
  | broken u rest state fault hcalled =>
      obtain ⟨hexecute, hstarts⟩ := executeDue_broken hcalled host rest state
      rw [hexecute, hstarts]
      exact .inr ⟨rfl, hget, .inr (.inl ⟨fault, rfl⟩)⟩
  | passed u rest state hcalled ih =>
      obtain ⟨hnew, hrest⟩ := List.nodup_cons.mp hnodup
      obtain ⟨hexecute, hstarts⟩ := executeDue_passed hcalled host rest state
      rw [hexecute, hstarts]
      rcases List.mem_cons.mp ht with rfl | hmem
      · rw [executeDue_of_notMem hnew, runs_of_notMem hnew, hcalled]
        exact .inr ⟨rfl, hget, .inl nofun⟩
      · exact ih hrest hmem hsavable hget
  | unwritten u rest state fault hcalled hrun =>
      obtain ⟨ran, hran⟩ := hsavable.exists_ran host u.id
      rw [hrun] at hran
      cases hran
  | started u rest state ran hcalled hrun ih =>
      obtain ⟨hnew, hrest⟩ := List.nodup_cons.mp hnodup
      obtain ⟨hexecute, hstarts⟩ := executeDue_started hcalled hrun rest
      rw [hexecute, hstarts, runs_cons]
      rcases List.mem_cons.mp ht with rfl | hmem
      · -- the rest of the tick leaves the task as its run does
        rw [executeDue_of_notMem hnew, runs_of_notMem hnew]
        rcases hsavable.execute_cases host hget state.2 with
            ⟨hunable, hresult, hsame⟩ | ⟨-, hresult, hnoted⟩
        · exact .inr ⟨by simp [Start.ran, hresult], hsame,
            .inr (.inr ⟨_, List.mem_cons_self, rfl, hunable⟩)⟩
        · exact .inl ⟨hcalled, by simp [Start.ran, hresult], hnoted⟩
      · -- another task leaves this one, and the clock, alone
        have hne : u.id ≠ t.id := (id_ne_of_notMem hnew hmem).symm
        have hget' := (execute_get?_of_ne hne host state).trans hget
        have hbehind := ih hrest hmem (hsavable.execute host u.id) hget'
        simp only [hne, false_and, if_false, Nat.add_zero]
        rw [← execute_clock host u.id state]
        refine hbehind.imp_right ?_
        rintro ⟨hruns, hsame, hwhy⟩
        refine ⟨hruns, hsame, hwhy.imp_right (Or.imp ?_ ?_)⟩
        · rintro ⟨fault, hfault⟩
          rw [hfault]
          exact ⟨fault, rfl⟩
        · rintro ⟨e, he, hunable⟩
          exact ⟨e, List.mem_cons_of_mem _ he, hunable⟩

end Scheduler

namespace Scheduler

/-! ## What is done to a scheduler -/

/-- What may be done to a scheduler. -/
inductive Deed where
  | add (payload : Value)
  | remove (id : Text)
  | toggle (id : Text)
  | runNow (id : Text)
  | tick

/-- A deed, and the surroundings in which it is done. -/
structure Turn where
  deed : Deed
  host : TaskHost
  world : World

namespace Turn

/-- The time at which the deed is done. -/
def clock (c : Turn) : Moment := c.world.clock

/-- The scheduler after the turn. -/
def perform (c : Turn) (s : Scheduler) : Scheduler :=
  match c.deed with
  | .add payload => (s.add payload).2
  | .remove id => (s.remove id).2
  | .toggle id => (s.toggle id).2
  | .runNow id => (runNow c.host id (s, c.world)).2.1
  | .tick => (tick c.host (s, c.world)).2.1

/-- The tasks that are started. -/
def starts (c : Turn) (s : Scheduler) : List Start :=
  match c.deed with
  | .runNow id => if s.tasks.has id then [⟨c.host, id, s, c.world⟩] else []
  | .tick => Scheduler.starts c.host c.clock (s.tasks.map Prod.snd) (s, c.world)
  | _ => []

/-- Is it a tick? -/
def isTick (c : Turn) : Bool :=
  match c.deed with
  | .tick => true
  | _ => false

theorem deed_of_isTick {c : Turn} (h : c.isTick = true) : c.deed = .tick := by
  unfold isTick at h
  split at h
  · assumption
  · cases h

/-- Are the same tasks there afterwards? -/
def keepsTasks (c : Turn) : Bool :=
  match c.deed with
  | .add _ | .remove _ => false
  | _ => true

end Turn

/-- The scheduler after all turns. -/
def past : List Turn → Scheduler → Scheduler
  | [], s => s
  | c :: later, s => past later (c.perform s)

variable {s : Scheduler} {u : Task} {c : Turn}

theorem Keyed.perform (h : Keyed s.tasks) (c : Turn) : Keyed (c.perform s).tasks := by
  unfold Turn.perform
  split
  · exact h.add _
  · exact h.remove _
  · exact h.toggle _
  · unfold Scheduler.runNow
    split
    · exact h.execute c.host _
    · exact h
  · exact h.executeDue c.host _ _

theorem Keyed.past (h : Keyed s.tasks) (before : List Turn) : Keyed (past before s).tasks := by
  induction before generalizing s with
  | nil => exact h
  | cons c before ih => exact ih (h.perform c)

theorem Savable.perform (h : s.Savable) (hkeeps : c.keepsTasks = true) : (c.perform s).Savable := by
  unfold Turn.keepsTasks at hkeeps
  unfold Turn.perform
  split
  · next hdeed =>
      rw [hdeed] at hkeeps
      cases hkeeps
  · next hdeed =>
      rw [hdeed] at hkeeps
      cases hkeeps
  · exact h.toggle _
  · unfold Scheduler.runNow
    split
    · exact h.execute c.host _
    · exact h
  · exact h.executeDue c.host _ _

/-! ## A task in a turn -/

/-- A turn runs a task once and notes it, which a tick does only if the task is called; or it does not run the
task, which may be switched. -/
theorem Turn.step (hkeyed : Keyed s.tasks) (hsavable : s.Savable) (hkeeps : c.keepsTasks = true)
    (hget : s.tasks.get? u.id = some u) :
    (runs u.id (c.starts s) = 1 ∧ (c.perform s).tasks.get? u.id = some (u.noted c.clock) ∧
        (c.isTick = true → u.isCalled c.clock = .ok true)) ∨
      (runs u.id (c.starts s) = 0 ∧
        ∃ enabled, (c.perform s).tasks.get? u.id = some { u with enabled := enabled }) := by
  obtain ⟨deed, host, world⟩ := c
  cases deed with
  | add payload => cases hkeeps
  | remove id => cases hkeeps
  | toggle id =>
      refine .inr ⟨rfl, ?_⟩
      show ∃ enabled, (s.toggle id).2.tasks.get? u.id = _
      cases htoggled : s.tasks.get? id with
      | none =>
          rw [toggle_of_missing htoggled]
          exact ⟨u.enabled, hget⟩
      | some t =>
          -- it is the task itself that is switched, or another one
          rw [toggle_eq htoggled, save_tasks, Fields.get?_set]
          split
          · next hsame =>
              rw [hsame, hget] at htoggled
              cases htoggled
              exact ⟨_, rfl⟩
          · exact ⟨u.enabled, hget⟩
  | runNow id =>
      simp only [Turn.starts, Turn.perform, runNow]
      by_cases hhas : s.tasks.has id = true
      · simp only [hhas, if_true]
        by_cases hsame : id = u.id
        · subst hsame
          rcases hsavable.execute_cases host hget world with ⟨-, hresult, hleft⟩ | ⟨-, hresult, hnoted⟩
          · exact .inr ⟨by simp [runs, Start.ran, hresult], u.enabled, hleft⟩
          · refine .inl ⟨by simp [runs, Start.ran, hresult], hnoted, ?_⟩
            rintro ⟨⟩
        · refine .inr ⟨by simp [runs, hsame], u.enabled, ?_⟩
          exact (execute_get?_of_ne hsame host (s, world)).trans hget
      · simp only [hhas]
        exact .inr ⟨rfl, u.enabled, hget⟩
  | tick =>
      have hmem : u ∈ s.tasks.map Prod.snd := Keyed.mem_of_get? hget
      rcases executeDue_task host world.clock (s, world) hkeyed.nodup_ids hmem hsavable hget with
          ⟨hcalled, hruns, hnoted⟩ | ⟨hruns, hleft, -⟩
      · exact .inl ⟨hruns, hnoted, fun _ => hcalled⟩
      · exact .inr ⟨hruns, u.enabled, hleft⟩

end Scheduler

end ChatFlow
