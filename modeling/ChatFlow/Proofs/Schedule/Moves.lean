import ChatFlow.Proofs.Schedule.Documents
import ChatFlow.Proofs.Schedule.Periods
import ChatFlow.Proofs.Schedule.Rounds

/-!
# Changes while runs are in progress

The run of a task is two steps: it is started with the task as it is then, and it is finished, or fails, with the task
as it is by then. In between the scheduler goes on with other things: tasks are added, removed and switched, and more
runs are started. A task that stays there is noted once for each run of it that is finished, and keeps the changes
that were made meanwhile. A task that was removed stays away, and out of the file, unless a run of it was in progress:
when that is finished, the task comes back as it was when the run was started.

* `Scheduler.Busy`: a scheduler with its runs in progress.
* `Scheduler.Move`, `Scheduler.afterMoves`: what is done, step by step, in any order.
* `Scheduler.Start.afterMoves_moves`: a run with nothing in between is its two steps.
* `Scheduler.Busy.Tidy`: what the tasks and the runs in progress are like.
* `Scheduler.Move.task?_step`, `Scheduler.Move.task?_step_of_missing`: what becomes of a task in a step.
* `Scheduler.changes_while_running`: what becomes of it in all of them.
* `Scheduler.removed_comes_back`: tasks that were removed, and are there again.
-/

namespace ChatFlow

namespace Scheduler

/-- A run in progress: whose it is, and the task as it was when the run was started. -/
structure Running where
  id : Text
  task : Task

/-- A scheduler, and its runs in progress in the order of their starts. -/
structure Busy where
  scheduler : Scheduler
  running : List Running

/-- One step of what is done to a scheduler. -/
inductive Move where
  | add (payload : Value)
  | remove (id : Text)
  | toggle (id : Text)
  | start (host : TaskHost) (id : Text)
  /-- The run at a place comes to its end, at a time. -/
  | finish (place : Nat) (now : Moment)
  /-- The run at a place ends in a fault. -/
  | fail (place : Nat)

/-- A scheduler of which no run is in progress. -/
def idle (s : Scheduler) : Busy := ⟨s, []⟩

namespace Busy

/-- The task of an id. -/
def task? (b : Busy) (id : Text) : Option Task := b.scheduler.tasks.get? id

/-- The entry of a name that is no task. -/
def other? (b : Busy) (name : Text) : Option Value := b.scheduler.unread.get? name

/-- What stands in the file under a name. -/
def written? (b : Busy) (name : Text) : Option Value := (entries b.scheduler.file).get? name

/-- The run at a place, if it is one of a task. -/
def runAt? (b : Busy) (id : Text) (place : Nat) : Option Running := b.running[place]?.filter fun run => run.id = id

end Busy

namespace Move

/-- What a step makes of the scheduler and its runs. -/
def step : Move → Busy → Busy
  | add payload, b => { b with scheduler := (b.scheduler.add payload).2 }
  | remove id, b => { b with scheduler := (b.scheduler.remove id).2 }
  | toggle id, b => { b with scheduler := (b.scheduler.toggle id).2 }
  | start host id, b =>
    match b.scheduler.start? host id with
    | none => b
    | some (t, _) => { b with running := b.running ++ [⟨id, t⟩] }
  | finish place now, b =>
    match b.running[place]? with
    | none => b
    | some run => ⟨(b.scheduler.noteRun run.id run.task now).2, b.running.eraseIdx place⟩
  | fail place, b => { b with running := b.running.eraseIdx place }

/-- When a run of a task is finished in the step. -/
def end? (id : Text) : Move → Busy → Option Moment
  | finish place now, b => (b.runAt? id place).map fun _ => now
  | _, _ => none

/-- Does the step switch the task? -/
def switches (id : Text) : Move → Bool
  | toggle other => other = id
  | _ => false

/-- The step puts a task. -/
def Puts (m : Move) (b : Busy) (t : Task) : Prop :=
  ∃ payload, m = add payload ∧ Scheduler.Puts b.scheduler payload t

/-- Does a run end at a time of the calendar, if one is finished? -/
def inCalendar : Move → Bool
  | finish _ now => now.inCalendar
  | _ => true

end Move

/-- The scheduler and its runs after all steps. -/
def afterMoves : List Move → Busy → Busy
  | [], b => b
  | m :: later, b => afterMoves later (m.step b)

/-- When runs of a task are finished. -/
def ends (id : Text) : List Move → Busy → List Moment
  | [], _ => []
  | m :: later, b => (m.end? id b).toList ++ ends id later (m.step b)

/-- Is the task switched an odd number of times? -/
def switched (id : Text) : List Move → Bool
  | [] => false
  | m :: later => m.switches id ^^ switched id later

/-- None of the steps puts the task of an id. -/
def NeverPut (id : Text) : List Move → Busy → Prop
  | [], _ => True
  | m :: later, b => (∀ t, m.Puts b t → t.id ≠ id) ∧ NeverPut id later (m.step b)

/-- Nothing is put under an id that is not sent. -/
theorem neverPut_of_sent {id : Text} {later : List Move}
    (h : ∀ payload, .add payload ∈ later → Check.text (payload.fieldOrNull "id") ≠ .accepted id) (b : Busy) :
    NeverPut id later b := by
  induction later generalizing b with
  | nil => trivial
  | cons m later ih =>
      constructor
      · rintro t ⟨payload, rfl, hputs⟩ rfl
        exact h payload List.mem_cons_self hputs.sent
      · exact ih (fun payload hmem => h payload (List.mem_cons_of_mem _ hmem)) (m.step b)

variable {s : Scheduler} {b : Busy} {t : Task} {id : Text} {m : Move} {before later : List Move}

/-- The run is noted: of the task that is there, or else of the one that the run was started with. -/
def Running.noted (run : Running) (now : Moment) (s : Scheduler) : Scheduler :=
  { s with tasks := s.tasks.set run.id (((s.tasks.get? run.id).getD run.task).noted now) }

namespace Move

/-- A run is started of a task that is there, and the scheduler is left alone. -/
theorem step_start (host : TaskHost) (id : Text) (b : Busy) :
    (start host id).step b = b ∨ ∃ t, b.task? id = some t ∧
      (start host id).step b = { b with running := b.running ++ [⟨id, t⟩] } := by
  cases hstart : b.scheduler.start? host id with
  | none =>
      left
      rw [step, hstart]
  | some started =>
      obtain ⟨t, w⟩ := started
      right
      refine ⟨t, (start?_eq_some_iff.mp hstart).1, ?_⟩
      rw [step, hstart]

/-- Finishing one notes it, and writes the file. -/
theorem step_finish (place : Nat) (now : Moment) (b : Busy) :
    (b.running[place]? = none ∧ (finish place now).step b = b) ∨ ∃ run, b.running[place]? = some run ∧
      (finish place now).step b = ⟨(run.noted now b.scheduler).save.2, b.running.eraseIdx place⟩ := by
  cases hrun : b.running[place]? with
  | none =>
      left
      rw [step, hrun]
      exact ⟨rfl, rfl⟩
  | some run =>
      right
      refine ⟨run, rfl, ?_⟩
      rw [step, hrun]
      rfl

theorem task?_remove (other id : Text) (b : Busy) :
    ((remove other).step b).task? id = if other = id then none else b.task? id :=
  remove_get? b.scheduler other id

theorem task?_toggle (other id : Text) (b : Busy) :
    ((toggle other).step b).task? id = (b.task? id).map fun t => { t with enabled := t.enabled ^^ decide (other = id) } :=
  toggle_get? b.scheduler other id

theorem task?_start (host : TaskHost) (other id : Text) (b : Busy) :
    ((start host other).step b).task? id = b.task? id := by
  rcases step_start host other b with hsame | ⟨t, -, hstarted⟩
  · rw [hsame]
  · rw [hstarted]
    rfl

/-- A task of which a run is finished is noted as it is by then, or else as it was when the run was started. -/
theorem task?_finish (place : Nat) (now : Moment) (id : Text) (b : Busy) :
    ((finish place now).step b).task? id =
      (b.runAt? id place).elim (b.task? id) fun run => some (((b.task? id).getD run.task).noted now) := by
  rcases step_finish place now b with ⟨hnone, hsame⟩ | ⟨run, hrun, hfinished⟩
  · rw [hsame, Busy.runAt?, hnone]
    rfl
  · have hset : ((finish place now).step b).task? id =
        if run.id = id then some (((b.task? run.id).getD run.task).noted now) else b.task? id := by
      rw [hfinished]
      exact Fields.get?_set b.scheduler.tasks run.id id _
    rw [hset, Busy.runAt?, hrun]
    split
    · next hid => simp [Option.filter, hid]
    · next hid => simp [Option.filter, hid]

end Move

/-! ## A run with nothing in between -/

/-- The steps of a run that is started: it is finished if it comes to its end, and fails otherwise. -/
def Start.moves (course : Course) (e : Start) (place : Nat) : List Move :=
  [.start e.host e.id, (e.finish? course).elim (.fail place) fun f => .finish place f.time]

/-- If nothing is done in between, these two steps make of the scheduler what the run of the task makes of it. -/
theorem Start.afterMoves_moves (course : Course) (e : Start) (running : List Running) :
    afterMoves (e.moves course running.length) ⟨e.state.1, running⟩ =
      ⟨(executeBy course e.host e.id e.state).2.1, running⟩ := by
  obtain ⟨host, id, s, world⟩ := e
  rw [executeBy_scheduler, moves]
  dsimp only [afterMoves, Move.step]
  cases hstart : s.start? host id with
  | none =>
      -- nothing is started, and there is no run at the place
      have hfinish : Start.finish? course ⟨host, id, s, world⟩ = none := by
        rw [finish?, hstart]
        rfl
      have hnone : running.eraseIdx running.length = running := List.eraseIdx_of_length_le (Nat.le_refl _)
      rw [hfinish]
      exact congrArg (Busy.mk s) hnone
  | some started =>
      obtain ⟨t, w⟩ := started
      obtain ⟨hget, -, -⟩ := start?_eq_some_iff.mp hstart
      have herased : (running ++ [⟨id, t⟩] : List Running).eraseIdx running.length = running := by
        rw [List.eraseIdx_append_of_length_le (Nat.le_refl _), Nat.sub_self, List.eraseIdx_cons_zero, List.append_nil]
      cases hfinish : Start.finish? course ⟨host, id, s, world⟩ with
      | none =>
          show Busy.mk s _ = _
          rw [herased]
          rfl
      | some f =>
          have hid : f.id = id := Start.id_of_finish? hfinish
          have hnoted : s.note f = (s.noteRun id t f.time).2 := by
            rw [noteRun_eq hget, note, hid, hget]
            rfl
          have hrun : (running ++ [⟨id, t⟩] : List Running)[running.length]? = some ⟨id, t⟩ := by simp
          dsimp only [Option.elim_some, Move.step]
          rw [hrun, hnoted]
          dsimp only
          rw [herased]

/-! ## What the tasks and the runs in progress are like -/

/-- The scheduler is tidy, and the tasks that runs were started with have their ids, and last runs that can be read
back. -/
structure Busy.Tidy (b : Busy) : Prop where
  scheduler : b.scheduler.Tidy
  running : ∀ run ∈ b.running, run.task.id = run.id ∧ run.task.Recordable

/-- So they are when a file is opened, and no run is in progress. -/
theorem tidy_idle (f : File) : (idle (ofFile f)).Tidy where
  scheduler := tidy_ofFile f
  running := by simp [idle]

theorem Busy.Tidy.step (h : b.Tidy) (hm : m.inCalendar = true) : (m.step b).Tidy := by
  cases m with
  | add payload => exact ⟨h.scheduler.add payload, h.running⟩
  | remove id => exact ⟨h.scheduler.remove id, h.running⟩
  | toggle id => exact ⟨h.scheduler.toggle id, h.running⟩
  | fail place => exact ⟨h.scheduler, fun run hrun => h.running run (List.mem_of_mem_eraseIdx hrun)⟩
  | start host id =>
      rcases Move.step_start host id b with hsame | ⟨t, hget, hstarted⟩
      · rw [hsame]
        exact h
      · rw [hstarted]
        constructor
        · exact h.scheduler
        · intro run hrun
          rcases List.mem_append.mp hrun with hold | hnew
          · exact h.running run hold
          · obtain rfl := List.mem_singleton.mp hnew
            exact ⟨h.scheduler.keyed.id_of_get? hget, h.scheduler.recordable _ (Fields.mem_of_get? hget)⟩
  | finish place now =>
      rcases Move.step_finish place now b with ⟨-, hsame⟩ | ⟨run, hrun, hfinished⟩
      · rw [hsame]
        exact h
      · rw [hfinished]
        constructor
        · -- whether it is there or not, the task that is noted has the id of the run
          obtain ⟨hid, -⟩ := h.running run (List.mem_of_getElem? hrun)
          have hsame : (((b.task? run.id).getD run.task).noted now).id = run.id := by
            cases hget : b.task? run.id with
            | none => exact hid
            | some t =>
                have hkept : t.id = run.id := h.scheduler.keyed.id_of_get? hget
                exact hkept
          have hset := h.scheduler.set (Task.Recordable.noted hm ((b.task? run.id).getD run.task))
          rw [hsame] at hset
          exact hset.save
        · exact fun run hrun => h.running run (List.mem_of_mem_eraseIdx hrun)

theorem Busy.Tidy.afterMoves (h : b.Tidy) (hclock : ∀ m ∈ later, m.inCalendar = true) : (afterMoves later b).Tidy := by
  induction later generalizing b with
  | nil => exact h
  | cons m later ih =>
      obtain ⟨hm, hrest⟩ := List.forall_mem_cons.mp hclock
      exact ih (h.step hm) hrest

/-! ## What becomes of a task -/

namespace Move

/-- In a step that neither puts nor removes it, a task that is there is noted if a run of it is finished, and switched
if it is switched. -/
theorem task?_step (hget : b.task? id = some t) (hput : ∀ u, m.Puts b u → u.id ≠ id) (hremove : m ≠ remove id) :
    (m.step b).task? id =
      some { t.notedAll (m.end? id b).toList with enabled := t.enabled ^^ m.switches id } := by
  have hsame : some t = some { t.notedAll [] with enabled := t.enabled ^^ false } := by simp [Task.notedAll]
  cases m with
  | add payload =>
      refine (add_get? ?_).trans (hget.trans hsame)
      exact fun u hputs => hput u ⟨payload, rfl, hputs⟩
  | remove other =>
      have hne : ¬ other = id := fun h => hremove (congrArg remove h)
      rw [task?_remove, if_neg hne, hget]
      exact hsame
  | toggle other =>
      rw [task?_toggle, hget]
      rfl
  | fail place => exact hget.trans hsame
  | start host other =>
      rw [task?_start, hget]
      exact hsame
  | finish place now =>
      rw [task?_finish, end?, hget]
      cases b.runAt? id place with
      | none => exact hsame
      | some run => simp [Task.notedAll, Task.noted, switches]

/-- A task that is not there stays away in a step that does not put it, if no run of it is finished. -/
theorem task?_step_of_missing (hget : b.task? id = none) (hput : ∀ u, m.Puts b u → u.id ≠ id)
    (hend : m.end? id b = none) : (m.step b).task? id = none := by
  cases m with
  | add payload =>
      refine (add_get? ?_).trans hget
      exact fun u hputs => hput u ⟨payload, rfl, hputs⟩
  | remove other => rw [task?_remove, hget, ite_self]
  | toggle other =>
      rw [task?_toggle, hget]
      rfl
  | fail place => exact hget
  | start host other => rw [task?_start, hget]
  | finish place now =>
      rw [task?_finish, Option.map_eq_none_iff.mp hend]
      exact hget

/-- If no run of a task is in progress, none is finished. -/
theorem end?_eq_none (m : Move) (hrunning : ∀ run ∈ b.running, run.id ≠ id) : m.end? id b = none := by
  cases m with
  | finish place now =>
      refine Option.map_eq_none_iff.mpr (Option.filter_eq_none_iff.mpr ?_)
      intro run hrun
      simp [hrunning run (List.mem_of_getElem? hrun)]
  | _ => rfl

/-- The runs in progress after a step were in progress before, or the step started one. -/
theorem running_cases (m : Move) {run : Running} (hrun : run ∈ (m.step b).running) :
    run ∈ b.running ∨ ∃ host t, m = start host run.id ∧ b.task? run.id = some t := by
  cases m with
  | add payload => exact .inl hrun
  | remove other => exact .inl hrun
  | toggle other => exact .inl hrun
  | fail place => exact .inl (List.mem_of_mem_eraseIdx hrun)
  | start host other =>
      rcases step_start host other b with hleft | ⟨t, hfound, hstarted⟩
      · rw [hleft] at hrun
        exact .inl hrun
      · rw [hstarted] at hrun
        rcases List.mem_append.mp hrun with hold | hnew
        · exact .inl hold
        · obtain rfl := List.mem_singleton.mp hnew
          exact .inr ⟨host, t, rfl, hfound⟩
  | finish place now =>
      rcases step_finish place now b with ⟨-, hleft⟩ | ⟨_, -, hfinished⟩
      · rw [hleft] at hrun
        exact .inl hrun
      · rw [hfinished] at hrun
        exact .inl (List.mem_of_mem_eraseIdx hrun)

/-- A run of a task that is not there is not started, so none is finished if none was in progress. -/
theorem running_step (m : Move) (hget : b.task? id = none) (hrunning : ∀ run ∈ b.running, run.id ≠ id) :
    m.end? id b = none ∧ ∀ run ∈ (m.step b).running, run.id ≠ id := by
  refine ⟨m.end?_eq_none hrunning, ?_⟩
  rintro run hrun rfl
  rcases m.running_cases hrun with hold | ⟨host, t, -, hfound⟩
  · exact hrunning run hold rfl
  · rw [hget] at hfound
    cases hfound

/-- An entry that is no task is left alone, unless it is removed. -/
theorem other?_step_cases (m : Move) (b : Busy) (id : Text) :
    (m.step b).other? id = b.other? id ∨ (m = remove id ∧ (m.step b).other? id = none) := by
  cases m with
  | add payload =>
      left
      show (b.scheduler.add payload).2.unread.get? id = _
      rcases add_cases b.scheduler payload with ⟨hsame, -⟩ | ⟨t, hputs⟩
      · rw [hsame]
        rfl
      · rw [hputs.add_eq]
        rfl
  | remove other =>
      have herased : (b.scheduler.unread.erase other).get? id = b.other? id ∨
          (remove other = remove id ∧ (b.scheduler.unread.erase other).get? id = none) := by
        by_cases hsame : id = other
        · rw [hsame]
          exact .inr ⟨rfl, Fields.get?_erase_self _ _⟩
        · exact .inl (Fields.get?_erase_of_ne _ hsame)
      unfold Busy.other? at herased ⊢
      unfold step Scheduler.remove
      dsimp only
      split
      · exact .inl rfl
      · split
        · exact herased
        · exact herased
  | toggle other =>
      left
      show (b.scheduler.toggle other).2.unread.get? id = _
      unfold Scheduler.toggle
      split
      · rfl
      · rfl
  | fail place => exact .inl rfl
  | start host other =>
      left
      rcases step_start host other b with hleft | ⟨t, -, hstarted⟩
      · rw [hleft]
      · rw [hstarted]
        rfl
  | finish place now =>
      left
      rcases step_finish place now b with ⟨-, hleft⟩ | ⟨run, -, hfinished⟩
      · rw [hleft]
      · rw [hfinished]
        rfl

/-- Entries that are no tasks are not added. -/
theorem other?_step (h : b.other? id = none) (m : Move) : (m.step b).other? id = none := by
  rcases m.other?_step_cases b id with hsame | ⟨-, hnone⟩
  · exact hsame.trans h
  · exact hnone

/-- A step leaves the file alone, or writes it at its end. -/
theorem step_file (m : Move) (b : Busy) : (m.step b).scheduler.file = b.scheduler.file ∨
    ∃ s : Scheduler, s.file = b.scheduler.file ∧ (m.step b).scheduler = s.save.2 := by
  cases m with
  | add payload => exact add_file b.scheduler payload
  | remove id => exact (remove_file b.scheduler id).imp_left And.left
  | toggle id => exact toggle_file b.scheduler id
  | fail place => exact .inl rfl
  | start host id =>
      left
      rcases step_start host id b with hleft | ⟨t, -, hstarted⟩
      · rw [hleft]
      · rw [hstarted]
  | finish place now =>
      rcases step_finish place now b with ⟨-, hleft⟩ | ⟨run, -, hfinished⟩
      · left
        rw [hleft]
      · right
        rw [hfinished]
        exact ⟨run.noted now b.scheduler, rfl, rfl⟩

/-- An id of no task does not come into the file, whether the step writes it in full or not. -/
theorem written?_step (h : (m.step b).Tidy) (hfaultless : Json.fault? (m.step b).scheduler.document = none)
    (htask : (m.step b).task? id = none) (hunread : (m.step b).other? id = none) (hfile : b.written? id = none) :
    (m.step b).written? id = none := by
  unfold Busy.written? at hfile ⊢
  rcases m.step_file b with hsame | ⟨s, hs, hsave⟩
  · rw [hsame]
    exact hfile
  · have htidy := h.scheduler
    rw [hsave] at hfaultless
    rcases s.save_cases hfaultless with hprintable | hleft | hnone
    · rw [← hsave] at hprintable
      exact entries_get?_of_save hsave htidy hprintable htask hunread
    · rw [hsave, hleft, hs]
      exact hfile
    · rw [hsave, hnone]
      rfl

end Move

/-! ## What becomes of it in several steps -/

/-- A task that stays there is noted for each of its runs that is finished, and keeps its switch as it was left. -/
theorem task?_afterMoves (hget : b.task? id = some t) (hnever : NeverPut id later b)
    (hkept : ∀ m ∈ later, m ≠ .remove id) :
    (afterMoves later b).task? id =
      some { t.notedAll (ends id later b) with enabled := t.enabled ^^ switched id later } := by
  induction later generalizing b t with
  | nil =>
      rw [ends, switched, Bool.xor_false]
      exact hget
  | cons m later ih =>
      obtain ⟨hm, hlater⟩ := List.forall_mem_cons.mp hkept
      obtain ⟨hput, hnever⟩ := hnever
      have hstep := Move.task?_step hget hput hm
      rw [afterMoves, ih hstep hnever hlater, ends, switched, Task.notedAll_append, Task.notedAll_switched,
        Bool.xor_assoc]

/-- A task that is not there stays away, if it is not added and no run of it is finished. -/
theorem task?_afterMoves_of_missing (hget : b.task? id = none) (hnever : NeverPut id later b)
    (hends : ends id later b = []) : (afterMoves later b).task? id = none := by
  induction later generalizing b with
  | nil => exact hget
  | cons m later ih =>
      obtain ⟨hput, hnever⟩ := hnever
      obtain ⟨hnow, hlater⟩ := List.append_eq_nil_iff.mp hends
      exact ih (Move.task?_step_of_missing hget hput (Option.toList_eq_nil_iff.mp hnow)) hnever hlater

/-- It stays out of the file as well. -/
theorem written?_afterMoves_of_missing (h : b.Tidy) (hclock : ∀ m ∈ later, m.inCalendar = true)
    (hget : b.task? id = none) (hunread : b.other? id = none) (hnever : NeverPut id later b)
    (hends : ends id later b = [])
    (hfaultless : ∀ earlier, earlier <+: later → Json.fault? (afterMoves earlier b).scheduler.document = none)
    (hfile : b.written? id = none) : (afterMoves later b).written? id = none := by
  induction later generalizing b with
  | nil => exact hfile
  | cons m later ih =>
      obtain ⟨hm, hrest⟩ := List.forall_mem_cons.mp hclock
      obtain ⟨hput, hnever⟩ := hnever
      obtain ⟨hnow, hlater⟩ := List.append_eq_nil_iff.mp hends
      have htidy := h.step hm
      have hmissing := Move.task?_step_of_missing hget hput (Option.toList_eq_nil_iff.mp hnow)
      have hothers := Move.other?_step hunread m
      have hfirst : Json.fault? (m.step b).scheduler.document = none :=
        hfaultless [m] (List.cons_prefix_cons.mpr ⟨rfl, List.nil_prefix⟩)
      refine ih htidy hrest hmissing hothers hnever hlater ?_ ?_
      · exact fun earlier hearlier => hfaultless (m :: earlier) (List.cons_prefix_cons.mpr ⟨rfl, hearlier⟩)
      · exact Move.written?_step htidy hfirst hmissing hothers hfile

/-- If no run of a task is in progress, none is finished while the task is not there. -/
theorem ends_eq_nil (hget : b.task? id = none) (hrunning : ∀ run ∈ b.running, run.id ≠ id)
    (hnever : NeverPut id later b) : ends id later b = [] := by
  induction later generalizing b with
  | nil => rfl
  | cons m later ih =>
      obtain ⟨hput, hnever⟩ := hnever
      obtain ⟨hend, hstep⟩ := m.running_step hget hrunning
      rw [ends, hend, ih (Move.task?_step_of_missing hget hput hend) hstep hnever]
      rfl

/-- Whatever was done since a file was opened: a task that is removed then, and is not added again, is not there
afterwards, if no run of it was in progress, or none is finished; and it is not in the file, if that was written in
full when the task was removed, and there was no other entry of its id. A task that is there, and is neither removed
nor added, counts each of its runs that is finished, and keeps every change of its switch. -/
theorem changes_while_running (f : File) (id : Text) (hclock : ∀ m ∈ before ++ later, m.inCalendar = true) :
    let b := afterMoves before (idle (ofFile f))
    let b' := (Move.remove id).step b
    ((b.scheduler.remove id).1.map (·.success) = .ok true → NeverPut id later b' →
        (∀ run ∈ b.running, run.id ≠ id) ∨ ends id later b' = [] →
        (afterMoves later b').task? id = none ∧
        (b'.scheduler.Printable → b'.other? id = none →
          (∀ earlier, earlier <+: later → Json.fault? (afterMoves earlier b').scheduler.document = none) →
          (afterMoves later b').written? id = none)) ∧
      ∀ t, b.task? id = some t → NeverPut id later b → (∀ m ∈ later, m ≠ .remove id) →
        (afterMoves later b).task? id = some
          { t with
            enabled := t.enabled ^^ switched id later
            lastRun := ((ends id later b).getLast?.map fun m => ⟨m, none⟩).or t.lastRun
            runCount := t.runCount + (ends id later b).length } := by
  intro b b'
  have hbefore : ∀ m ∈ before, m.inCalendar = true := fun m hm => hclock m (List.mem_append_left _ hm)
  have hlater : ∀ m ∈ later, m.inCalendar = true := fun m hm => hclock m (List.mem_append_right _ hm)
  have htidy : b'.Tidy := ((tidy_idle f).afterMoves hbefore).step rfl
  constructor
  · intro hdone hnever hidle
    have hmissing : b'.task? id = none := (Move.task?_remove id id b).trans (if_pos rfl)
    have hends : ends id later b' = [] := by
      rcases hidle with hrunning | hends
      · exact ends_eq_nil hmissing hrunning hnever
      · exact hends
    constructor
    · exact task?_afterMoves_of_missing hmissing hnever hends
    · intro hprintable hunread hfaultless
      -- removing was done, so the file was written
      have hfile : b'.written? id = none := by
        rcases remove_file b.scheduler id with ⟨-, hrefused⟩ | ⟨s, -, hsave⟩
        · rw [hrefused] at hdone
          cases hdone
        · exact entries_get?_of_save hsave htidy.scheduler hprintable hmissing hunread
      exact written?_afterMoves_of_missing htidy hlater hmissing hunread hnever hends hfaultless hfile
  · intro t hget hnever hkept
    rw [task?_afterMoves hget hnever hkept, Task.notedAll_eq]

/-- The run of one task fails, and a run of another one is in progress. -/
def sampleBegan : List Move :=
  [.add (sampleTask "a" "08:00").toValue, .add (sampleTask "b" "09:00").toValue, .start sampleHost "a", .fail 0,
    .start sampleHost "b"]

/-- The other task is switched, a second run of it is started, and a third task is added, before the runs are
finished. -/
def sampleGoingOn : List Move :=
  [.toggle "b", .start sampleHost "b", .add (sampleTask "c" "10:00").toValue, .finish 1 ⟨32400000000⟩,
    .finish 0 ⟨32460000000⟩]

theorem changes_while_running_of_sample :
    let b := afterMoves sampleBegan (idle (ofFile .absent))
    let b' := (Move.remove "a").step b
    ((∀ m ∈ sampleBegan ++ sampleGoingOn, m.inCalendar = true) ∧ (b.scheduler.remove "a").1.map (·.success) = .ok true ∧
        NeverPut "a" sampleGoingOn b' ∧ (∀ run ∈ b.running, run.id ≠ "a") ∧ b'.scheduler.Printable ∧
        b'.other? "a" = none) ∧
      (afterMoves sampleGoingOn b').task? "a" = none ∧
      (afterMoves sampleGoingOn b').written? "a" = none ∧
      (afterMoves sampleGoingOn b).task? "b" = some
        { sampleTask "b" "09:00" with enabled := false, lastRun := some ⟨⟨32460000000⟩, none⟩, runCount := 2 } := by
  intro b b'
  have hclock : ∀ m ∈ sampleBegan ++ sampleGoingOn, m.inCalendar = true := by decide +kernel
  have hsent : ∀ id : Text, id ≠ "c" → ∀ b, NeverPut id sampleGoingOn b := by
    intro id hid
    refine neverPut_of_sent ?_
    intro payload hmem hsame
    simp only [sampleGoingOn, List.mem_cons, List.not_mem_nil, or_false, reduceCtorEq, false_or, Move.add.injEq] at hmem
    have hthird : Check.text ((sampleTask "c" "10:00").toValue.fieldOrNull "id") = .accepted "c" := rfl
    rw [hmem, hthird] at hsame
    exact hid (Check.accepted.inj hsame).symm
  have hnow : (b.scheduler.remove "a").1.map (·.success) = .ok true ∧ (∀ run ∈ b.running, run.id ≠ "a") ∧
      (b'.scheduler.file.blocked = false ∧ Json.fault? b'.scheduler.document = none ∧
        b'.scheduler.document.isEncodable = true) ∧ b'.other? "a" = none ∧
      (∀ earlier ∈ sampleGoingOn.inits, Json.fault? (afterMoves earlier b').scheduler.document = none) ∧
      b.task? "b" = some (sampleTask "b" "09:00") ∧
      ends "b" sampleGoingOn b = [⟨32400000000⟩, ⟨32460000000⟩] := by
    decide +kernel
  obtain ⟨hdone, hrunning, ⟨hfree, hwhole, hencodable⟩, hunread, hfaultless, hthere, hends⟩ := hnow
  have hprintable : b'.scheduler.Printable := ⟨hfree, hwhole, hencodable⟩
  obtain ⟨hremoved, -⟩ := changes_while_running .absent "a" hclock
  obtain ⟨hmissing, hfile⟩ := hremoved hdone (hsent "a" (by decide) b') (.inl hrunning)
  obtain ⟨-, hkept⟩ := changes_while_running .absent "b" hclock
  have hstays : ∀ m ∈ sampleGoingOn, m ≠ .remove "b" := by simp [sampleGoingOn]
  have hcounted := hkept (sampleTask "b" "09:00") hthere (hsent "b" (by decide) b) hstays
  refine ⟨⟨hclock, hdone, hsent "a" (by decide) b', hrunning, hprintable, hunread⟩, hmissing, ?_, ?_⟩
  · exact hfile hprintable hunread fun earlier hearlier => hfaultless earlier ((List.mem_inits _ _).mpr hearlier)
  · rw [hcounted, hends]
    rfl

/-- A task is removed while a run of it is in progress, and comes back when that is finished, in the file as well. And
the entry of a file that is no task comes back into the file when the task that took its place is removed. -/
theorem removed_comes_back :
    let a := sampleTask "a" "08:00"
    let b := afterMoves [.add a.toValue, .start sampleHost "a"] (idle (ofFile .absent))
    let b' := (Move.remove "a").step b
    let later : List Move := [.finish 0 ⟨28800000000⟩]
    let opened := ofFile (File.absent.writeDocument (.object [("a", .object [])])).2
    let added := (opened.add a.toValue).2
    ((b.scheduler.remove "a").1.map (·.success) = .ok true ∧ NeverPut "a" later b' ∧
        (afterMoves later b').task? "a" = some (a.noted ⟨28800000000⟩) ∧
        (afterMoves later b').written? "a" = some (a.noted ⟨28800000000⟩).toValue) ∧
      Adds opened a.toValue a ∧ (added.remove "a").1.map (·.success) = .ok true ∧
        (added.remove "a").2.tasks.get? "a" = none ∧
        (entries (added.remove "a").2.file).get? "a" = some (.object []) := by
  intro a b b' later opened added
  have hnever : NeverPut "a" later b' := neverPut_of_sent (by simp [later]) b'
  have hback : (b.scheduler.remove "a").1.map (·.success) = .ok true ∧
      (afterMoves later b').task? "a" = some (a.noted ⟨28800000000⟩) ∧
      (afterMoves later b').written? "a" = some (a.noted ⟨28800000000⟩).toValue := by
    decide +kernel
  obtain ⟨hdone, htask, hfile⟩ := hback
  have hentry : (opened.add a.toValue).1.map (·.success) = .ok true ∧
      (added.remove "a").1.map (·.success) = .ok true ∧ (added.remove "a").2.tasks.get? "a" = none ∧
      (entries (added.remove "a").2.file).get? "a" = some (.object []) := by
    decide +kernel
  obtain ⟨hadded, hleft⟩ := hentry
  exact ⟨⟨hdone, hnever, htask, hfile⟩, ⟨⟨_, rfl, rfl⟩, hadded⟩, hleft⟩

end Scheduler

end ChatFlow
