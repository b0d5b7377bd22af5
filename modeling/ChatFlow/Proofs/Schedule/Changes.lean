import ChatFlow.Proofs.Workflow.Encoding
import ChatFlow.Schedule.Tick

/-!
# What the scheduler keeps

Every task stands under its own id. Once a task was added, the file can be written, or is left as it is if it is
blocked; and this stays so while tasks run and are switched. A task that was added has not run yet.

* `Task.noted`: a task behind a run.
* `Task.ReadOf`: the fields that a task is read of.
* `Scheduler.Keyed`: tasks under their ids.
* `Scheduler.Savable`: schedulers that can be written, or are left as they are.
* `Scheduler.toggle_get?`, `Scheduler.remove_get?`, `Scheduler.add_get?`: what becomes of a task.
* `Scheduler.Puts`, `Scheduler.Adds`: a task is put, and is added.
-/

namespace ChatFlow

/-! ## Documents of tasks -/

namespace Moment

@[simp] theorem isWellFormed_isoText (m : Moment) : m.isoText.isWellFormed = true := by
  simp [isoText, timeText, clockText, apply_ite Text.isWellFormed]

end Moment

namespace Stamp

@[simp] theorem isWellFormed_text (s : Stamp) : s.text.isWellFormed = true := by
  rw [text, Text.isWellFormed_append, Moment.isWellFormed_isoText]
  split
  · rfl
  · simp [apply_ite Text.isWellFormed]

end Stamp

namespace Task

variable {t : Task} {fs : Fields Value}

/-- The task after a run that ended at a moment. -/
def noted (t : Task) (now : Moment) : Task :=
  { t with lastRun := some ⟨now, none⟩, runCount := t.runCount + 1 }

/-- What a run notes can be written. -/
theorem isEncodable_noted (t : Task) (now : Moment) :
    (t.noted now).toValue.isEncodable = t.toValue.isEncodable := by
  have hlast : ∀ last : Option Stamp, (optional (fun s => .text s.text) last).isEncodable = true := by
    intro last
    cases last with
    | none => rfl
    | some s => exact Stamp.isWellFormed_text s
  simp only [toValue, noted, Value.isEncodable, List.cons_append, List.nil_append, Value.fieldsEncodable, hlast]

/-- Nothing depends on the switch. -/
theorem isEncodable_switched (t : Task) (enabled : Bool) :
    ({ t with enabled := enabled }).toValue.isEncodable = t.toValue.isEncodable := rfl

/-- What a task has is read of fields. -/
structure ReadOf (fs : Fields Value) (t : Task) : Prop where
  id : Check.field fs "id" Check.text = .accepted t.id
  workflow : Check.field fs "workflow_id" Check.text = .accepted t.workflow
  kind : Check.field fs "task_type" (Check.word TaskKind.words) = .accepted t.kind
  dailyTime : Check.fieldOr fs "daily_time" none (Check.nullable Check.text) = .accepted t.dailyTime
  intervalSeconds :
    Check.fieldOr fs "interval_seconds" none (Check.nullable Check.int) = .accepted t.intervalSeconds
  weekdays : Check.fieldOr fs "weekdays" none (Check.nullable (Check.list Check.int)) = .accepted t.weekdays
  cron : Check.fieldOr fs "cron_expression" none (Check.nullable Check.text) = .accepted t.cron
  targetKind : Check.field fs "target_type" (Check.word ChatKind.words) = .accepted t.targetKind
  targetId : Check.field fs "target_id" Check.text = .accepted t.targetId
  user : Check.fieldOr fs "trigger_user_id" none (Check.nullable Check.text) = .accepted t.user
  enabled : Check.fieldOr fs "enabled" true Check.bool = .accepted t.enabled
  lastRun : Check.fieldOr fs "last_run" none (Check.nullable Check.stamp) = .accepted t.lastRun
  runCount : Check.fieldOr fs "run_count" 0 Check.int = .accepted t.runCount
  description : Check.fieldOr fs "description" [] Check.text = .accepted t.description

theorem readOf_of_check (h : checkFields fs = .accepted t) : ReadOf fs t := by
  -- the last field that is checked comes off first
  obtain ⟨f₁, description, h₁, hdescription, rfl⟩ := Check.seq_eq_accepted.mp h
  obtain ⟨f₂, runCount, h₂, hcount, rfl⟩ := Check.seq_eq_accepted.mp h₁
  obtain ⟨f₃, lastRun, h₃, hlast, rfl⟩ := Check.seq_eq_accepted.mp h₂
  obtain ⟨f₄, enabled, h₄, henabled, rfl⟩ := Check.seq_eq_accepted.mp h₃
  obtain ⟨f₅, user, h₅, huser, rfl⟩ := Check.seq_eq_accepted.mp h₄
  obtain ⟨f₆, targetId, h₆, htarget, rfl⟩ := Check.seq_eq_accepted.mp h₅
  obtain ⟨f₇, targetKind, h₇, htargetKind, rfl⟩ := Check.seq_eq_accepted.mp h₆
  obtain ⟨f₈, cron, h₈, hcron, rfl⟩ := Check.seq_eq_accepted.mp h₇
  obtain ⟨f₉, weekdays, h₉, hweekdays, rfl⟩ := Check.seq_eq_accepted.mp h₈
  obtain ⟨f₁₀, seconds, h₁₀, hseconds, rfl⟩ := Check.seq_eq_accepted.mp h₉
  obtain ⟨f₁₁, time, h₁₁, htime, rfl⟩ := Check.seq_eq_accepted.mp h₁₀
  obtain ⟨f₁₂, kind, h₁₂, hkind, rfl⟩ := Check.seq_eq_accepted.mp h₁₁
  obtain ⟨f₁₃, workflow, h₁₃, hworkflow, rfl⟩ := Check.seq_eq_accepted.mp h₁₂
  obtain ⟨id, hid, rfl⟩ := Check.map_eq_accepted.mp h₁₃
  exact ⟨hid, hworkflow, hkind, htime, hseconds, hweekdays, hcron, htargetKind, htarget, huser, henabled, hlast, hcount,
    hdescription⟩

/-- A new task has not run yet. -/
theorem record_of_newDocument (h : check (Scheduler.newDocument fs) = .accepted t) :
    t.lastRun = none ∧ t.runCount = 0 := by
  have hlast := (readOf_of_check h).lastRun
  have hcount := (readOf_of_check h).runCount
  rw [Check.fieldOr, Fields.get?_set, if_neg (by decide), Fields.get?_set, if_pos rfl] at hlast
  rw [Check.fieldOr, Fields.get?_set, if_pos rfl] at hcount
  exact ⟨(Check.accepted.inj hlast).symm, (Check.accepted.inj hcount).symm⟩

end Task

namespace Scheduler

variable {s : Scheduler} {ts : Fields Task} {t t' : Task} {id : Text} {payload : Value}

/-! ## Tasks under their ids -/

/-- Every task stands under its own id, and under no other. -/
structure Keyed (ts : Fields Task) : Prop where
  nodup : ts.names.Nodup
  ids : ∀ e ∈ ts, e.2.id = e.1

namespace Keyed

theorem id_of_get? (h : Keyed ts) (hget : ts.get? id = some t) : t.id = id :=
  h.ids _ (Fields.mem_of_get? hget)

theorem get?_of_mem (h : Keyed ts) (ht : t ∈ ts.map Prod.snd) : ts.get? t.id = some t := by
  obtain ⟨⟨name, t⟩, he, rfl⟩ := List.mem_map.mp ht
  have hname : t.id = name := h.ids _ he
  subst hname
  exact Fields.get?_of_mem h.nodup he

theorem mem_of_get? (hget : ts.get? id = some t) : t ∈ ts.map Prod.snd :=
  List.mem_map_of_mem (Fields.mem_of_get? hget)

/-- The ids of all tasks differ. -/
theorem nodup_ids (h : Keyed ts) : ((ts.map Prod.snd).map (·.id)).Nodup := by
  have hids : (ts.map Prod.snd).map (·.id) = ts.names := by
    rw [List.map_map, Fields.names]
    exact List.map_congr_left h.ids
  rw [hids]
  exact h.nodup

theorem set (h : Keyed ts) (t : Task) : Keyed (ts.set t.id t) where
  nodup := Fields.nodup_set h.nodup t.id t
  ids := by
    intro e he
    rcases Fields.mem_set he with hold | rfl
    · exact h.ids e hold
    · rfl

theorem erase (h : Keyed ts) (id : Text) : Keyed (ts.erase id) where
  nodup := by
    rw [Fields.names_erase]
    exact h.nodup.filter _
  ids := fun e he => h.ids e (List.mem_filter.mp he).1

end Keyed

/-- So they stand when the file is opened. -/
theorem keyed_ofFile (f : File) : Keyed (ofFile f).tasks := by
  have htake : ∀ (es : Fields Value) (s : Scheduler), Keyed s.tasks → Keyed (es.foldl takeEntry s).tasks := by
    intro es
    induction es with
    | nil => exact fun s h => h
    | cons e es ih =>
        intro s h
        refine ih (s.takeEntry e) ?_
        unfold takeEntry
        split
        · exact h.set _
        · exact h
  exact htake (entries f) ⟨f, [], []⟩ ⟨List.nodup_nil, by simp⟩

/-! ## Writing the file -/

theorem save_tasks (s : Scheduler) : s.save.2.tasks = s.tasks := rfl

theorem save_blocked (s : Scheduler) : s.save.2.file.blocked = s.file.blocked := by
  simp only [save, File.writeDocument, File.write, File.put, apply_ite Prod.snd, apply_ite File.blocked, ite_self]

/-- The scheduler can be written, or the file is blocked. -/
def Savable (s : Scheduler) : Prop := s.save.1 = .ok ()

theorem savable_iff : s.Savable ↔ s.file.blocked = true ∨ s.document.isEncodable = true := by
  have hwf : (Json.text .file s.document).isWellFormed = s.document.isEncodable :=
    Json.isWellFormed_textAt rfl 0 _
  rw [Savable, save, File.writeDocument, File.write, hwf]
  by_cases hblocked : s.file.blocked = true
  · simp [hblocked, Except.map]
  · by_cases hencodable : s.document.isEncodable = true
    · simp [hblocked, hencodable, Except.map]
    · simp [hblocked, hencodable, Except.map]

namespace Savable

/-- Writing makes no difference to this. -/
theorem save (h : s.Savable) : s.save.2.Savable := by
  rw [savable_iff] at h ⊢
  rw [save_blocked]
  exact h

/-- A task that can be written as well is put in the place of one. -/
theorem set (h : s.Savable) (hget : s.tasks.get? id = some t)
    (hsame : t'.toValue.isEncodable = t.toValue.isEncodable) :
    ({ s with tasks := s.tasks.set id t' }).Savable := by
  rw [savable_iff] at h ⊢
  refine h.imp_right ?_
  intro hdocument
  have hall := Value.isEncodable_object.mp hdocument
  refine Value.isEncodable_object.mpr ?_
  intro f hf
  have htask : ∀ e ∈ s.tasks, e.1.isWellFormed = true ∧ e.2.toValue.isEncodable = true := fun e he =>
    hall _ (List.mem_append_right _ (List.mem_map_of_mem he))
  rcases List.mem_append.mp hf with hunread | hset
  · -- the same names are those of tasks
    have hhas : ∀ name, (s.tasks.set id t').has name = s.tasks.has name := by
      intro name
      rw [Fields.has, Fields.has, Fields.get?_set]
      split
      · next hname => rw [← hname, hget]; rfl
      · rfl
    simp only [hhas] at hunread
    exact hall f (List.mem_append_left _ hunread)
  · obtain ⟨e, he, rfl⟩ := List.mem_map.mp hset
    rcases Fields.mem_set he with hold | rfl
    · exact htask e hold
    · obtain ⟨hid, ht⟩ := htask _ (Fields.mem_of_get? hget)
      exact ⟨hid, hsame.trans ht⟩

end Savable

/-! ## Switching tasks and noting runs -/

/-- A run is noted of the task as it is by then. -/
theorem noteRun_eq (hget : s.tasks.get? id = some t) (started : Task) (now : Moment) :
    s.noteRun id started now = ({ s with tasks := s.tasks.set id (t.noted now) }).save := by
  rw [noteRun, hget]
  rfl

theorem toggle_eq (hget : s.tasks.get? id = some t) :
    (s.toggle id).2 = ({ s with tasks := s.tasks.set id { t with enabled := !t.enabled } }).save.2 := by
  rw [toggle, hget]
  rfl

theorem toggle_of_missing (hget : s.tasks.get? id = none) : (s.toggle id).2 = s := by
  rw [toggle, hget]

/-- What becomes of a task when one is switched. -/
theorem toggle_get? (s : Scheduler) (id other : Text) :
    (s.toggle id).2.tasks.get? other = (s.tasks.get? other).map fun t =>
      { t with enabled := t.enabled ^^ decide (id = other) } := by
  by_cases hsame : id = other
  · subst hsame
    cases hget : s.tasks.get? id with
    | none =>
        rw [toggle_of_missing hget, hget]
        rfl
    | some t =>
        rw [toggle_eq hget, save_tasks, Fields.get?_set]
        simp
  · have hleft : (s.toggle id).2.tasks.get? other = s.tasks.get? other := by
      cases hget : s.tasks.get? id with
      | none => rw [toggle_of_missing hget]
      | some t => rw [toggle_eq hget, save_tasks, Fields.get?_set, if_neg hsame]
    rw [hleft]
    simp [hsame]

theorem Keyed.toggle (h : Keyed s.tasks) (id : Text) : Keyed (s.toggle id).2.tasks := by
  cases hget : s.tasks.get? id with
  | none =>
      rw [toggle_of_missing hget]
      exact h
  | some t =>
      rw [toggle_eq hget, save_tasks, ← h.id_of_get? hget]
      exact h.set { t with enabled := !t.enabled }

theorem Savable.toggle (h : s.Savable) (id : Text) : (s.toggle id).2.Savable := by
  cases hget : s.tasks.get? id with
  | none =>
      rw [toggle_of_missing hget]
      exact h
  | some t =>
      rw [toggle_eq hget]
      exact (h.set hget (t.isEncodable_switched _)).save

/-- What becomes of a task when one is removed. -/
theorem remove_get? (s : Scheduler) (id other : Text) :
    (s.remove id).2.tasks.get? other = if id = other then none else s.tasks.get? other := by
  unfold remove
  split
  · show (s.tasks.erase id).get? other = _
    split
    · next hsame =>
        rw [hsame]
        exact Fields.get?_erase_self s.tasks other
    · next hne => exact Fields.get?_erase_of_ne s.tasks (Ne.symm hne)
  · next hnone =>
      -- no task is there, so nothing is done to the tasks
      have hget : s.tasks.get? id = none := Option.not_isSome_iff_eq_none.mp hnone
      have hleft : s.tasks.get? other = if id = other then none else s.tasks.get? other := by
        split
        · next hsame => rw [← hsame, hget]
        · rfl
      dsimp only
      split
      · exact hleft
      · exact hleft

theorem Keyed.remove (h : Keyed s.tasks) (id : Text) : Keyed (s.remove id).2.tasks := by
  unfold Scheduler.remove
  split
  · exact h.erase id
  · dsimp only
    split
    · exact h
    · exact h

/-! ## Adding tasks -/

/-- A task is added of what was sent. -/
structure Adds (s : Scheduler) (payload : Value) (t : Task) : Prop where
  task : ∃ fs, payload = .object fs ∧ Task.check (newDocument fs) = .accepted t
  done : (s.add payload).1.map (·.success) = .ok true

/-- A task is put of what was sent, whether the file can be written then or not. -/
structure Puts (s : Scheduler) (payload : Value) (t : Task) : Prop where
  task : ∃ fs, payload = .object fs ∧ Task.check (newDocument fs) = .accepted t
  add_eq : s.add payload = s.put t

/-- It has not run yet. -/
theorem Puts.record (h : Puts s payload t) : t.lastRun = none ∧ t.runCount = 0 := by
  obtain ⟨fs, -, ht⟩ := h.task
  exact Task.record_of_newDocument ht

/-- Its id is the one that was sent. -/
theorem Puts.sent (h : Puts s payload t) : Check.text (payload.fieldOrNull "id") = .accepted t.id := by
  obtain ⟨fs, rfl, ht⟩ := h.task
  have hid := (Task.readOf_of_check ht).id
  rw [Check.field, Fields.get?_set, if_neg (by decide), Fields.get?_set, if_neg (by decide), Fields.get?_set,
    if_neg (by decide)] at hid
  rw [Value.fieldOrNull, Value.field?]
  cases hget : Fields.get? fs "id" with
  | none =>
      rw [hget] at hid
      cases hid
  | some v =>
      rw [hget] at hid
      exact hid

theorem Puts.tasks_eq (h : Puts s payload t) : (s.add payload).2.tasks = s.tasks.set t.id t := by
  rw [h.add_eq]
  rfl

/-- What is sent is refused, or a task is put of it. -/
theorem add_cases (s : Scheduler) (payload : Value) :
    ((s.add payload).2 = s ∧ (s.add payload).1.map (·.success) ≠ .ok true) ∨ ∃ t, Puts s payload t := by
  cases payload with
  | object fs =>
      have hadd : s.add (.object fs) = s.addFields fs := rfl
      suffices hfields : ((s.addFields fs).2 = s ∧ (s.addFields fs).1.map (·.success) ≠ .ok true) ∨
          ∃ t, Task.check (newDocument fs) = .accepted t ∧ s.addFields fs = s.put t by
        rw [hadd]
        refine hfields.imp_right ?_
        rintro ⟨t, ht, hput⟩
        exact ⟨t, ⟨fs, rfl, ht⟩, hput⟩
      generalize hresult : s.addFields fs = result
      unfold addFields at hresult
      split at hresult
      · subst hresult
        exact .inl ⟨rfl, nofun⟩
      · split at hresult
        · subst hresult
          exact .inl ⟨rfl, nofun⟩
        · subst hresult
          exact .inl ⟨rfl, nofun⟩
        · split at hresult
          · subst hresult
            exact .inl ⟨rfl, nofun⟩
          · next t ht => exact .inr ⟨t, ht, hresult.symm⟩
  | _ => exact .inl ⟨rfl, nofun⟩

/-- Adding leaves a task alone if none is put under its id. -/
theorem add_get? (h : ∀ t, Puts s payload t → t.id ≠ id) : (s.add payload).2.tasks.get? id = s.tasks.get? id := by
  rcases add_cases s payload with ⟨hsame, -⟩ | ⟨t, hputs⟩
  · rw [hsame]
  · rw [hputs.tasks_eq, Fields.get?_set, if_neg (h t hputs)]

/-- Whenever adding is done, a task is added. -/
theorem exists_adds (hdone : (s.add payload).1.map (·.success) = .ok true) : ∃ t, Adds s payload t := by
  rcases add_cases s payload with ⟨-, hrefused⟩ | ⟨t, hputs⟩
  · exact absurd hdone hrefused
  · exact ⟨t, hputs.task, hdone⟩

theorem Keyed.add (h : Keyed s.tasks) (payload : Value) : Keyed (s.add payload).2.tasks := by
  rcases add_cases s payload with ⟨hsame, -⟩ | ⟨t, hputs⟩
  · rw [hsame]
    exact h
  · rw [hputs.tasks_eq]
    exact h.set t

namespace Adds

variable (h : Adds s payload t)

include h

theorem add_eq : s.add payload = s.put t := by
  obtain ⟨fs, rfl, ht⟩ := h.task
  rcases add_cases s (.object fs) with ⟨-, hrefused⟩ | ⟨u, hputs⟩
  · exact absurd h.done hrefused
  · obtain ⟨gs, hsame, hu⟩ := hputs.task
    cases hsame
    rw [ht] at hu
    cases hu
    exact hputs.add_eq

/-- The task stands under its id. -/
theorem get?_eq : (s.add payload).2.tasks.get? t.id = some t := by
  have htasks : (s.add payload).2.tasks = s.tasks.set t.id t := by
    rw [h.add_eq]
    rfl
  rw [htasks, Fields.get?_set, if_pos rfl]

/-- Nothing was in the way of writing the file. -/
theorem savable : (s.add payload).2.Savable := by
  have hdone := h.done
  rw [h.add_eq] at hdone ⊢
  have hsaved : ({ s with tasks := s.tasks.set t.id t }).Savable := by
    rw [put, saveAnd] at hdone
    dsimp only at hdone
    rw [Savable]
    cases hsave : ({ s with tasks := s.tasks.set t.id t } : Scheduler).save.1 with
    | error fault =>
        rw [hsave] at hdone
        cases hdone
    | ok _ => rfl
  exact hsaved.save

/-- The task has not run yet. -/
theorem lastRun_eq : t.lastRun = none := by
  obtain ⟨fs, -, ht⟩ := h.task
  exact (Task.record_of_newDocument ht).1

end Adds

end Scheduler

end ChatFlow
