import ChatFlow.Proofs.Schedule.Removals

/-!
# What is left of a file

Tasks are taken from the entries of a file by their ids, whatever names they stand under; the other entries are kept
under their names. So of several tasks of one id only the last one is left, and an entry that is no task is not
written again if its name is the id of one. All else is there again when the file is written, as long as nothing was
done to ids that the file has.

* `Scheduler.tasksIn`, `Scheduler.lastOf?`: the tasks among the entries of a file.
* `Scheduler.get?_tasks_ofFile`: those that are in the scheduler when the file is opened.
* `Scheduler.mem_tasksIn_of_save`, `Scheduler.mem_entries_of_save_iff`: those of a file that was just written, and the
  other entries.
* `Scheduler.Move.About`, `Scheduler.Frame`: steps about some ids, and what they leave alone.
* `Scheduler.Move.frame_step`, `Scheduler.frame_afterMoves`: one step, and all of them.
* `Scheduler.entries_survive`: which entries are left.
* `Scheduler.entries_lost`: files that lose one.
-/

namespace ChatFlow

namespace Scheduler

/-- The tasks among entries. -/
def tasksIn (es : Fields Value) : List Task := es.filterMap fun e => (Task.check e.2).toOption

/-- The last one of an id. -/
def lastOf? (es : Fields Value) (id : Text) : Option Task := (tasksIn es).reverse.find? fun t => t.id = id

/-- The file does not have the id: neither an entry nor a task is named so. -/
def Unused (f : File) (id : Text) : Prop := id ∉ (entries f).names ∧ ∀ t ∈ tasksIn (entries f), t.id ≠ id

instance (f : File) : DecidablePred (Unused f) := fun _ => inferInstanceAs (Decidable (_ ∧ _))

/-- The step adds, removes, switches and starts no tasks but those of some ids. -/
def Move.About (P : Text → Prop) : Move → Prop
  | add payload => ∀ id ∈ (Check.text (payload.fieldOrNull "id")).toOption, P id
  | remove id | toggle id | start _ id => P id
  | finish _ _ | fail _ => True

instance (P : Text → Prop) [DecidablePred P] : DecidablePred (Move.About P)
  | .add payload => inferInstanceAs (Decidable (∀ id ∈ (Check.text (payload.fieldOrNull "id")).toOption, P id))
  | .remove id | .toggle id | .start _ id => inferInstanceAs (Decidable (P id))
  | .finish _ _ | .fail _ => isTrue trivial

/-- The step changes the file. -/
def Move.Writes (m : Move) (b : Busy) : Prop := (m.step b).scheduler.file ≠ b.scheduler.file

instance (m : Move) (b : Busy) : Decidable (m.Writes b) := inferInstanceAs (Decidable (_ ≠ _))

/-- All that may differ are the tasks and entries of some ids, and the runs in progress are of such tasks. -/
structure Frame (P : Text → Prop) (b b' : Busy) : Prop where
  task : ∀ id, ¬ P id → b'.task? id = b.task? id
  other : ∀ name, ¬ P name → b'.other? name = b.other? name
  running : ∀ run ∈ b'.running, P run.id

variable {s' s : Scheduler} {b b' b'' : Busy} {es : Fields Value} {t : Task} {id : Text} {m : Move}
  {before later : List Move} {P : Text → Prop}

/-! ## Tasks of a file -/

theorem lastOf?_eq_none_iff : lastOf? es id = none ↔ ∀ t ∈ tasksIn es, t.id ≠ id := by
  simp [lastOf?]

theorem lastOf?_cons (e : Text × Value) (es : Fields Value) (id : Text) :
    lastOf? (e :: es) id = (lastOf? es id).or ((Task.check e.2).toOption.filter fun t => t.id = id) := by
  unfold lastOf? tasksIn
  rw [List.filterMap_cons]
  cases (Task.check e.2).toOption with
  | none => exact Option.or_none.symm
  | some t =>
      rw [List.reverse_cons, List.find?_append, List.find?_singleton]
      rfl

theorem takeEntry_tasks (s : Scheduler) (e : Text × Value) (id : Text) :
    (s.takeEntry e).tasks.get? id =
      ((Task.check e.2).toOption.filter fun t => t.id = id).or (s.tasks.get? id) := by
  unfold takeEntry
  cases Task.check e.2 with
  | accepted t =>
      show (s.tasks.set t.id t).get? id = ((some t).filter _).or _
      rw [Fields.get?_set, Option.filter_some]
      by_cases hid : t.id = id
      · simp [hid]
      · simp [hid]
  | refused count => rfl

/-- Of the tasks that are taken in, the last one of an id is left. -/
theorem foldl_takeEntry_tasks (es : Fields Value) (s : Scheduler) (id : Text) :
    (es.foldl takeEntry s).tasks.get? id = (lastOf? es id).or (s.tasks.get? id) := by
  induction es generalizing s with
  | nil => rfl
  | cons e es ih => rw [List.foldl_cons, ih, takeEntry_tasks, lastOf?_cons, Option.or_assoc]

theorem get?_tasks_ofFile (f : File) (id : Text) : (ofFile f).tasks.get? id = lastOf? (entries f) id := by
  rw [ofFile, foldl_takeEntry_tasks]
  exact Option.or_none

/-- A task stands under its id in a file that was just written in full. -/
theorem mem_entries_of_save (hsave : s' = s.save.2) (h : s'.Tidy) (hprintable : s'.Printable)
    (hget : s'.tasks.get? id = some t) : (id, t.toValue) ∈ entries s'.file := by
  rw [entries_of_save hsave h hprintable]
  exact List.mem_append_right _ (List.mem_map_of_mem (Fields.mem_of_get? hget))

/-- No other tasks stand in it. -/
theorem mem_tasksIn_of_save (hsave : s' = s.save.2) (h : s'.Tidy) (hprintable : s'.Printable) :
    t ∈ tasksIn (entries s'.file) ↔ s'.tasks.get? t.id = some t := by
  constructor
  · intro ht
    obtain ⟨e, he, hcheck⟩ := List.mem_filterMap.mp ht
    rw [entries_of_save hsave h hprintable] at he
    rcases List.mem_append.mp he with hunread | htask
    · -- it is no task
      obtain ⟨-, count, hrefused⟩ := h.unread e (List.mem_filter.mp hunread).1
      rw [hrefused] at hcheck
      cases hcheck
    · obtain ⟨u, hu, rfl⟩ := List.mem_map.mp htask
      rw [Task.check_toValue (h.recordable u hu)] at hcheck
      cases hcheck
      exact h.keyed.get?_of_mem (List.mem_map_of_mem hu)
  · intro hget
    have hback := Task.check_toValue (h.recordable _ (Fields.mem_of_get? hget))
    refine List.mem_filterMap.mpr ⟨_, mem_entries_of_save hsave h hprintable hget, ?_⟩
    rw [hback]
    rfl

/-- An entry that is no task stands in it, unless a task has its name. -/
theorem mem_entries_of_save_iff {e : Text × Value} (hsave : s' = s.save.2) (h : s'.Tidy) (hprintable : s'.Printable)
    (hunread : s'.unread.get? e.1 = some e.2) : e ∈ entries s'.file ↔ s'.tasks.get? e.1 = none := by
  constructor
  · -- a task would stand in its place
    intro hwritten
    rw [Option.eq_none_iff_forall_ne_some]
    intro t hget
    have hnames := (isDocument_entries s'.file).names_nodup
    have hthere := Fields.get?_of_mem hnames (mem_entries_of_save hsave h hprintable hget)
    have hback := Task.check_toValue (h.recordable _ (Fields.mem_of_get? hget))
    obtain ⟨-, count, hrefused⟩ := h.unread _ (Fields.mem_of_get? hunread)
    rw [Fields.get?_of_mem hnames hwritten] at hthere
    rw [Option.some.inj hthere, hback] at hrefused
    cases hrefused
  · intro hnone
    exact Fields.mem_of_get? ((entries_get?_unread hsave h hprintable hnone).trans hunread)

/-! ## What is left alone -/

theorem Frame.refl (hrunning : ∀ run ∈ b.running, P run.id) : Frame P b b := ⟨fun _ _ => rfl, fun _ _ => rfl, hrunning⟩

theorem Frame.trans (h : Frame P b b') (h' : Frame P b' b'') : Frame P b b'' where
  task id hid := (h'.task id hid).trans (h.task id hid)
  other name hname := (h'.other name hname).trans (h.other name hname)
  running := h'.running

/-- A step about some ids leaves the others alone, if no run of theirs is in progress. -/
theorem Move.frame_step (h : m.About P) (hrunning : ∀ run ∈ b.running, P run.id) : Frame P b (m.step b) where
  task := by
    intro id hid
    have hput : ∀ u, m.Puts b u → u.id ≠ id := by
      rintro u ⟨payload, rfl, hputs⟩ rfl
      apply hid
      apply h
      rw [hputs.sent]
      rfl
    have hend : m.end? id b = none := by
      apply m.end?_eq_none
      rintro run hrun rfl
      exact hid (hrunning run hrun)
    cases hget : b.task? id with
    | none => exact task?_step_of_missing hget hput hend
    | some t =>
        have hremove : m ≠ remove id := by
          rintro rfl
          exact hid h
        have hswitch : m.switches id = false := by
          cases m with
          | toggle other =>
              apply decide_eq_false
              rintro rfl
              exact hid h
          | _ => rfl
        rw [task?_step hget hput hremove, hend, hswitch]
        simp [Task.notedAll]
  other := by
    intro name hname
    rcases m.other?_step_cases b name with hsame | ⟨rfl, -⟩
    · exact hsame
    · exact absurd h hname
  running := by
    intro run hrun
    rcases m.running_cases hrun with hold | ⟨host, t, rfl, -⟩
    · exact hrunning run hold
    · exact h

/-- So do several steps. -/
theorem frame_afterMoves (h : ∀ m ∈ later, m.About P) (hrunning : ∀ run ∈ b.running, P run.id) :
    Frame P b (afterMoves later b) := by
  induction later generalizing b with
  | nil => exact .refl hrunning
  | cons m later ih =>
      obtain ⟨hm, hrest⟩ := List.forall_mem_cons.mp h
      have hstep := Move.frame_step hm hrunning
      exact hstep.trans (ih hrest hstep.running)

/-! ## What is left of a file -/

/-- A file was opened, and then something was done to ids that it does not have. Whenever that writes the file in
full, an entry that is no task is left as it was, unless its name is the id of a task of the file; and a task is left,
unless a later entry of the file is another task of its id. -/
theorem entries_survive (f : File) (hclock : ∀ n ∈ m :: before, n.inCalendar = true)
    (habout : ∀ n ∈ m :: before, n.About (Unused f)) :
    let b := afterMoves before (idle (ofFile f))
    let b' := m.step b
    m.Writes b → b'.scheduler.Printable →
      (∀ e ∈ entries f, Task.isRefused e.2 = true →
        (e ∈ entries b'.scheduler.file ↔ ∀ t ∈ tasksIn (entries f), t.id ≠ e.1)) ∧
      ∀ t ∈ tasksIn (entries f), t ∈ tasksIn (entries b'.scheduler.file) ↔ lastOf? (entries f) t.id = some t := by
  intro b b' hchanged hprintable
  obtain ⟨hnow, hbefore⟩ := List.forall_mem_cons.mp hclock
  obtain ⟨hm, hothers⟩ := List.forall_mem_cons.mp habout
  have hidle : ∀ run ∈ (idle (ofFile f)).running, Unused f run.id := by simp [idle]
  have htidy : b'.Tidy := ((tidy_idle f).afterMoves hbefore).step hnow
  have hframe : Frame (Unused f) (idle (ofFile f)) b' := by
    have hearlier := frame_afterMoves hothers hidle
    exact hearlier.trans (Move.frame_step hm hearlier.running)
  have htask : ∀ id, ¬ Unused f id → b'.task? id = lastOf? (entries f) id := fun id hid =>
    (hframe.task id hid).trans (get?_tasks_ofFile f id)
  obtain ⟨s, -, hsave⟩ := (m.step_file b).resolve_left hchanged
  constructor
  · intro e he hrefused
    have hused : ¬ Unused f e.1 := fun h => h.1 (List.mem_map_of_mem he)
    have hother : b'.other? e.1 = some e.2 := by
      have hentry : (entries f).get? e.1 = some e.2 := Fields.get?_of_mem (isDocument_entries f).names_nodup he
      have hread := get?_unread_ofFile f e.1
      rw [hentry, Option.filter_some, if_pos hrefused] at hread
      exact (hframe.other e.1 hused).trans hread
    rw [← lastOf?_eq_none_iff, ← htask e.1 hused]
    exact mem_entries_of_save_iff hsave htidy.scheduler hprintable hother
  · intro t ht
    have hused : ¬ Unused f t.id := fun h => h.2 t ht rfl
    rw [← htask t.id hused]
    exact mem_tasksIn_of_save hsave htidy.scheduler hprintable

/-- A file with two entries that are no tasks, one of them under the id of two tasks. -/
def sampleCrowded : File :=
  (File.absent.writeDocument (.object
    [("x", .bool true), ("a", .null), ("p", (sampleTask "a" "08:00").toValue),
      ("q", (sampleTask "a" "09:00").toValue)])).2

/-- Another task is added, and a run of it is started. -/
def sampleAdded : List Move := [.add (sampleTask "c" "11:00").toValue, .start sampleHost "c"]

theorem entries_survive_of_sample :
    let b := afterMoves sampleAdded (idle (ofFile sampleCrowded))
    let m := Move.finish 0 ⟨39600000000⟩
    let left := entries (m.step b).scheduler.file
    ((∀ n ∈ m :: sampleAdded, n.inCalendar = true) ∧
        (∀ n ∈ m :: sampleAdded, n.About (Unused sampleCrowded)) ∧
        m.Writes b ∧ (m.step b).scheduler.Printable) ∧
      ((("x" : Text), Value.bool true) ∈ left ∧ (("a" : Text), Value.null) ∉ left) ∧
        sampleTask "a" "08:00" ∉ tasksIn left ∧ sampleTask "a" "09:00" ∈ tasksIn left := by
  intro b m left
  have hmoves : (∀ n ∈ m :: sampleAdded, n.inCalendar = true) ∧
      (∀ n ∈ m :: sampleAdded, n.About (Unused sampleCrowded)) ∧
      m.Writes b ∧ (m.step b).scheduler.Printable := by
    decide +kernel
  have hentries : (("x" : Text), Value.bool true) ∈ entries sampleCrowded ∧
      (("a" : Text), Value.null) ∈ entries sampleCrowded ∧
      tasksIn (entries sampleCrowded) = [sampleTask "a" "08:00", sampleTask "a" "09:00"] := by
    decide +kernel
  obtain ⟨hclock, habout, hchanged, hprintable⟩ := hmoves
  obtain ⟨hx, ha, hread⟩ := hentries
  obtain ⟨hothers, htasks⟩ := entries_survive sampleCrowded hclock habout hchanged hprintable
  refine ⟨⟨hclock, habout, hchanged, hprintable⟩, ⟨?_, ?_⟩, ?_, ?_⟩
  · rw [hothers _ hx rfl, hread]
    decide
  · rw [hothers _ ha rfl, hread]
    decide
  · rw [htasks _ (by simp [hread]), lastOf?, hread]
    decide
  · rw [htasks _ (by simp [hread]), lastOf?, hread]
    decide

/-- When a task is added whose id the file does not have, an entry that is no task is gone from the file if a task has
its name for an id, and so is the first of two tasks of one id. -/
theorem entries_lost :
    let c := sampleTask "c" "10:00"
    let hidden := (File.absent.writeDocument (.object
      [("a", .bool true), ("x", (sampleTask "a" "08:00").toValue)])).2
    let doubled := (File.absent.writeDocument (.object
      [("x", (sampleTask "a" "08:00").toValue), ("y", (sampleTask "a" "09:00").toValue)])).2
    (Unused hidden c.id ∧ ((ofFile hidden).add c.toValue).1.map (·.success) = .ok true ∧
        (("a" : Text), Value.bool true) ∈ entries hidden ∧ Task.isRefused (.bool true) = true ∧
        (("a" : Text), Value.bool true) ∉ entries ((ofFile hidden).add c.toValue).2.file) ∧
      Unused doubled c.id ∧ ((ofFile doubled).add c.toValue).1.map (·.success) = .ok true ∧
        sampleTask "a" "08:00" ∈ tasksIn (entries doubled) ∧
        sampleTask "a" "08:00" ∉ tasksIn (entries ((ofFile doubled).add c.toValue).2.file) := by
  decide +kernel

end Scheduler

end ChatFlow
