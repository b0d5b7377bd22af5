import ChatFlow.Proofs.Calendar.Stamps
import ChatFlow.Proofs.Schedule.Changes

/-!
# The file of a scheduler, opened again

A task is read again as it was of the document that is written of it, if its last run can be read back. The entries
that are no tasks are values that were read once, so they can be read again, and they are no tasks then either. So
a file that was written in full is opened with the tasks of the scheduler that wrote it, in their order.

* `Task.check_toValue`: the document of a task.
* `Scheduler.Tidy`: what the tasks and the other entries are like, whatever is done.
* `Scheduler.Printable`: schedulers that can be written in full.
* `Scheduler.entries_of_save`, `Scheduler.tasks_ofFile_of_save`: a file that was written, and opened again.
* `Scheduler.add_file`, `Scheduler.toggle_file`, `Scheduler.remove_file`: what writes the file.
-/

namespace ChatFlow

deriving instance DecidableEq for Task

namespace Task

variable {t : Task}

/-- The last run of the task can be read back. -/
def Recordable (t : Task) : Prop := ∀ s, t.lastRun = some s → s.IsWritable

theorem get?_kindLabel (k : TaskKind) : Fields.get? TaskKind.words k.label = some k := by
  cases k <;> rfl

theorem get?_chatLabel (k : ChatKind) : Fields.get? ChatKind.words k.label = some k := by
  cases k <;> rfl

/-- What may be missing is read again as it is written. -/
theorem nullable_optional {α : Type} {read : Value → Check α} {write : α → Value} {a : Option α}
    (hnull : ∀ b, write b ≠ .null) (h : ∀ b, a = some b → read (write b) = .accepted b) :
    Check.nullable read (optional write a) = .accepted a := by
  cases a with
  | none => rfl
  | some b =>
      have hread := h b rfl
      have hsome : Check.nullable read (write b) = some <$> read (write b) := by
        unfold Check.nullable
        split
        · next hb => exact absurd hb (hnull b)
        · rfl
      show Check.nullable read (write b) = _
      rw [hsome, hread]
      rfl

/-- A task is read again as it is written. -/
theorem check_toValue (h : t.Recordable) : check t.toValue = .accepted t := by
  -- each part of the task is found again in what is written
  obtain ⟨fs, hfs⟩ : ∃ fs, t.toValue = .object fs := ⟨_, rfl⟩
  have hid : Check.field fs "id" Check.text = .accepted t.id := by cases hfs; rfl
  have hworkflow : Check.field fs "workflow_id" Check.text = .accepted t.workflow := by cases hfs; rfl
  have hkind : Check.field fs "task_type" (Check.word TaskKind.words) = .accepted t.kind := by
    cases hfs
    exact congrArg Check.ofOption (get?_kindLabel t.kind)
  have htime : Check.fieldOr fs "daily_time" none (Check.nullable Check.text) = .accepted t.dailyTime := by
    cases hfs
    exact nullable_optional nofun fun _ _ => rfl
  have hseconds : Check.fieldOr fs "interval_seconds" none (Check.nullable Check.int) =
      .accepted t.intervalSeconds := by
    cases hfs
    exact nullable_optional nofun fun _ _ => rfl
  have hweekdays : Check.fieldOr fs "weekdays" none (Check.nullable (Check.list Check.int)) =
      .accepted t.weekdays := by
    cases hfs
    exact nullable_optional nofun fun days _ => Check.items_map fun _ _ => rfl
  have hcron : Check.fieldOr fs "cron_expression" none (Check.nullable Check.text) = .accepted t.cron := by
    cases hfs
    exact nullable_optional nofun fun _ _ => rfl
  have htargetKind : Check.field fs "target_type" (Check.word ChatKind.words) = .accepted t.targetKind := by
    cases hfs
    exact congrArg Check.ofOption (get?_chatLabel t.targetKind)
  have htarget : Check.field fs "target_id" Check.text = .accepted t.targetId := by cases hfs; rfl
  have huser : Check.fieldOr fs "trigger_user_id" none (Check.nullable Check.text) = .accepted t.user := by
    cases hfs
    exact nullable_optional nofun fun _ _ => rfl
  have henabled : Check.fieldOr fs "enabled" true Check.bool = .accepted t.enabled := by cases hfs; rfl
  have hlast : Check.fieldOr fs "last_run" none (Check.nullable Check.stamp) = .accepted t.lastRun := by
    cases hfs
    exact nullable_optional nofun fun s hs => congrArg Check.ofOption (Stamp.ofText?_text (h s hs))
  have hcount : Check.fieldOr fs "run_count" 0 Check.int = .accepted t.runCount := by cases hfs; rfl
  have hdescription : Check.fieldOr fs "description" [] Check.text = .accepted t.description := by cases hfs; rfl
  rw [hfs, check, checkFields, hid, hworkflow, hkind, htime, hseconds, hweekdays, hcron, htargetKind, htarget, huser,
    henabled, hlast, hcount, hdescription]
  rfl

/-- The last run of a task that was read can be read back. -/
theorem recordable_of_check {v : Value} (h : check v = .accepted t) : t.Recordable := by
  cases v with
  | object fs =>
      have hlast := (readOf_of_check h).lastRun
      intro s hs
      rw [hs, Check.fieldOr] at hlast
      cases hget : Fields.get? fs "last_run" with
      | none =>
          rw [hget] at hlast
          cases hlast
      | some v =>
          rw [hget, Option.elim_some] at hlast
          unfold Check.nullable at hlast
          split at hlast
          · cases hlast
          · obtain ⟨s', hstamp, hsame⟩ := Check.map_eq_accepted.mp hlast
            cases hsame
            unfold Check.stamp Check.ofOption at hstamp
            split at hstamp
            · next hvalue =>
                cases hstamp
                exact Stamp.isWritable_of_ofValue? hvalue
            · cases hstamp
  | _ => cases h

/-- Is a value no task? -/
def isRefused (v : Value) : Bool := (check v).toOption.isNone

theorem Recordable.noted {m : Moment} (hm : m.inCalendar = true) (t : Task) : (t.noted m).Recordable := by
  intro s hs
  cases hs
  exact ⟨hm, nofun⟩

/-! ## Documents of tasks -/

theorem isDocument_int {n : Int} (h : Json.fault? (.int n) = none) : (Value.int n).IsDocument := by
  refine .int (Bool.eq_false_iff.mpr ?_)
  intro hlong
  rw [Json.fault?, if_pos hlong] at h
  cases h

theorem isDocument_optional {α : Type} {write : α → Value} {a : Option α}
    (hwrite : ∀ b, Json.fault? (write b) = none → (write b).IsDocument)
    (h : Json.fault? (optional write a) = none) : (optional write a).IsDocument := by
  cases a with
  | none => exact .null
  | some b => exact hwrite b h

/-- A task that can be written makes a document. -/
theorem isDocument_toValue (h : Json.fault? t.toValue = none) : t.toValue.IsDocument := by
  have hfields := Json.fieldsFault?_eq_none.mp h
  have hdays : ∀ days : List Int, Json.fault? (.list (days.map .int)) = none →
      (Value.list (days.map .int)).IsDocument := by
    intro days hfault
    refine .list ?_
    intro v hv
    have hitem := Json.itemsFault?_eq_none.mp hfault v hv
    obtain ⟨day, -, rfl⟩ := List.mem_map.mp hv
    exact isDocument_int hitem
  have hnames : (["id", "workflow_id", "task_type", "daily_time", "interval_seconds", "weekdays", "cron_expression",
      "target_type", "target_id", "trigger_user_id", "enabled", "last_run", "run_count",
      "description"] : List Text).Nodup := by
    decide
  refine .object hnames ?_
  intro f hf
  have hfault := hfields f hf
  simp only [List.cons_append, List.nil_append, List.mem_cons, List.not_mem_nil, or_false] at hf
  rcases hf with rfl | rfl | rfl | rfl | rfl | rfl | rfl | rfl | rfl | rfl | rfl | rfl | rfl | rfl
  · exact .text _
  · exact .text _
  · exact .text _
  · exact isDocument_optional (fun _ _ => .text _) hfault
  · exact isDocument_optional (fun _ => isDocument_int) hfault
  · exact isDocument_optional hdays hfault
  · exact isDocument_optional (fun _ _ => .text _) hfault
  · exact .text _
  · exact .text _
  · exact isDocument_optional (fun _ _ => .text _) hfault
  · exact .bool _
  · exact isDocument_optional (fun _ _ => .text _) hfault
  · exact isDocument_int hfault
  · exact .text _

end Task

namespace Scheduler

variable {s : Scheduler} {t : Task} {id : Text}

/-! ## What the tasks and the other entries are like -/

/-- Tasks stand under their ids, and their last runs can be read back. Other entries have different names, and
documents that are no tasks. -/
structure Tidy (s : Scheduler) : Prop where
  keyed : Keyed s.tasks
  recordable : ∀ e ∈ s.tasks, e.2.Recordable
  unread_names : s.unread.names.Nodup
  unread : ∀ e ∈ s.unread, e.2.IsDocument ∧ ∃ count, Task.check e.2 = .refused count

namespace Tidy

theorem set (h : s.Tidy) (ht : t.Recordable) : ({ s with tasks := s.tasks.set t.id t }).Tidy where
  keyed := h.keyed.set t
  recordable := by
    intro e he
    rcases Fields.mem_set he with hold | rfl
    · exact h.recordable e hold
    · exact ht
  unread_names := h.unread_names
  unread := h.unread

theorem save (h : s.Tidy) : s.save.2.Tidy := ⟨h.keyed, h.recordable, h.unread_names, h.unread⟩

theorem remove (h : s.Tidy) (id : Text) : (s.remove id).2.Tidy := by
  unfold Scheduler.remove
  split
  · exact ⟨h.keyed.erase id, fun e he => h.recordable e (List.mem_filter.mp he).1, h.unread_names, h.unread⟩
  · have herased : ({ s with unread := s.unread.erase id }).Tidy := by
      refine ⟨h.keyed, h.recordable, ?_, fun e he => h.unread e (List.mem_filter.mp he).1⟩
      rw [Fields.names_erase]
      exact h.unread_names.filter _
    dsimp only
    split
    · exact herased
    · exact herased.save

theorem toggle (h : s.Tidy) (id : Text) : (s.toggle id).2.Tidy := by
  cases hget : s.tasks.get? id with
  | none =>
      rw [toggle_of_missing hget]
      exact h
  | some t =>
      rw [toggle_eq hget, ← h.keyed.id_of_get? hget]
      exact (h.set (t := { t with enabled := !t.enabled }) (h.recordable _ (Fields.mem_of_get? hget))).save

theorem add (h : s.Tidy) (payload : Value) : (s.add payload).2.Tidy := by
  rcases add_cases s payload with ⟨hsame, -⟩ | ⟨t, hputs⟩
  · rw [hsame]
    exact h
  · obtain ⟨fs, -, ht⟩ := hputs.task
    rw [hputs.add_eq]
    exact (h.set (Task.recordable_of_check ht)).save

end Tidy

theorem Tidy.takeEntry (h : s.Tidy) {e : Text × Value} (he : e.2.IsDocument) : (s.takeEntry e).Tidy := by
  unfold Scheduler.takeEntry
  split
  · next t ht => exact h.set (Task.recordable_of_check ht)
  · next count hcount =>
      refine ⟨h.keyed, h.recordable, Fields.nodup_set h.unread_names _ _, ?_⟩
      intro f hf
      rcases Fields.mem_set hf with hold | rfl
      · exact h.unread f hold
      · exact ⟨he, count, hcount⟩

theorem isDocument_entries (f : File) : (Value.object (entries f)).IsDocument := by
  unfold entries
  split
  · next fs hfs =>
      obtain ⟨t, -, hread⟩ := Option.bind_eq_some_iff.mp hfs
      exact Json.isDocument_of_read? hread
  · exact .object List.nodup_nil (by simp)

/-- So they are when a file is opened. -/
theorem tidy_ofFile (f : File) : (ofFile f).Tidy := by
  have hfold : ∀ (es : Fields Value) (s : Scheduler), (∀ e ∈ es, e.2.IsDocument) → s.Tidy →
      (es.foldl takeEntry s).Tidy := by
    intro es
    induction es with
    | nil => exact fun s _ h => h
    | cons e es ih =>
        intro s hes h
        obtain ⟨he, hrest⟩ := List.forall_mem_cons.mp hes
        exact ih (s.takeEntry e) hrest (h.takeEntry he)
  exact hfold (entries f) ⟨f, [], []⟩ (isDocument_entries f).field
    ⟨⟨List.nodup_nil, by simp⟩, by simp, List.nodup_nil, by simp⟩

/-! ## A file that was written -/

/-- The file can be written in full: it is not blocked, no number is too long, and no text has a surrogate. -/
structure Printable (s : Scheduler) : Prop where
  free : s.file.blocked = false
  faultless : Json.fault? s.document = none
  encodable : s.document.isEncodable = true

theorem Tidy.isDocument (h : s.Tidy) (hfault : Json.fault? s.document = none) : s.document.IsDocument := by
  have hfields := Json.fieldsFault?_eq_none.mp hfault
  refine .object ?_ ?_
  · -- an entry that is no task is written only where no task has its name
    rw [Fields.names, List.map_append]
    refine List.Nodup.append (h.unread_names.sublist (List.filter_sublist.map _)) ?_ ?_
    · rw [List.map_map]
      exact h.keyed.nodup
    · intro name hunread htask
      obtain ⟨e, he, rfl⟩ := List.mem_map.mp hunread
      obtain ⟨e', he', hname⟩ := List.mem_map.mp htask
      obtain ⟨u, hu, rfl⟩ := List.mem_map.mp he'
      have hnone : (!s.tasks.has e.1) = true := (List.mem_filter.mp he).2
      have hget := Fields.get?_of_mem h.keyed.nodup hu
      have hsame : u.1 = e.1 := hname
      rw [Fields.has, ← hsame, hget] at hnone
      cases hnone
  · intro f hf
    have hfaultless := hfields f hf
    rcases List.mem_append.mp hf with hunread | htask
    · exact (h.unread f (List.mem_filter.mp hunread).1).1
    · obtain ⟨e, he, rfl⟩ := List.mem_map.mp htask
      exact Task.isDocument_toValue hfaultless

/-- Entries that are no tasks add no tasks. -/
theorem foldl_refused {es : Fields Value} (h : ∀ e ∈ es, ∃ count, Task.check e.2 = .refused count) (s : Scheduler) :
    (es.foldl takeEntry s).tasks = s.tasks := by
  induction es generalizing s with
  | nil => rfl
  | cons e es ih =>
      obtain ⟨⟨count, hcount⟩, hrest⟩ := List.forall_mem_cons.mp h
      rw [List.foldl_cons, ih hrest, takeEntry, hcount]

/-- Tasks that are read again stand behind those that were there, in their order. -/
theorem foldl_tasks {ts : Fields Task} (hids : ∀ e ∈ ts, e.2.id = e.1) (hback : ∀ e ∈ ts, e.2.Recordable)
    (s : Scheduler) (hnodup : (Fields.names (s.tasks ++ ts)).Nodup) :
    ((ts.map fun (id, t) => (id, t.toValue)).foldl takeEntry s).tasks = s.tasks ++ ts := by
  induction ts generalizing s with
  | nil => exact (List.append_nil _).symm
  | cons e ts ih =>
      obtain ⟨id, t⟩ := e
      obtain ⟨hid, hothers⟩ := List.forall_mem_cons.mp hids
      obtain ⟨ht, hmore⟩ := List.forall_mem_cons.mp hback
      obtain rfl : t.id = id := hid
      have hnew : t.id ∉ s.tasks.names := by
        intro hmem
        rw [Fields.names, List.map_append, List.nodup_append'] at hnodup
        exact hnodup.2.2 hmem List.mem_cons_self
      have htaken : s.takeEntry (t.id, t.toValue) = { s with tasks := s.tasks ++ [(t.id, t)] } := by
        rw [takeEntry, Task.check_toValue ht]
        exact congrArg (fun ts => { s with tasks := ts }) (Fields.set_of_notMem hnew t)
      rw [List.map_cons, List.foldl_cons, htaken, ih hothers hmore _ (by simpa using hnodup), List.append_assoc]
      rfl

/-- What stands in a file that was just written in full. -/
theorem entries_of_save {s' : Scheduler} (hsave : s' = s.save.2) (h : s'.Tidy) (hprintable : s'.Printable) :
    entries s'.file = (s'.unread.filter fun (key, _) => !s'.tasks.has key) ++
      s'.tasks.map fun (id, t) => (id, t.toValue) := by
  subst hsave
  -- writing changes nothing but the file
  have hfree : s.file.blocked = false := by
    rw [← save_blocked]
    exact hprintable.free
  have hread : (s.file.writeDocument s.document).2.document? = some s.document :=
    (File.document?_writeDocument hfree (h.isDocument hprintable.faultless) hprintable.encodable).2
  rw [entries, save]
  dsimp only
  rw [hread]
  rfl

/-- It is opened with the same tasks in the same order. -/
theorem tasks_ofFile_of_save {s' : Scheduler} (hsave : s' = s.save.2) (h : s'.Tidy) (hprintable : s'.Printable) :
    (ofFile s'.file).tasks = s'.tasks := by
  have hunread : ∀ e ∈ s'.unread.filter fun (key, _) => !s'.tasks.has key,
      ∃ count, Task.check e.2 = .refused count := fun e he => (h.unread e (List.mem_filter.mp he).1).2
  rw [ofFile, entries_of_save hsave h hprintable, List.foldl_append, foldl_tasks h.keyed.ids h.recordable]
  · rw [foldl_refused hunread]
    rfl
  · rw [foldl_refused hunread]
    exact h.keyed.nodup

/-- A name of no task, and of no other entry, does not stand in it. -/
theorem entries_get?_of_save {s' : Scheduler} (hsave : s' = s.save.2) (h : s'.Tidy) (hprintable : s'.Printable)
    (htask : s'.tasks.get? id = none) (hunread : s'.unread.get? id = none) : (entries s'.file).get? id = none := by
  rw [Fields.get?_eq_none_iff] at htask hunread ⊢
  rw [entries_of_save hsave h hprintable, Fields.names, List.map_append, List.mem_append]
  rintro (hmem | hmem)
  · obtain ⟨e, he, rfl⟩ := List.mem_map.mp hmem
    exact hunread (List.mem_map_of_mem (List.mem_filter.mp he).1)
  · rw [List.map_map] at hmem
    exact htask hmem

/-- What is written is written in full, or the file is left alone, or it is left with no entries. -/
theorem save_cases (s : Scheduler) (hfaultless : Json.fault? s.document = none) :
    s.save.2.Printable ∨ s.save.2.file = s.file ∨ entries s.save.2.file = [] := by
  have hwf : (Json.text .file s.document).isWellFormed = s.document.isEncodable :=
    Json.isWellFormed_textAt rfl 0 _
  cases hblocked : s.file.blocked with
  | true =>
      right
      left
      rw [save, File.writeDocument, File.write, if_pos hblocked]
  | false =>
      cases hencodable : s.document.isEncodable with
      | true => exact .inl ⟨(save_blocked s).trans hblocked, hfaultless, hencodable⟩
      | false =>
          right
          right
          have hempty : s.save.2.file = s.file.put (some []) := by
            rw [save, File.writeDocument, File.write, hwf, hblocked, hencodable]
            rfl
          rw [hempty, File.put, hblocked]
          rfl

/-! ## What writes the file -/

theorem add_file (s : Scheduler) (payload : Value) :
    (s.add payload).2.file = s.file ∨ ∃ s' : Scheduler, s'.file = s.file ∧ (s.add payload).2 = s'.save.2 := by
  rcases add_cases s payload with ⟨hsame, -⟩ | ⟨t, hputs⟩
  · exact .inl (congrArg file hsame)
  · exact .inr ⟨{ s with tasks := s.tasks.set t.id t }, rfl, congrArg Prod.snd hputs.add_eq⟩

theorem toggle_file (s : Scheduler) (id : Text) :
    (s.toggle id).2.file = s.file ∨ ∃ s' : Scheduler, s'.file = s.file ∧ (s.toggle id).2 = s'.save.2 := by
  cases hget : s.tasks.get? id with
  | none => exact .inl (congrArg file (toggle_of_missing hget))
  | some t => exact .inr ⟨{ s with tasks := s.tasks.set id { t with enabled := !t.enabled } }, rfl, toggle_eq hget⟩

/-- Removing writes the file if it is done, and leaves it alone otherwise. -/
theorem remove_file (s : Scheduler) (id : Text) :
    ((s.remove id).2.file = s.file ∧ (s.remove id).1.map (·.success) = .ok false) ∨
      ∃ s' : Scheduler, s'.file = s.file ∧ (s.remove id).2 = s'.save.2 := by
  unfold remove
  dsimp only
  split
  · exact .inr ⟨{ s with tasks := s.tasks.erase id }, rfl, rfl⟩
  · split
    · exact .inl ⟨rfl, rfl⟩
    · exact .inr ⟨{ s with unread := s.unread.erase id }, rfl, rfl⟩

end Scheduler

end ChatFlow
