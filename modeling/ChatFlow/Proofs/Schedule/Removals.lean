import ChatFlow.Proofs.Schedule.Moves

/-!
# Removed entries

Removing an id takes its task out of the map, or else the entry of the file that is no task and stands under the id.
What was removed stays away, whatever is done afterwards, restarts of the program included: the task is not there
again, and if no other entry was hidden behind it, nothing stands under the id in the file. What could not be removed
is left as it was, unless it is an entry that holds null: that one is forgotten all the same.

* `Scheduler.Occurrence`, `Scheduler.afterAll`: steps of a scheduler, and restarts in between.
* `Scheduler.remove_cases`: what removing does.
* `Scheduler.Gone`, `Scheduler.Erased`: what is removed, from the map alone or from the file as well.
* `Gone.step`, `Erased.step`: a step that leaves it alone keeps it away.
* `Scheduler.removal_lasts`: what removing reports, and what comes of it.
* `Scheduler.removed_in_vain`: a removal that reports failure and has an effect, and one that reports success and has
  none on the file.
-/

namespace ChatFlow

/-- Where nothing stands under a name, nothing is removed. -/
theorem Fields.erase_of_get?_eq_none {α : Type} {fields : Fields α} {name : Text} (h : fields.get? name = none) :
    fields.erase name = fields := by
  rw [get?_eq_none_iff] at h
  apply List.filter_eq_self.mpr
  intro e he
  apply decide_eq_true
  intro hname
  apply h
  rw [← hname]
  exact List.mem_map_of_mem he

namespace Scheduler

/-- What happens to a scheduler: a step, or its program is started anew, and no run is in progress any more. -/
inductive Occurrence where
  | move (m : Move)
  | restart

namespace Occurrence

/-- What it makes of the scheduler and its runs. -/
def step : Occurrence → Busy → Busy
  | move m, b => m.step b
  | restart, b => idle (ofFile b.scheduler.file)

/-- Does a run end at a time of the calendar, if one is finished? -/
def inCalendar : Occurrence → Bool
  | move m => m.inCalendar
  | restart => true

/-- What is written then is written in full. -/
def Written (o : Occurrence) (b : Busy) : Prop :=
  (o.step b).scheduler.file = b.scheduler.file ∨ (o.step b).scheduler.Printable

/-- It neither adds a task under the id nor finishes a run of one. -/
def LeavesAlone (id : Text) : Occurrence → Busy → Prop
  | move m, b => (∀ t, m.Puts b t → t.id ≠ id) ∧ m.end? id b = none
  | restart, _ => True

end Occurrence

/-- The scheduler and its runs after all that happens. -/
def afterAll : List Occurrence → Busy → Busy
  | [], b => b
  | o :: later, b => afterAll later (o.step b)

/-- Everything that is written is written in full. -/
def AllWritten : List Occurrence → Busy → Prop
  | [], _ => True
  | o :: later, b => o.Written b ∧ AllWritten later (o.step b)

/-- Nothing adds a task under the id or finishes a run of one. -/
def LeftAlone (id : Text) : List Occurrence → Busy → Prop
  | [], _ => True
  | o :: later, b => o.LeavesAlone id b ∧ LeftAlone id later (o.step b)

instance (s : Scheduler) : Decidable s.Printable :=
  decidable_of_iff
    (s.file.blocked = false ∧ Json.fault? s.document = none ∧ s.document.isEncodable = true)
    ⟨fun h => ⟨h.1, h.2.1, h.2.2⟩, fun h => ⟨h.free, h.faultless, h.encodable⟩⟩

instance (o : Occurrence) (b : Busy) : Decidable (o.Written b) :=
  inferInstanceAs (Decidable (_ ∨ _))

/-- Whether everything is written in full is decided step by step. -/
instance decidableAllWritten : (later : List Occurrence) → (b : Busy) → Decidable (AllWritten later b)
  | [], _ => isTrue trivial
  | o :: later, b =>
    haveI := decidableAllWritten later (o.step b)
    inferInstanceAs (Decidable (_ ∧ _))

variable {s : Scheduler} {b : Busy} {id : Text} {o : Occurrence} {before later : List Occurrence}

/-! ## Opening files -/

theorem foldl_takeEntry_file (es : Fields Value) (s : Scheduler) : (es.foldl takeEntry s).file = s.file := by
  induction es generalizing s with
  | nil => rfl
  | cons e es ih =>
      rw [List.foldl_cons, ih (s.takeEntry e), takeEntry]
      split
      · rfl
      · rfl

theorem ofFile_file (f : File) : (ofFile f).file = f := foldl_takeEntry_file (entries f) ⟨f, [], []⟩

/-- Of the entries that are taken in, those that are no tasks are kept as they are. -/
theorem foldl_takeEntry_unread {es : Fields Value} (hnames : es.names.Nodup) (s : Scheduler) (key : Text) :
    (es.foldl takeEntry s).unread.get? key = ((es.get? key).filter Task.isRefused).or (s.unread.get? key) := by
  induction es generalizing s with
  | nil => rfl
  | cons e es ih =>
      obtain ⟨name, v⟩ := e
      rw [Fields.names, List.map_cons, List.nodup_cons] at hnames
      obtain ⟨hnew, hrest⟩ := hnames
      have hothers : Fields.get? es name = none := Fields.get?_eq_none_iff.mpr hnew
      rw [List.foldl_cons, ih hrest, takeEntry, Fields.get?]
      split
      · next t ht =>
          split
          · next hname =>
              have htask : Task.isRefused v = false := congrArg (fun c => c.toOption.isNone) ht
              rw [← hname, hothers, Option.filter_some, htask]
              rfl
          · rfl
      · next count hcount =>
          rw [Fields.get?_set]
          split
          · next hname =>
              have hrefused : Task.isRefused v = true := congrArg (fun c => c.toOption.isNone) hcount
              rw [← hname, hothers, Option.filter_some, hrefused]
              rfl
          · rfl

theorem get?_unread_ofFile (f : File) (key : Text) :
    (ofFile f).unread.get? key = ((entries f).get? key).filter Task.isRefused := by
  rw [ofFile, foldl_takeEntry_unread (isDocument_entries f).names_nodup]
  exact Option.or_none

/-- An entry that is no task stands in a file that was written in full, unless a task has its name. -/
theorem entries_get?_unread {s' : Scheduler} (hsave : s' = s.save.2) (h : s'.Tidy) (hprintable : s'.Printable)
    (htask : s'.tasks.get? id = none) : (entries s'.file).get? id = s'.unread.get? id := by
  cases hunread : s'.unread.get? id with
  | none => exact entries_get?_of_save hsave h hprintable htask hunread
  | some v =>
      have hnames : (entries s'.file).names.Nodup := by
        have hdocument := h.isDocument hprintable.faultless
        rw [entries_of_save hsave h hprintable]
        exact hdocument.names_nodup
      apply Fields.get?_of_mem hnames
      rw [entries_of_save hsave h hprintable]
      apply List.mem_append_left
      rw [List.mem_filter]
      constructor
      · exact Fields.mem_of_get? hunread
      · show (!s'.tasks.has id) = true
        rw [Fields.has, htask]
        rfl

/-! ## Writing files -/

/-- A file that is not blocked is changed whenever it is written. -/
theorem save_file_ne (hfree : s.file.blocked = false) : s.save.2.file ≠ s.file := by
  have hput : ∀ content, (s.file.put content).version = s.file.version + 1 := by
    intro content
    rw [File.put, hfree]
    rfl
  intro hsame
  have hversion : s.save.2.file.version = s.file.version + 1 := by
    rw [save, File.writeDocument, File.write, hfree]
    dsimp only
    rw [if_neg Bool.false_ne_true]
    split
    · exact hput _
    · exact hput _
  rw [hsame] at hversion
  omega

theorem saveAnd_of_printable (report : Report) (h : s.save.2.Printable) : (s.saveAnd report).1 = .ok report := by
  have hsavable : s.Savable := savable_iff.mpr (.inr h.encodable)
  rw [saveAnd]
  dsimp only
  rw [hsavable]
  rfl

/-! ## Removing -/

/-- Removing takes out a task, or else an entry that is no task; or there is no such entry, or it holds null. -/
theorem remove_cases (s : Scheduler) (id : Text) :
    (∃ t, s.tasks.get? id = some t ∧
        s.remove id = ({ s with tasks := s.tasks.erase id }).saveAnd (.done "已删除" [])) ∨
      (s.tasks.get? id = none ∧ (s.unread.get? id).getD .null ≠ .null ∧
        s.remove id = ({ s with unread := s.unread.erase id }).saveAnd (.done "已删除" [])) ∨
      (s.tasks.get? id = none ∧ (s.unread.get? id).getD .null = .null ∧
        s.remove id = (.ok missing, { s with unread := s.unread.erase id })) := by
  unfold remove
  dsimp only
  split
  · next hhas =>
      left
      obtain ⟨t, ht⟩ := Option.isSome_iff_exists.mp hhas
      exact ⟨t, ht, rfl⟩
  · next hnone =>
      right
      have hget : s.tasks.get? id = none := Option.not_isSome_iff_eq_none.mp hnone
      split
      · next hnull =>
          right
          exact ⟨hget, hnull, rfl⟩
      · next hentry =>
          left
          exact ⟨hget, hentry, rfl⟩

/-! ## What happens to what was removed -/

theorem Occurrence.tidy_step (h : b.Tidy) (ho : o.inCalendar = true) : (o.step b).Tidy := by
  cases o with
  | move m => exact h.step ho
  | restart => exact tidy_idle b.scheduler.file

theorem Occurrence.blocked_step (o : Occurrence) (b : Busy) :
    (o.step b).scheduler.file.blocked = b.scheduler.file.blocked := by
  cases o with
  | restart => exact congrArg File.blocked (ofFile_file b.scheduler.file)
  | move m =>
      rcases m.step_file b with hsame | ⟨s, hs, hsave⟩
      · exact congrArg File.blocked hsame
      · show (m.step b).scheduler.file.blocked = _
        rw [hsave, save_blocked, hs]

theorem Busy.Tidy.afterAll (h : b.Tidy) (hclock : ∀ o ∈ later, o.inCalendar = true) :
    (afterAll later b).Tidy := by
  induction later generalizing b with
  | nil => exact h
  | cons o later ih =>
      obtain ⟨ho, hrest⟩ := List.forall_mem_cons.mp hclock
      exact ih (Occurrence.tidy_step h ho) hrest

theorem blocked_afterAll (later : List Occurrence) (b : Busy) :
    (afterAll later b).scheduler.file.blocked = b.scheduler.file.blocked := by
  induction later generalizing b with
  | nil => rfl
  | cons o later ih => exact (ih (o.step b)).trans (o.blocked_step b)

/-- No task of the id is there, and none would be there if the file were opened. -/
structure Gone (id : Text) (b : Busy) : Prop where
  task : b.task? id = none
  reopened : (ofFile b.scheduler.file).tasks.get? id = none

/-- There is no other entry of the id either, in the scheduler or in the file. -/
structure Erased (id : Text) (b : Busy) : Prop extends Gone id b where
  other : b.other? id = none
  written : b.written? id = none

/-- What is gone stays away if it is left alone: a step that writes the file writes the tasks that are there, and a
restart takes them from the file. -/
theorem Gone.step (h : Gone id b) (htidy : (o.step b).Tidy) (halone : o.LeavesAlone id b) (hwritten : o.Written b) :
    Gone id (o.step b) := by
  cases o with
  | restart =>
      constructor
      · exact h.reopened
      · show (ofFile (ofFile b.scheduler.file).file).tasks.get? id = none
        rw [ofFile_file]
        exact h.reopened
  | move m =>
      obtain ⟨hput, hend⟩ := halone
      have hmissing := Move.task?_step_of_missing h.task hput hend
      constructor
      · exact hmissing
      · show (ofFile (m.step b).scheduler.file).tasks.get? id = none
        rcases hwritten with hsame | hprintable
        · have hfile : (m.step b).scheduler.file = b.scheduler.file := hsame
          rw [hfile]
          exact h.reopened
        · rcases m.step_file b with hsame | ⟨s, -, hsave⟩
          · rw [hsame]
            exact h.reopened
          · rw [tasks_ofFile_of_save hsave htidy.scheduler hprintable]
            exact hmissing

theorem Erased.step (h : Erased id b) (htidy : (o.step b).Tidy) (halone : o.LeavesAlone id b) (hwritten : o.Written b) :
    Erased id (o.step b) := by
  have hgone := h.toGone.step htidy halone hwritten
  cases o with
  | restart =>
      have hopened : (entries (ofFile b.scheduler.file).file).get? id = none := by
        rw [ofFile_file]
        exact h.written
      have hother : (ofFile b.scheduler.file).unread.get? id = none := by
        rw [get?_unread_ofFile]
        exact congrArg (Option.filter Task.isRefused) h.written
      exact ⟨hgone, hother, hopened⟩
  | move m =>
      have hother := Move.other?_step h.other m
      refine ⟨hgone, hother, ?_⟩
      rcases hwritten with hsame | hprintable
      · show (entries (m.step b).scheduler.file).get? id = none
        have hfile : (m.step b).scheduler.file = b.scheduler.file := hsame
        rw [hfile]
        exact h.written
      · rcases m.step_file b with hsame | ⟨s, -, hsave⟩
        · show (entries (m.step b).scheduler.file).get? id = none
          rw [hsame]
          exact h.written
        · exact entries_get?_of_save hsave htidy.scheduler hprintable hgone.task hother

/-- What every step keeps that leaves an id alone is kept by all of them. -/
theorem kept_afterAll {P : Busy → Prop}
    (hstep : ∀ (o : Occurrence) (b : Busy), P b → (o.step b).Tidy → o.LeavesAlone id b → o.Written b →
      P (o.step b))
    (h : P b) (htidy : b.Tidy) (hclock : ∀ o ∈ later, o.inCalendar = true) (halone : LeftAlone id later b)
    (hwritten : AllWritten later b) : P (afterAll later b) := by
  induction later generalizing b with
  | nil => exact h
  | cons o later ih =>
      obtain ⟨ho, hrest⟩ := List.forall_mem_cons.mp hclock
      obtain ⟨hnow, hlater⟩ := halone
      obtain ⟨hfirst, hothers⟩ := hwritten
      have hnext := Occurrence.tidy_step htidy ho
      have hkept := hstep o b h hnext hnow hfirst
      exact ih hkept hnext hrest hlater hothers

/-- If no run of a task is in progress when it is removed, it is left alone as long as it is not added. -/
theorem leftAlone_of_idle (hget : Gone id b) (hrunning : ∀ run ∈ b.running, run.id ≠ id) (htidy : b.Tidy)
    (hclock : ∀ o ∈ later, o.inCalendar = true) (hwritten : AllWritten later b)
    (hsent : ∀ payload, .move (.add payload) ∈ later → Check.text (payload.fieldOrNull "id") ≠ .accepted id) :
    LeftAlone id later b := by
  induction later generalizing b with
  | nil => trivial
  | cons o later ih =>
      obtain ⟨ho, hrest⟩ := List.forall_mem_cons.mp hclock
      obtain ⟨hfirst, hothers⟩ := hwritten
      have hnow : o.LeavesAlone id b ∧ ∀ run ∈ (o.step b).running, run.id ≠ id := by
        cases o with
        | restart => exact ⟨trivial, by simp [Occurrence.step, idle]⟩
        | move m =>
            obtain ⟨hend, hstep⟩ := m.running_step hget.task hrunning
            refine ⟨⟨?_, hend⟩, hstep⟩
            rintro t ⟨payload, rfl, hputs⟩ rfl
            exact hsent payload List.mem_cons_self hputs.sent
      have hnext := Occurrence.tidy_step htidy ho
      constructor
      · exact hnow.1
      · apply ih
        · exact hget.step hnext hnow.1 hfirst
        · exact hnow.2
        · exact hnext
        · exact hrest
        · exact hothers
        · exact fun payload hmem => hsent payload (List.mem_cons_of_mem _ hmem)

/-! ## What comes of a removal -/

/-- A removal that writes the file takes the task away, and leaves the entry that is no task where it is left in the
scheduler. -/
theorem removed_of_saveAnd {s' : Scheduler} {report : Report}
    (hremove : b.scheduler.remove id = s'.saveAnd report) (hfile : s'.file = b.scheduler.file) (htidy : b.Tidy)
    (hfree : b.scheduler.file.blocked = false) (hwritten : Occurrence.Written (.move (.remove id)) b) :
    let b' := (Move.remove id).step b
    (b.scheduler.remove id).1 = .ok report ∧ Gone id b' ∧ b'.other? id = s'.unread.get? id ∧
      b'.written? id = s'.unread.get? id := by
  intro b'
  have hstep : b'.scheduler = s'.save.2 := congrArg Prod.snd hremove
  have hnext : b'.Tidy := htidy.step rfl
  have hmissing : b'.task? id = none := (Move.task?_remove id id b).trans (if_pos rfl)
  have hprintable : b'.scheduler.Printable := by
    rcases hwritten with hsame | hprintable
    · -- the file cannot be the same, as it was written
      have hleft : s'.save.2.file = s'.file := by
        rw [← hstep, hfile]
        exact hsame
      rw [← hfile] at hfree
      exact absurd hleft (save_file_ne hfree)
    · exact hprintable
  constructor
  · rw [hremove]
    rw [hstep] at hprintable
    exact saveAnd_of_printable report hprintable
  · have hother : b'.other? id = s'.unread.get? id := by
      unfold Busy.other?
      rw [hstep]
      rfl
    refine ⟨⟨hmissing, ?_⟩, hother, ?_⟩
    · rw [tasks_ofFile_of_save hstep hnext.scheduler hprintable]
      exact hmissing
    · exact (entries_get?_unread hstep hnext.scheduler hprintable hmissing).trans hother

/-- Removing an id, whatever happened since a file was opened, reports success if there is a task of the id, or an
entry that is no task and does not hold null. Then there is no task of the id, and the file has nothing under the id
but the entry that was hidden behind the task; and so it stays, whatever happens later, restarts included, unless the
task is added again or a run of it that was in progress is finished. Where removing reports failure, tasks, runs and
the file are as they were; and so are the entries that are no tasks, if there was none of the id. -/
theorem removal_lasts (f : File) (id : Text) (hfree : f.blocked = false)
    (hclock : ∀ o ∈ before ++ later, o.inCalendar = true) :
    let b := afterAll before (idle (ofFile f))
    let b' := (Move.remove id).step b
    let report := (b.scheduler.remove id).1.map (·.success)
    Occurrence.Written (.move (.remove id)) b →
      report = .ok (decide (b.task? id ≠ none ∨ (b.other? id).getD .null ≠ .null)) ∧
      (report = .ok true → b'.task? id = none ∧
        b'.written? id = (if (b.task? id).isSome then b.other? id else none) ∧
        (LeftAlone id later b' → AllWritten later b' → (afterAll later b').task? id = none ∧
          (b'.written? id = none → (afterAll later b').written? id = none))) ∧
      (report = .ok false → b'.scheduler.tasks = b.scheduler.tasks ∧ b'.scheduler.file = b.scheduler.file ∧
        b'.running = b.running ∧ (b.other? id = none → b' = b)) := by
  intro b b' report hwritten
  have hbefore : ∀ o ∈ before, o.inCalendar = true := fun o ho => hclock o (List.mem_append_left _ ho)
  have hlater : ∀ o ∈ later, o.inCalendar = true := fun o ho => hclock o (List.mem_append_right _ ho)
  have htidy : b.Tidy := (tidy_idle f).afterAll hbefore
  have hnext : b'.Tidy := htidy.step rfl
  have hunblocked : b.scheduler.file.blocked = false := by
    have hsame : (idle (ofFile f)).scheduler.file.blocked = f.blocked := congrArg File.blocked (ofFile_file f)
    rw [blocked_afterAll, hsame]
    exact hfree
  -- once it is gone, only its absence from the file is left to see
  have hstays : Gone id b' → b'.other? id = b'.written? id → LeftAlone id later b' → AllWritten later b' →
      (afterAll later b').task? id = none ∧ (b'.written? id = none → (afterAll later b').written? id = none) := by
    intro hgone hother halone hall
    constructor
    · have hkept : Gone id (afterAll later b') :=
        kept_afterAll (fun o b hb ht ha hw => hb.step ht ha hw) hgone hnext hlater halone hall
      exact hkept.task
    · intro hnone
      have herased : Erased id b' := ⟨hgone, hother.trans hnone, hnone⟩
      have hkept : Erased id (afterAll later b') :=
        kept_afterAll (fun o b hb ht ha hw => hb.step ht ha hw) herased hnext hlater halone hall
      exact hkept.written
  rcases remove_cases b.scheduler id with
    ⟨t, hget, hremove⟩ | ⟨hget, hentry, hremove⟩ | ⟨hget, hentry, hremove⟩
  · -- a task is removed
    have hsome : b.task? id = some t := hget
    obtain ⟨hdone, hgone, hother, hfile⟩ := removed_of_saveAnd hremove rfl htidy hunblocked hwritten
    have hreport : report = .ok true := congrArg (Except.map (·.success)) hdone
    refine ⟨?_, ?_, ?_⟩
    · rw [hreport, hsome]
      rfl
    · intro _
      refine ⟨hgone.task, ?_, hstays hgone (hother.trans hfile.symm)⟩
      rw [hsome]
      exact hfile
    · intro hrefused
      rw [hreport] at hrefused
      cases hrefused
  · -- an entry that is no task is removed
    have hnone : b.task? id = none := hget
    obtain ⟨hdone, hgone, hother, hfile⟩ := removed_of_saveAnd hremove rfl htidy hunblocked hwritten
    have hreport : report = .ok true := congrArg (Except.map (·.success)) hdone
    have hthere : (b.other? id).getD .null ≠ .null := hentry
    refine ⟨?_, ?_, ?_⟩
    · rw [hreport, decide_eq_true (.inr hthere)]
    · intro _
      refine ⟨hgone.task, ?_, hstays hgone (hother.trans hfile.symm)⟩
      rw [hnone]
      exact hfile.trans (Fields.get?_erase_self _ _)
    · intro hrefused
      rw [hreport] at hrefused
      cases hrefused
  · -- nothing is there to be removed
    have hnone : b.task? id = none := hget
    have hnull : (b.other? id).getD .null = .null := hentry
    have hreport : report = .ok false := congrArg (fun r => Except.map (·.success) r.1) hremove
    have hstep : b' = ⟨{ b.scheduler with unread := b.scheduler.unread.erase id }, b.running⟩ :=
      congrArg (fun r : Except Fault Report × Scheduler => Busy.mk r.2 b.running) hremove
    refine ⟨?_, ?_, ?_⟩
    · rw [hreport, hnone, hnull]
      rfl
    · intro hdone
      rw [hreport] at hdone
      cases hdone
    · intro _
      rw [hstep]
      refine ⟨rfl, rfl, rfl, ?_⟩
      intro hother
      rw [Fields.erase_of_get?_eq_none hother]

/-- A file with an entry that is no task. -/
def sampleMixed : File := (File.absent.writeDocument (.object [("x", .bool true)])).2

/-- A task is added, a run of it fails, the program is started anew, and a run of a second task is in progress. -/
def sampleUntil : List Occurrence :=
  [.move (.add (sampleTask "a" "08:00").toValue), .move (.start sampleHost "a"), .move (.fail 0), .restart,
    .move (.add (sampleTask "b" "09:00").toValue), .move (.start sampleHost "b")]

/-- The second task is switched, its run is finished, the entry that is no task is removed, and the program is
started anew. -/
def sampleSince : List Occurrence :=
  [.move (.toggle "b"), .move (.finish 0 ⟨32400000000⟩), .move (.remove "x"), .restart]

theorem removal_lasts_of_sample :
    let b := afterAll sampleUntil (idle (ofFile sampleMixed))
    let b' := (Move.remove "a").step b
    (sampleMixed.blocked = false ∧ (∀ o ∈ sampleUntil ++ sampleSince, o.inCalendar = true) ∧
        Occurrence.Written (.move (.remove "a")) b ∧ LeftAlone "a" sampleSince b' ∧ AllWritten sampleSince b' ∧
        Occurrence.Written (.move (.remove "z")) b) ∧
      (b.scheduler.remove "a").1.map (·.success) = .ok true ∧
      (afterAll sampleSince b').task? "a" = none ∧ (afterAll sampleSince b').written? "a" = none ∧
      (b.scheduler.remove "z").1.map (·.success) = .ok false ∧ (Move.remove "z").step b = b := by
  intro b b'
  have hfree : sampleMixed.blocked = false := by decide +kernel
  have hclock : ∀ o ∈ sampleUntil ++ sampleSince, o.inCalendar = true := by decide +kernel
  have hnow : Occurrence.Written (.move (.remove "a")) b ∧ AllWritten sampleSince b' ∧
      Occurrence.Written (.move (.remove "z")) b ∧ (b.scheduler.remove "a").1.map (·.success) = .ok true ∧
      b'.written? "a" = none ∧ (b.scheduler.remove "z").1.map (·.success) = .ok false ∧ b.other? "z" = none ∧
      b'.task? "a" = none ∧ (ofFile b'.scheduler.file).tasks.get? "a" = none ∧
      ∀ run ∈ b'.running, run.id ≠ "a" := by
    decide +kernel
  obtain ⟨hremoved, hall, hkept, hdone, hfile, hrefused, hother, htask, hreopened, hrunning⟩ := hnow
  have htidy : b'.Tidy := ((tidy_idle sampleMixed).afterAll fun o ho => hclock o (List.mem_append_left _ ho)).step rfl
  have halone : LeftAlone "a" sampleSince b' := by
    apply leftAlone_of_idle ⟨htask, hreopened⟩ hrunning htidy
    · exact fun o ho => hclock o (List.mem_append_right _ ho)
    · exact hall
    · simp [sampleSince]
  obtain ⟨-, hsuccess, -⟩ := removal_lasts sampleMixed "a" hfree hclock hremoved
  obtain ⟨-, -, hlasts⟩ := hsuccess hdone
  obtain ⟨hmissing, habsent⟩ := hlasts halone hall
  obtain ⟨-, -, hfailure⟩ := removal_lasts sampleMixed "z" hfree hclock hkept
  obtain ⟨-, -, -, hsame⟩ := hfailure hrefused
  exact ⟨⟨hfree, hclock, hremoved, halone, hall, hkept⟩, hdone, hmissing, habsent hfile, hrefused, hsame hother⟩

/-- An entry that holds null cannot be removed, and yet the next task that is added does not find it in the file any
more. And an entry that a task hides is left in the file when the task is removed. -/
theorem removed_in_vain :
    let c := sampleTask "c" "10:00"
    let opened := ofFile (File.absent.writeDocument (.object [("a", .null)])).2
    let shadowed := (ofFile (File.absent.writeDocument (.object [("a", .bool true)])).2).add
      (sampleTask "a" "08:00").toValue
    ((opened.remove "a").1.map (·.success) = .ok false ∧
        (entries (opened.add c.toValue).2.file).get? "a" = some .null ∧
        (entries ((opened.remove "a").2.add c.toValue).2.file).get? "a" = none) ∧
      (shadowed.2.remove "a").1.map (·.success) = .ok true ∧
        (entries (shadowed.2.remove "a").2.file).get? "a" = some (.bool true) := by
  decide +kernel

end Scheduler

end ChatFlow
