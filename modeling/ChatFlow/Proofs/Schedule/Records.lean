import ChatFlow.Proofs.Schedule.Documents
import ChatFlow.Proofs.Schedule.Periods
import ChatFlow.Proofs.Schedule.Rounds

/-!
# The records of tasks

Whatever rounds come after the opening of a file, the record of a task counts its runs: those that came to their end
since the task was put last, or since the file was opened. The last run is the last of them, by the time of its end.
And a round that writes the file in full leaves a file that is opened with the same tasks.

* `Scheduler.Round.Puts`: a round adds a task.
* `Scheduler.Round.InCalendar`: the clock stays in the calendar.
* `Scheduler.Tidy.along`: what the tasks and the other entries are like, after all rounds.
* `Scheduler.Round.tasks_ofFile`: the file, opened again.
* `Scheduler.Since`: since when the runs of a task are counted.
* `Scheduler.file_and_records`: files and records after all rounds.
-/

namespace ChatFlow

namespace Scheduler

variable {s : Scheduler} {t u : Task} {id : Text} {r : Round} {rounds : List Round}

/-! ## Files -/

/-- Notes leave the file alone, or the last one writes it. -/
theorem foldl_note_file (fs : List Finish) (s : Scheduler) :
    fs.foldl note s = s ∨ ∃ s' : Scheduler, fs.foldl note s = s'.save.2 := by
  induction fs generalizing s with
  | nil => exact .inl rfl
  | cons f fs ih =>
      rw [List.foldl_cons]
      rcases ih (s.note f) with hsame | hsaved
      · rw [hsame]
        unfold note
        cases s.tasks.get? f.id with
        | none => exact .inl rfl
        | some t => exact .inr ⟨_, rfl⟩
      · exact .inr hsaved

namespace Round

/-- A round leaves the file alone, or writes it at its end. -/
theorem perform_file (r : Round) (s : Scheduler) :
    (r.perform s).file = s.file ∨ ∃ s' : Scheduler, r.perform s = s'.save.2 := by
  have hnotes : r.perform s = (r.finishes s).foldl note s →
      (r.perform s).file = s.file ∨ ∃ s' : Scheduler, r.perform s = s'.save.2 := by
    intro h
    rw [h]
    exact (foldl_note_file _ s).imp_left (congrArg file)
  cases hdeed : r.deed with
  | add payload =>
      rw [perform, after, hdeed]
      rcases add_file s payload with hsame | ⟨s', -, hsave⟩
      · exact .inl hsame
      · exact .inr ⟨s', hsave⟩
  | remove id =>
      rw [perform, after, hdeed]
      rcases remove_file s id with ⟨hsame, -⟩ | ⟨s', -, hsave⟩
      · exact .inl hsame
      · exact .inr ⟨s', hsave⟩
  | toggle id =>
      rw [perform, after, hdeed]
      rcases toggle_file s id with hsame | ⟨s', -, hsave⟩
      · exact .inl hsame
      · exact .inr ⟨s', hsave⟩
  | runNow id => exact hnotes (perform_of_runs (.inl ⟨id, hdeed⟩) s)
  | tick => exact hnotes (perform_of_runs (.inr hdeed) s)

/-! ## Times of the calendar -/

/-- The clock shows times of the calendar, when the round begins and while it goes on. -/
structure InCalendar (r : Round) : Prop where
  clock : r.clock.inCalendar = true
  course : Course.Keeps r.course fun m m' => m.inCalendar = true → m'.inCalendar = true

theorem InCalendar.time (h : r.InCalendar) (s : Scheduler) : ∀ f ∈ r.finishes s, f.time.inCalendar = true :=
  fun f hf => ((clock_finishes h.course s).2 f hf).1 h.clock

end Round

/-- The clock of a host stands still while tasks run. -/
theorem Turn.inCalendar_round {c : Turn} (h : c.clock.inCalendar = true) : c.round.InCalendar where
  clock := h
  course :=
    { refl := fun _ hm => hm
      trans := fun h₁ h₂ hm => h₂ (h₁ hm)
      run := fun t w world hm => c.host.course_keeps.run t w world ▸ hm }

theorem Tidy.note (h : s.Tidy) {f : Finish} (hf : f.time.inCalendar = true) : (s.note f).Tidy := by
  unfold Scheduler.note
  cases hget : s.tasks.get? f.id with
  | none => exact h
  | some t =>
      rw [Option.elim_some, ← h.keyed.id_of_get? hget]
      exact (h.set (t := t.noted f.time) (Task.Recordable.noted hf t)).save

theorem Tidy.perform (h : s.Tidy) (hr : r.InCalendar) : (r.perform s).Tidy :=
  r.perform_keeps (fun _ payload h => h.add payload) (fun _ id h => h.remove id) (fun _ id h => h.toggle id)
    (fun f hf _ h => h.note (hr.time s f hf)) h

theorem Tidy.along (h : s.Tidy) (hclock : ∀ r ∈ rounds, r.InCalendar) : (along rounds s).Tidy := by
  induction rounds generalizing s with
  | nil => exact h
  | cons r rounds ih =>
      obtain ⟨hr, hrest⟩ := List.forall_mem_cons.mp hclock
      exact ih (h.perform hr) hrest

/-- A file that a round wrote in full is opened with the tasks that the round leaves. -/
theorem Round.tasks_ofFile (h : s.Tidy) (hr : r.InCalendar) (hwritten : (r.perform s).file ≠ s.file)
    (hprintable : (r.perform s).Printable) : (ofFile (r.perform s).file).tasks = (r.perform s).tasks := by
  rcases r.perform_file s with hsame | ⟨s', hsave⟩
  · exact absurd hsame hwritten
  · exact tasks_ofFile_of_save hsave (h.perform hr) hprintable

/-! ## Records -/

/-- The round puts the task. -/
def Round.Puts (r : Round) (s : Scheduler) (t : Task) : Prop :=
  ∃ payload, r.deed = .add payload ∧ Scheduler.Puts s payload t

theorem Round.Puts.record (h : r.Puts s t) : t.lastRun = none ∧ t.runCount = 0 := by
  obtain ⟨payload, -, hputs⟩ := h
  exact hputs.record

theorem Round.Puts.perform_tasks (h : r.Puts s t) : (r.perform s).tasks = s.tasks.set t.id t := by
  obtain ⟨payload, hdeed, hputs⟩ := h
  rw [perform, after, hdeed]
  exact hputs.tasks_eq

/-- What becomes of the task of an id: it is put, it is not there afterwards, or it is noted for each of its runs
and may be switched. -/
theorem Round.get?_cases (r : Round) (s : Scheduler) (id : Text) :
    (∃ t, r.Puts s t ∧ t.id = id) ∨ (r.perform s).tasks.get? id = none ∨
      ∃ flip : Bool, (r.perform s).tasks.get? id = (s.tasks.get? id).map fun t =>
        { t.notedAll (timesOf id (r.finishes s)) with enabled := t.enabled ^^ flip } := by
  cases hkeeps : r.keepsTasks with
  | true => exact .inr (.inr (r.get?_perform hkeeps s id))
  | false =>
      have hleft : r.finishes s = [] → (r.perform s).tasks.get? id = s.tasks.get? id →
          ∃ flip : Bool, (r.perform s).tasks.get? id = (s.tasks.get? id).map fun t =>
            { t.notedAll (timesOf id (r.finishes s)) with enabled := t.enabled ^^ flip } := by
        intro hnone hget
        refine ⟨false, ?_⟩
        rw [hnone, hget]
        simp [timesOf, Task.notedAll]
      unfold keepsTasks at hkeeps
      split at hkeeps
      · next payload hdeed =>
          have hnone : r.finishes s = [] := finishes_eq_nil (by simp [hdeed]) (by simp [hdeed])
          by_cases hput : ∃ t, r.Puts s t ∧ t.id = id
          · exact .inl hput
          · refine .inr (.inr (hleft hnone ?_))
            rw [perform, after, hdeed]
            exact add_get? fun t hputs hid => hput ⟨t, ⟨payload, hdeed, hputs⟩, hid⟩
      · next id' hdeed =>
          have hnone : r.finishes s = [] := finishes_eq_nil (by simp [hdeed]) (by simp [hdeed])
          have hremoved : (r.perform s).tasks.get? id = if id' = id then none else s.tasks.get? id := by
            rw [perform, after, hdeed]
            exact remove_get? s id' id
          split at hremoved
          · exact .inr (.inl hremoved)
          · exact .inr (.inr (hleft hnone hremoved))
      · cases hkeeps

/-- The runs of a task are counted since the file was opened, or since the last of some rounds put the task. -/
structure Since (id : Text) (earlier : List Round) (s : Scheduler) (t : Task) : Prop where
  get : (along earlier s).tasks.get? id = some t
  start : earlier = [] ∨
    (t.lastRun = none ∧ t.runCount = 0) ∧ ∃ before r, earlier = before ++ [r] ∧ r.Puts (along before s) t

/-- None of the rounds puts the task of an id. -/
def Unput (id : Text) : List Round → Scheduler → Prop
  | [], _ => True
  | r :: later, s => (∀ t, r.Puts s t → t.id ≠ id) ∧ Unput id later (r.perform s)

/-- A task that is there after all rounds is noted for each of its runs since it was put, or since the beginning. -/
theorem exists_since (hget : (along rounds s).tasks.get? id = some u) :
    ∃ earlier later t, rounds = earlier ++ later ∧ Since id earlier s t ∧ Unput id later (along earlier s) ∧
      ∃ enabled, u = { t.notedAll ((history id later (along earlier s)).map Prod.snd) with enabled := enabled } := by
  induction rounds generalizing s with
  | nil => exact ⟨[], [], u, rfl, ⟨hget, .inl rfl⟩, trivial, u.enabled, rfl⟩
  | cons r rounds ih =>
      obtain ⟨earlier, later, t, rfl, hsince, hunput, enabled, hu⟩ := ih hget
      rcases hsince.start with rfl | ⟨hrecord, before, r', rfl, hputs⟩
      · -- counting goes back to the beginning of the other rounds, and the first one is still to be seen
        by_cases hput : ∃ t', r.Puts s t' ∧ t'.id = id
        · obtain ⟨t', hputs, hid⟩ := hput
          have hsame : t' = t := by
            have hfound : (r.perform s).tasks.get? id = some t := hsince.get
            rw [hputs.perform_tasks, Fields.get?_set, if_pos hid] at hfound
            exact Option.some.inj hfound
          subst hsame
          exact ⟨[r], later, t', rfl, ⟨hsince.get, .inr ⟨hputs.record, [], r, rfl, hputs⟩⟩, hunput, enabled, hu⟩
        · rcases r.get?_cases s id with hputs | hnone | ⟨flip, hnoted⟩
          · exact absurd hputs hput
          · have hfound : (r.perform s).tasks.get? id = some t := hsince.get
            rw [hnone] at hfound
            cases hfound
          · have hfound : (r.perform s).tasks.get? id = some t := hsince.get
            rw [hnoted] at hfound
            obtain ⟨t₀, hfirst, rfl⟩ := Option.map_eq_some_iff.mp hfound
            refine ⟨[], r :: later, t₀, rfl, ⟨hfirst, .inl rfl⟩, ⟨?_, hunput⟩, enabled, ?_⟩
            · intro t' hputs hid
              exact hput ⟨t', hputs, hid⟩
            · rw [hu, Task.notedAll_switched, history, List.map_append, Task.notedAll_append]
              simp [along, Function.comp_def]
      · exact ⟨r :: (before ++ [r']), later, t, rfl,
          ⟨hsince.get, .inr ⟨hrecord, r :: before, r', rfl, hputs⟩⟩, hunput, enabled, hu⟩

/-- Whatever is done after a file was opened: a round that writes the file in full leaves a file that is opened with
the same tasks in the same order; and a task counts its runs since it was put last, which is when it had none, or
since the file was opened, with the end of the last of them as its last run. -/
theorem file_and_records (f : File) (hclock : ∀ r ∈ rounds, r.InCalendar) :
    (∀ earlier r later, rounds = earlier ++ r :: later →
      let s := along earlier (ofFile f)
      (r.perform s).file ≠ s.file → (r.perform s).Printable →
        (ofFile (r.perform s).file).tasks = (r.perform s).tasks) ∧
      ∀ id u, (along rounds (ofFile f)).tasks.get? id = some u →
        ∃ earlier later t, rounds = earlier ++ later ∧ Since id earlier (ofFile f) t ∧
          Unput id later (along earlier (ofFile f)) ∧
          u.runCount = t.runCount + (history id later (along earlier (ofFile f))).length ∧
          u.lastRun = ((history id later (along earlier (ofFile f))).getLast?.map fun e => ⟨e.2, none⟩).or
            t.lastRun := by
  constructor
  · rintro earlier r later rfl s hwritten hprintable
    have hearlier : ∀ r' ∈ earlier, r'.InCalendar := fun r' hr' => hclock r' (List.mem_append_left _ hr')
    have hr : r.InCalendar := hclock r (List.mem_append_right _ List.mem_cons_self)
    exact Round.tasks_ofFile ((tidy_ofFile f).along hearlier) hr hwritten hprintable
  · intro id u hget
    obtain ⟨earlier, later, t, hrounds, hsince, hunput, enabled, rfl⟩ := exists_since hget
    refine ⟨earlier, later, t, hrounds, hsince, hunput, ?_, ?_⟩
    · rw [Task.notedAll_eq, List.length_map]
    · rw [Task.notedAll_eq, List.getLast?_map, Option.map_map]
      rfl

/-- A file with a task that has run three times, behind an entry that is no task. -/
def sampleFile : File :=
  (File.absent.writeDocument
    (.object [("x", .bool true), ("a", { sampleTask "a" "08:00" with runCount := 3 }.toValue)])).2

/-- The first task is run by a tick, and a second one is added and switched. -/
def sampleBefore : List Round :=
  [(sampleTurn .tick 0 480 0).round, (sampleTurn (.add (sampleTask "b" "09:00").toValue) 0 500 0).round,
    (sampleTurn (.toggle "b") 0 510 0).round]

/-- The second task is run by hand. -/
def sampleLast : Round := (sampleTurn (.runNow "b") 0 520 0).round

theorem file_and_records_of_sample :
    let s := along sampleBefore (ofFile sampleFile)
    let s' := sampleLast.perform s
    (∀ r ∈ sampleBefore ++ [sampleLast], r.InCalendar) ∧ (s'.file ≠ s.file ∧ s'.Printable) ∧
      (ofFile s'.file).tasks = s'.tasks ∧
        ∃ u earlier later t, s'.tasks.get? "b" = some u ∧ sampleBefore ++ [sampleLast] = earlier ++ later ∧
          Since "b" earlier (ofFile sampleFile) t ∧
          u.runCount = t.runCount + (history "b" later (along earlier (ofFile sampleFile))).length := by
  intro s s'
  have hclock : ∀ r ∈ sampleBefore ++ [sampleLast], r.InCalendar := by
    intro r hr
    simp only [sampleBefore, List.cons_append, List.nil_append, List.mem_cons, List.not_mem_nil, or_false] at hr
    rcases hr with rfl | rfl | rfl | rfl
    · exact Turn.inCalendar_round (by decide +kernel)
    · exact Turn.inCalendar_round (by decide +kernel)
    · exact Turn.inCalendar_round (by decide +kernel)
    · exact Turn.inCalendar_round (by decide +kernel)
  have hafter : s'.file ≠ s.file ∧ (s'.file.blocked = false ∧ Json.fault? s'.document = none ∧
      s'.document.isEncodable = true) ∧ (s'.tasks.get? "b").isSome = true := by
    decide +kernel
  obtain ⟨hwritten, ⟨hfree, hfaultless, hencodable⟩, hfound⟩ := hafter
  have hprintable : s'.Printable := ⟨hfree, hfaultless, hencodable⟩
  obtain ⟨hfiles, hrecords⟩ := file_and_records sampleFile hclock
  obtain ⟨u, hu⟩ := Option.isSome_iff_exists.mp hfound
  obtain ⟨earlier, later, t, hrounds, hsince, -, hcount, -⟩ := hrecords "b" u hu
  exact ⟨hclock, ⟨hwritten, hprintable⟩, hfiles sampleBefore sampleLast [] rfl hwritten hprintable,
    u, earlier, later, t, hu, hrounds, hsince, hcount⟩

end Scheduler

end ChatFlow
