import ChatFlow.Proofs.Schedule.Removals

/-!
# What is reported of edits and runs

An edit is reported as done if it applies and writing the file ends in no fault. That says nothing of whether the file
was written: a file that is blocked is left as it is, and the report is the same. Only where the file is not blocked
does the report of success mean that the document of all tasks stands in it. A report of failure means that tasks and
file are as they were.

A run by hand is reported as done for every task that is there, unless noting it ends in a fault. It is noted if the
workflow is there and enabled and the run comes to its end, and otherwise nothing is changed, with the same report.

* `Scheduler.Edit`: adding, removing and switching tasks, and when each applies.
* `Scheduler.Edit.make_cases`: what an edit made is to be written, or nothing is changed.
* `Scheduler.comesToEnd`, `Scheduler.runNow_cases`: a run by hand is noted, or nothing is changed.
* `Scheduler.done_iff_applies`, `Scheduler.runNow_reports`: what the reports mean.
* `Scheduler.done_unwritten`, `Scheduler.done_without_run`: reports of success with nothing behind them.
-/

namespace ChatFlow

namespace Scheduler

variable {s : Scheduler} {t : Task} {id : Text} {report : Report}

/-! ## Writing and reporting -/

/-- The document does not depend on the file that it is written to. -/
theorem document_save (s : Scheduler) : s.save.2.document = s.document := rfl

theorem save_of_blocked (h : s.file.blocked = true) : s.save.2.file = s.file := by
  rw [save, File.writeDocument, File.write, if_pos h]

theorem save_of_free (hfree : s.file.blocked = false) (hencodable : s.document.isEncodable = true) :
    s.save.2.file.content = some (Json.text .file s.document) := by
  have hwf : (Json.text .file s.document).isWellFormed = true := (Json.isWellFormed_textAt rfl 0 _).trans hencodable
  rw [save, File.writeDocument, File.write, hfree, hwf]
  show (s.file.put _).content = _
  rw [File.put, hfree]
  rfl

/-- A report of success is given if writing ends in no fault, -/
theorem saveAnd_done_iff (hdone : report.success = true) :
    (s.saveAnd report).1.map (·.success) = .ok true ↔ s.Savable := by
  rw [saveAnd, Savable]
  dsimp only
  cases s.save.1 with
  | ok _ => exact ⟨fun _ => rfl, fun _ => congrArg Except.ok hdone⟩
  | error fault =>
      constructor
      · intro h
        cases h
      · intro h
        cases h

/-- and it does not become one of failure. -/
theorem saveAnd_not_failed (hdone : report.success = true) : (s.saveAnd report).1.map (·.success) ≠ .ok false := by
  rw [saveAnd]
  dsimp only
  cases s.save.1 with
  | ok _ =>
      intro h
      have hfailed : report.success = false := Except.ok.inj h
      rw [hdone] at hfailed
      cases hfailed
  | error fault =>
      intro h
      cases h

/-- That a task is missing is a report of failure. -/
theorem missing_not_done : (Except.ok missing : Except Fault Report).map (·.success) ≠ .ok true := by
  intro h
  have hfailed : false = true := Except.ok.inj h
  cases hfailed

/-! ## Edits -/

/-- What may be asked for. -/
inductive Edit where
  | add (payload : Value)
  | remove (id : Text)
  | toggle (id : Text)

namespace Edit

/-- The report of an edit, and the scheduler behind it. -/
def make : Edit → Scheduler → Except Fault Report × Scheduler
  | add payload, s => s.add payload
  | remove id, s => s.remove id
  | toggle id, s => s.toggle id

/-- A task is put of what was sent, or there is something under the id to remove, or a task to switch. -/
def Applies : Edit → Scheduler → Prop
  | add payload, s => ∃ t, Puts s payload t
  | remove id, s => s.tasks.get? id ≠ none ∨ (s.unread.get? id).getD .null ≠ .null
  | toggle id, s => s.tasks.get? id ≠ none

/-- An edit that applies makes a scheduler that is to be written and reports success behind it. Another one changes
neither tasks nor file, and does not report success. -/
theorem make_cases (e : Edit) (s : Scheduler) :
    (e.Applies s ∧ ∃ (s' : Scheduler) (report : Report), report.success = true ∧ s'.file = s.file ∧
        e.make s = s'.saveAnd report) ∨
      (¬ e.Applies s ∧ (e.make s).1.map (·.success) ≠ .ok true ∧ (e.make s).2.tasks = s.tasks ∧
        (e.make s).2.file = s.file) := by
  cases e with
  | add payload =>
      by_cases happlies : (add payload).Applies s
      · obtain ⟨t, hputs⟩ := happlies
        exact .inl ⟨⟨t, hputs⟩, { s with tasks := s.tasks.set t.id t }, _, rfl, rfl, hputs.add_eq⟩
      · rcases add_cases s payload with ⟨hsame, hrefused⟩ | hputs
        · exact .inr ⟨happlies, hrefused, congrArg tasks hsame, congrArg file hsame⟩
        · exact absurd hputs happlies
  | remove id =>
      rcases remove_cases s id with ⟨t, hget, hremove⟩ | ⟨hget, hentry, hremove⟩ | ⟨hget, hnull, hremove⟩
      · have hthere : s.tasks.get? id ≠ none := by
          rw [hget]
          exact Option.some_ne_none t
        exact .inl ⟨.inl hthere, { s with tasks := s.tasks.erase id }, _, rfl, rfl, hremove⟩
      · exact .inl ⟨.inr hentry, { s with unread := s.unread.erase id }, _, rfl, rfl, hremove⟩
      · -- a null under the id goes, but it does not count, and nothing is written
        have hmake : (remove id).make s = (.ok missing, { s with unread := s.unread.erase id }) := hremove
        rw [hmake]
        refine .inr ⟨?_, missing_not_done, rfl, rfl⟩
        rintro (hthere | hentry)
        · exact hthere hget
        · exact hentry hnull
  | toggle id =>
      cases hget : s.tasks.get? id with
      | none =>
          have hmake : (toggle id).make s = (.ok missing, s) := by
            show s.toggle id = _
            rw [Scheduler.toggle, hget]
          rw [hmake]
          exact .inr ⟨fun hthere => hthere hget, missing_not_done, rfl, rfl⟩
      | some t =>
          have hthere : s.tasks.get? id ≠ none := by
            rw [hget]
            exact Option.some_ne_none t
          have hmake : (toggle id).make s =
              ({ s with tasks := s.tasks.set id { t with enabled := !t.enabled } }).saveAnd
                (.done [] [("enabled", .bool !t.enabled)]) := by
            show s.toggle id = _
            rw [Scheduler.toggle, hget]
          exact .inl ⟨hthere, { s with tasks := s.tasks.set id { t with enabled := !t.enabled } }, _, rfl, rfl, hmake⟩

end Edit

/-- An edit is reported as done exactly if it applies and either the file is blocked or all that is to be written can
be encoded. A blocked file is left as it is; in another one the document of all tasks stands behind a report of
success. Behind a report of failure tasks and file are as they were. -/
theorem done_iff_applies (e : Edit) (s : Scheduler) :
    let answer := e.make s
    let success := answer.1.map (·.success)
    (success = .ok true ↔ e.Applies s ∧ (s.file.blocked = true ∨ answer.2.document.isEncodable = true)) ∧
      (s.file.blocked = true → answer.2.file = s.file) ∧
      (s.file.blocked = false → success = .ok true →
        answer.2.file.content = some (Json.text .file answer.2.document)) ∧
      (success = .ok false → answer.2.tasks = s.tasks ∧ answer.2.file = s.file) := by
  rcases e.make_cases s with ⟨happlies, s', report, hdone, hfile, hmake⟩ | ⟨hvain, hrefused, htasks, hfile⟩
  · -- the report says whether writing ends in a fault, and a blocked file takes every document without one
    have hsuccess := saveAnd_done_iff (s := s') hdone
    have hbehind : (s'.saveAnd report).2 = s'.save.2 := rfl
    rw [hmake]
    dsimp only
    rw [hbehind, hsuccess, savable_iff, document_save, ← hfile]
    refine ⟨⟨fun h => ⟨happlies, h⟩, And.right⟩, save_of_blocked, ?_, fun h => absurd h (saveAnd_not_failed hdone)⟩
    intro hfree h
    rcases h with hblocked | hencodable
    · rw [hfree] at hblocked
      cases hblocked
    · exact save_of_free hfree hencodable
  · refine ⟨?_, fun _ => hfile, fun _ h => absurd h hrefused, fun _ => ⟨htasks, hfile⟩⟩
    exact ⟨fun h => absurd h hrefused, fun h => absurd h.1 hvain⟩

/-- With a blocked file a task is added, switched and removed, each with a report of success, and nothing is ever
written. -/
theorem done_unwritten :
    let blocked : File := ⟨none, 0, true⟩
    let added := (Edit.add (sampleTask "a" "08:00").toValue).make (ofFile blocked)
    let switched := (Edit.toggle "a").make added.2
    let removed := (Edit.remove "a").make switched.2
    [added, switched, removed].map (fun answer => answer.1.map (·.success)) = [.ok true, .ok true, .ok true] ∧
      [added, switched, removed].map (fun answer => answer.2.file) = [blocked, blocked, blocked] := by
  decide +kernel

/-! ## Runs by hand -/

/-- Is the task there, its workflow as well, and enabled, and does its run come to its end? -/
def comesToEnd (host : TaskHost) (id : Text) (s : Scheduler) (world : World) : Bool :=
  (s.tasks.get? id).any fun t => t.isAble host world

theorem runNow_of_missing (hget : s.tasks.get? id = none) (host : TaskHost) (world : World) :
    runNow host id (s, world) = (.ok missing, s, world) := by
  rw [runNow, Fields.has, hget]
  rfl

/-- The scheduler in which a run of a task is noted, before it is written. -/
def noting (s : Scheduler) (t : Task) (id : Text) (world : World) : Scheduler :=
  { s with tasks := s.tasks.set id (t.noted world.clock) }

/-- A run of a task that is there is noted and reported as an edit is, or nothing is noted, and success is reported
all the same. -/
theorem runNow_cases (hget : s.tasks.get? id = some t) (host : TaskHost) (world : World) :
    let report : Report := .done "已执行" []
    let answer := runNow host id (s, world)
    (t.isAble host world = false ∧ answer.1 = .ok report ∧ answer.2.1 = s) ∨
      (t.isAble host world = true ∧ answer.1 = ((s.noting t id world).saveAnd report).1 ∧
        answer.2.1 = (s.noting t id world).save.2) := by
  have hcases := execute_cases host hget world
  rw [runNow, Fields.has, hget]
  dsimp only [Option.isSome_some, if_true]
  -- of what the run answers only a fault is looked at
  generalize execute host id (s, world) = result at hcases ⊢
  obtain ⟨outcome, s', world'⟩ := result
  obtain ⟨-, ⟨hunable, hresult, hsame⟩ | ⟨hable, hresult, hnoted⟩⟩ := hcases
  · refine .inl ⟨hunable, ?_, hsame⟩
    obtain rfl : .ok false = outcome := hresult.symm
    rfl
  · refine .inr ⟨hable, ?_, hnoted⟩
    obtain rfl : (s.noting t id world).save.1.map (fun _ => true) = outcome := hresult.symm
    rw [saveAnd]
    dsimp only
    cases (s.noting t id world).save.1 with
    | ok _ => rfl
    | error fault => rfl

section

variable {host : TaskHost} {world : World}

theorem comesToEnd_of_get? (hget : s.tasks.get? id = some t) : comesToEnd host id s world = t.isAble host world := by
  rw [comesToEnd, hget]
  rfl

/-- A run that comes to its end is noted, -/
theorem runNow_of_end (hget : s.tasks.get? id = some t) (hends : comesToEnd host id s world = true) :
    (runNow host id (s, world)).1 = ((s.noting t id world).saveAnd (.done "已执行" [])).1 ∧
      (runNow host id (s, world)).2.1 = (s.noting t id world).save.2 := by
  rw [comesToEnd_of_get? hget] at hends
  obtain ⟨hunable, -, -⟩ | ⟨-, hnoted⟩ := runNow_cases hget host world
  · rw [hends] at hunable
    cases hunable
  · exact hnoted

/-- and another one changes nothing, -/
theorem runNow_of_no_end (hends : comesToEnd host id s world = false) : (runNow host id (s, world)).2.1 = s := by
  cases hget : s.tasks.get? id with
  | none => rw [runNow_of_missing hget]
  | some t =>
      rw [comesToEnd_of_get? hget] at hends
      obtain ⟨-, -, hsame⟩ | ⟨hable, -⟩ := runNow_cases hget host world
      · exact hsame
      · rw [hends] at hable
        cases hable

/-- with the same report. -/
theorem report_of_no_end (hget : s.tasks.get? id = some t) (hends : comesToEnd host id s world = false) :
    (runNow host id (s, world)).1 = .ok (.done "已执行" []) := by
  rw [comesToEnd_of_get? hget] at hends
  obtain ⟨-, hreport, -⟩ | ⟨hable, -⟩ := runNow_cases hget host world
  · exact hreport
  · rw [hends] at hable
    cases hable

/-- Behind a run the task is the one with the run noted exactly if the run came to its end. -/
theorem get?_runNow_iff (hget : s.tasks.get? id = some t) :
    (runNow host id (s, world)).2.1.tasks.get? id = some (t.noted world.clock) ↔ comesToEnd host id s world = true := by
  cases hends : comesToEnd host id s world with
  | true =>
      rw [(runNow_of_end hget hends).2, save_tasks, noting, Fields.get?_set, if_pos rfl]
      exact ⟨fun _ => rfl, fun _ => rfl⟩
  | false =>
      rw [runNow_of_no_end hends, hget]
      refine ⟨fun h => ?_, fun h => absurd h Bool.false_ne_true⟩
      -- a run that is noted is counted
      have hcount : t.runCount = t.runCount + 1 := congrArg Task.runCount (Option.some.inj h)
      omega

theorem runNow_done_iff :
    (runNow host id (s, world)).1.map (·.success) = .ok true ↔ (s.tasks.get? id).isSome = true ∧
      (comesToEnd host id s world = true →
        s.file.blocked = true ∨ (runNow host id (s, world)).2.1.document.isEncodable = true) := by
  cases hget : s.tasks.get? id with
  | none =>
      rw [runNow_of_missing hget]
      exact ⟨fun h => absurd h missing_not_done, fun h => absurd h.1 Bool.false_ne_true⟩
  | some t =>
      cases hends : comesToEnd host id s world with
      | true =>
          obtain ⟨hreport, hnoted⟩ := runNow_of_end hget hends
          rw [hreport, hnoted, document_save]
          refine (saveAnd_done_iff rfl).trans (savable_iff.trans ?_)
          exact ⟨fun h => ⟨rfl, fun _ => h⟩, fun h => h.2 rfl⟩
      | false =>
          rw [report_of_no_end hget hends]
          exact ⟨fun _ => ⟨rfl, fun h => absurd h Bool.false_ne_true⟩, fun _ => rfl⟩

theorem runNow_failed_iff :
    (runNow host id (s, world)).1.map (·.success) = .ok false ↔ s.tasks.get? id = none := by
  cases hget : s.tasks.get? id with
  | none =>
      rw [runNow_of_missing hget]
      exact ⟨fun _ => rfl, fun _ => rfl⟩
  | some t =>
      refine ⟨fun h => ?_, fun h => absurd h (Option.some_ne_none t)⟩
      cases hends : comesToEnd host id s world with
      | true =>
          rw [(runNow_of_end hget hends).1] at h
          exact absurd h (saveAnd_not_failed rfl)
      | false =>
          rw [report_of_no_end hget hends] at h
          cases h

end

/-- A run by hand that comes to its end is noted, with the time at which it was started. Nothing else changes the
scheduler. It is reported as done exactly if the task is there and noting it ends in no fault; as not done exactly if
it is not there, and then nothing is changed at all. -/
theorem runNow_reports (host : TaskHost) (id : Text) (s : Scheduler) (world : World) :
    let answer := runNow host id (s, world)
    let success := answer.1.map (·.success)
    (∀ t, s.tasks.get? id = some t → comesToEnd host id s world = true →
        answer.2.1 = ({ s with tasks := s.tasks.set id (t.noted world.clock) }).save.2) ∧
      (comesToEnd host id s world = false → answer.2.1 = s) ∧
      (∀ t, s.tasks.get? id = some t →
        (answer.2.1.tasks.get? id = some (t.noted world.clock) ↔ comesToEnd host id s world = true)) ∧
      (success = .ok true ↔ (s.tasks.get? id).isSome = true ∧ (comesToEnd host id s world = true →
        s.file.blocked = true ∨ answer.2.1.document.isEncodable = true)) ∧
      (success = .ok false ↔ s.tasks.get? id = none) ∧ (success = .ok false → answer.2 = (s, world)) := by
  refine ⟨?_, runNow_of_no_end, fun t hget => get?_runNow_iff hget, runNow_done_iff, runNow_failed_iff, ?_⟩
  · exact fun t hget hends => (runNow_of_end hget hends).2
  · intro hfailed
    show (runNow host id (s, world)).2 = _
    rw [runNow_of_missing (runNow_failed_iff.mp hfailed)]

/-- A task whose workflow is not there, one whose workflow is disabled, and one whose workflow comes back to a node:
each is reported as run, and nothing is changed. -/
theorem done_without_run :
    let s := ((ofFile .absent).add (sampleTask "a" "08:00").toValue).2
    let workflows := [none, some { Runner.sampleFork with enabled := false }, some Runner.sampleLoop]
    ∀ w ∈ workflows,
      let host : TaskHost := { sampleHost with workflow := fun _ => w }
      let answer := runNow host "a" (s, Runner.sampleWorld)
      comesToEnd host "a" s Runner.sampleWorld = false ∧ answer.1.map (·.success) = .ok true ∧
        answer.2.1.tasks.get? "a" = s.tasks.get? "a" ∧ answer.2.1.file = s.file := by
  decide +kernel

end Scheduler

end ChatFlow
