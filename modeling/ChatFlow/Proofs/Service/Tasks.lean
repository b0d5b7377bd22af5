import ChatFlow.Proofs.Service.Arrivals
import ChatFlow.Proofs.Service.Trials

/-!
# Tasks are the master's

A service with a password lets nobody else change its tasks or run one. What everybody may do never reads the
scheduler, so it is done in the same way whichever tasks there are, or if there are none.

* `Service.withTasks`: the service with another scheduler.
* `Service.answer_withTasks`: what a request without the password does is what it does with any other tasks.
* `Service.past_withTasks`: so is what any number of requests do.
-/

namespace ChatFlow.Service

variable {s : Service} {r : Request}

/-- The service with another scheduler. -/
def withTasks (s : Service) (tasks : Scheduler) : Service := { s with scheduler := tasks }

@[simp]
theorem withTasks_self (s : Service) : s.withTasks s.scheduler = s := rfl

@[simp]
theorem withTasks_scheduler (s : Service) (tasks : Scheduler) : (s.withTasks tasks).scheduler = tasks := rfl

/-! ## What everybody may do -/

/-- A post of the chat program is taken in whichever tasks there are. -/
theorem receive_withTasks (s : Service) (tasks : Scheduler) (post : Value) :
    (s.withTasks tasks).receive post = ((s.receive post).1, (s.receive post).2.withTasks tasks) := by
  unfold receive
  rcases Event.ofPost? post with fault | _ | e
  · rfl
  · rfl
  · rfl

/-- What a body comes to is so whichever tasks there are, if what it asks for is. -/
theorem withBody_withTasks {α : Type} (form : Value → Check α) (answer : Service → α → Answer) (tasks : Scheduler)
    (h : ∀ a, (answer (s.withTasks tasks) a).2 = (answer s a).2.withTasks tasks) :
    ((s.withTasks tasks).withBody r form (answer (s.withTasks tasks))).2 =
      (s.withBody r form (answer s)).2.withTasks tasks := by
  unfold withBody
  rcases Encoding.documentText? r.body with _ | t
  · rfl
  · dsimp only
    rcases (Json.read? t).bind fun v => (form v).toOption with _ | a
    · rfl
    · simp only [respond_snd]
      exact h a

/-- A workflow is taken in, or refused, whichever tasks there are. -/
theorem saveWorkflow_withTasks (s : Service) (r : Request) (tasks : Scheduler) (fs : Fields Value) :
    ((s.withTasks tasks).saveWorkflow r fs).2 = (s.saveWorkflow r fs).2.withTasks tasks := by
  have hdenied : ∀ inBody, (s.withTasks tasks).isDenied r inBody = s.isDenied r inBody := fun inBody => rfl
  unfold saveWorkflow
  rcases needsMaster (.object fs) with fault | needed
  · rfl
  · dsimp only
    rw [hdenied]
    split
    · rfl
    · rfl

/-- A workflow is deleted or switched whichever tasks there are. -/
theorem changeWorkflow_withTasks (s : Service) (tasks : Scheduler) (id message : Text)
    (change : Catalog → Text → Except Fault Bool × Catalog) :
    ((s.withTasks tasks).changeWorkflow id message change).2 =
      (s.changeWorkflow id message change).2.withTasks tasks := by
  unfold changeWorkflow
  split
  · rfl
  · rfl

/-! ## What only the master may do -/

/-- Nobody else adds a task. -/
theorem addTask_denied {fs : Fields Value} (hmaster : s.master ≠ []) (hunknown : ¬ r.Supplies s.master)
    (hdocument : r.document? = some (.object fs)) : (s.addTask r fs).2 = s := by
  rw [addTask, if_pos (isDenied_of_document hmaster hunknown hdocument)]

/-- The route for new tasks leaves the service as it is. -/
theorem withBody_addTask (hmaster : s.master ≠ []) (hunknown : ¬ r.Supplies s.master) :
    (s.withBody r Check.object (s.addTask r)).2 = s := by
  apply withBody_snd
  intro v fs hdocument hform
  cases v with
  | object fields =>
      cases hform
      exact addTask_denied hmaster hunknown hdocument
  | _ => cases hform

/-- Nobody else does anything with a task. -/
theorem onTask_denied {v : Value} {n : Named} (hmaster : s.master ≠ []) (hunknown : ¬ r.Supplies s.master)
    (hdocument : r.document? = some v) (hform : Named.check v = .accepted n)
    (change : Text → Except Fault Report × Service) : (s.onTask r n change).2 = s := by
  rw [onTask, if_pos (isDenied_of_named hmaster hunknown hdocument hform)]

/-- A route for tasks leaves the service as it is. -/
theorem withBody_onTask (hmaster : s.master ≠ []) (hunknown : ¬ r.Supplies s.master)
    (change : Text → Except Fault Report × Service) :
    (s.withBody r Named.check fun n => s.onTask r n change).2 = s := by
  apply withBody_snd
  intro v n hdocument hform
  exact onTask_denied hmaster hunknown hdocument hform change

/-! ## Requests -/

/-- What a request to a route does without the password is what it does with any other tasks. -/
theorem answerRoute_withTasks (hmaster : s.master ≠ []) (hunknown : ¬ r.Supplies s.master) (tasks : Scheduler)
    (route : Route) :
    ((s.withTasks tasks).answerRoute r route).2 = (s.answerRoute r route).2.withTasks tasks := by
  -- a guarded route does nothing, neither with these tasks nor with those
  have hguarded : ∀ {x y : Response × Service}, x.2 = s.withTasks tasks → y.2 = s → x.2 = y.2.withTasks tasks := by
    intro x y hx hy
    rw [hx, hy]
  have htask : ∀ change change', ((s.withTasks tasks).withBody r Named.check fun n =>
      (s.withTasks tasks).onTask r n change).2 =
        (s.withBody r Named.check fun n => s.onTask r n change').2.withTasks tasks := by
    intro change change'
    exact hguarded (withBody_onTask (s := s.withTasks tasks) hmaster hunknown change)
      (withBody_onTask hmaster hunknown change')
  cases route with
  | health => rfl
  | config => rfl
  | tasks => rfl
  | workflows => rfl
  | event =>
      apply withBody_withTasks Check.object fun s fs => s.answerEvent (.object fs)
      intro fs
      simp only [answerEvent, receive_withTasks]
  | verifyMaster => exact withBody_withTasks _ (fun s password => (.ok (s.verify password), s)) _ fun _ => rfl
  | saveWorkflow =>
      exact withBody_withTasks _ (fun s => s.saveWorkflow r) _ (saveWorkflow_withTasks s r tasks)
  | deleteWorkflow =>
      apply withBody_withTasks Named.check fun s n => s.changeWorkflow n.id "已删除" Catalog.delete
      intro n
      exact changeWorkflow_withTasks ..
  | toggleWorkflow =>
      apply withBody_withTasks Named.check fun s n => s.changeWorkflow n.id "状态已更新" Catalog.toggle
      intro n
      exact changeWorkflow_withTasks ..
  | trial => exact withBody_withTasks _ (fun s => s.tryRequest) _ fun _ => rfl
  | addTask =>
      exact hguarded (withBody_addTask (s := s.withTasks tasks) hmaster hunknown) (withBody_addTask hmaster hunknown)
  | deleteTask => exact htask _ _
  | toggleTask => exact htask _ _
  | runTask => exact htask _ _

/-- What a request does without the password is what it does with any other tasks. -/
theorem answer_withTasks (hmaster : s.master ≠ []) (hunknown : ¬ r.Supplies s.master) (tasks : Scheduler) :
    ((s.withTasks tasks).answer r).2 = (s.answer r).2.withTasks tasks := by
  unfold answer
  rcases Fields.get? Route.paths r.path with _ | route
  · rfl
  · dsimp only
    split
    · exact answerRoute_withTasks hmaster hunknown tasks route
    · rfl

/-! ## Any number of requests -/

/-- Requests without the password change no task and no file of tasks. They also run no task: all that they do they
would do with any other tasks, and so with none. -/
theorem past_withTasks (s : Service) (arrivals : List Arrival) (hmaster : s.master ≠ [])
    (hunknown : ∀ a ∈ arrivals, ¬ a.request.Supplies s.master) :
    (past arrivals s).scheduler = s.scheduler ∧
      ∀ tasks, past arrivals (s.withTasks tasks) = (past arrivals s).withTasks tasks := by
  have hrun : ∀ tasks, past arrivals (s.withTasks tasks) = (past arrivals s).withTasks tasks := by
    intro tasks
    induction arrivals generalizing s with
    | nil => rfl
    | cons a arrivals ih =>
        -- the password stays the same, so that none of the later requests supplies it either
        have hkept : (a.answer s).2.master = s.master := (answer_footprint (a.before s) a.request).master
        have hfirst : (a.answer (s.withTasks tasks)).2 = (a.answer s).2.withTasks tasks :=
          answer_withTasks (s := a.before s) hmaster (hunknown a List.mem_cons_self) tasks
        rw [past, past, hfirst]
        apply ih
        · rw [hkept]
          exact hmaster
        · intro b hb
          rw [hkept]
          exact hunknown b (List.mem_cons_of_mem a hb)
  refine ⟨?_, hrun⟩
  have hsame : past arrivals s = (past arrivals s).withTasks s.scheduler := hrun s.scheduler
  rw [hsame, withTasks_scheduler]

/-! ## Samples -/

/-- A task that sends to a user every minute. -/
def guardedTask : Task :=
  ⟨"t", "w", .interval, none, some 60, none, none, .single, "u1", none, true, none, 0, []⟩

/-- A service with a password and a task. -/
def guardedService : Service :=
  { sampleService with master := "secret", scheduler := ⟨.absent, [("t", guardedTask)], []⟩ }

/-- Somebody guesses the password, sends a task, and then asks for a task to be run as if there were no password. -/
def intrusion : List Arrival :=
  [⟨.post "/api/scheduled/delete" [("master_password", "Secret")] (.object [("id", .text "t")]), id, .zero⟩,
    ⟨.post "/api/scheduled/add" [] guardedTask.toValue, id, .zero⟩,
    ⟨.post "/api/scheduled/run" [] (.object [("id", .text "t"), ("master_password", .text [])]), id, .zero⟩]

theorem past_withTasks_of_intrusion :
    (past intrusion guardedService).scheduler = guardedService.scheduler ∧
      ∀ tasks, past intrusion (guardedService.withTasks tasks) = (past intrusion guardedService).withTasks tasks := by
  have hunknown : ∀ a ∈ intrusion, ¬ a.request.Supplies guardedService.master := by
    decide +kernel
  exact past_withTasks guardedService intrusion (by decide) hunknown

end ChatFlow.Service
