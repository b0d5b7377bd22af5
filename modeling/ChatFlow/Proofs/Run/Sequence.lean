import ChatFlow.Proofs.Run.Traversal

/-!
# Workflows one after the other

A message runs the workflows that are switched on, each in the surroundings that the ones before it left,
up to the first that lets no later one run. A run that ends as a whole is noted, and the next workflow
is tried.

* `Runner.Passes`, `Runner.Stops`: what becomes of one workflow.
* `Runner.executeAll_eq_true_iff`, `Runner.executeAll_eq_false_iff`: what becomes of all of them.
* `Runner.handle_enabled`: what becomes of a message that is not blank.
-/

namespace ChatFlow.Runner

variable {r : Runner} {m : Message} {w : Workflow} {ws before after : List Workflow}
  {world world₁ world' : World}

/-! ## One workflow -/

/-- A workflow is passed, and later ones may run in the surroundings that it leaves: it is switched off,
it is not set off, its run ends as a whole, or its run returns and lets later ones run. -/
inductive Passes (r : Runner) (m : Message) : World → Workflow → World → Prop where
  | disabled {world : World} {w : Workflow} (h : w.enabled = false) : Passes r m world w world
  | unmatched {world : World} {w : Workflow} (h : w.enabled = true)
      (hrun : r.execute w m world = (.ok none, world)) : Passes r m world w world
  | broken {world world' : World} {w : Workflow} {fault : RunFault} (h : w.enabled = true)
      (hrun : r.execute w m world = (.error fault, world')) :
      Passes r m world w (world'.log (r.brokenLine w fault))
  | completed {world world' : World} {w : Workflow} {context : Context} (h : w.enabled = true)
      (hopen : w.stopPropagation = false) (hrun : r.execute w m world = (.ok (some context), world')) :
      Passes r m world w world'

/-- A workflow lets no later one run: it is switched on and meant to, a message sets it off, and its run
returns. -/
def Stops (r : Runner) (m : Message) (world : World) (w : Workflow) (world' : World) : Prop :=
  w.enabled = true ∧ w.stopPropagation = true ∧
    ∃ context, r.execute w m world = (.ok (some context), world')

/-- A workflow that is not set off changes nothing. -/
theorem world_of_unmatched (h : r.execute w m world = (.ok none, world')) : world' = world := by
  rcases hfirst : Trigger.first? m.content w.triggers with fault | _ | ⟨trigger, captures⟩
  · rw [execute, hfirst] at h
    cases h
  · rw [execute, hfirst] at h
    cases h
    rfl
  · rw [execute_of_match hfirst] at h
    rcases hwalk : w.walkFrom (r.visit w m) trigger.id (r.opening w m world trigger captures) with
      ⟨result, s⟩
    rw [hwalk] at h
    cases result with
    | ok _ => cases h
    | error _ => cases h

/-- A workflow is passed or lets no later one run, whatever its run comes to. -/
theorem passes_or_stops (r : Runner) (m : Message) (w : Workflow) (world : World) :
    (∃ world', r.Passes m world w world') ∨ ∃ world', r.Stops m world w world' := by
  cases henabled : w.enabled with
  | false => exact .inl ⟨world, .disabled henabled⟩
  | true =>
      rcases hrun : r.execute w m world with ⟨fault | _ | context, world'⟩
      · exact .inl ⟨_, .broken henabled hrun⟩
      · obtain rfl := world_of_unmatched hrun
        exact .inl ⟨_, .unmatched henabled hrun⟩
      · cases hstop : w.stopPropagation with
        | false => exact .inl ⟨_, .completed henabled hstop hrun⟩
        | true => exact .inr ⟨_, henabled, hstop, context, hrun⟩

theorem executeAll_of_passes (h : r.Passes m world w world₁) :
    r.executeAll m (w :: ws) world = r.executeAll m ws world₁ := by
  cases h with
  | disabled h => simp [executeAll, h]
  | unmatched h hrun => simp [executeAll, h, hrun]
  | broken h hrun => simp [executeAll, h, hrun]
  | completed h hopen hrun => simp [executeAll, h, hopen, hrun]

theorem executeAll_of_stops (h : r.Stops m world w world') :
    r.executeAll m (w :: ws) world = (true, world') := by
  obtain ⟨henabled, hstop, context, hrun⟩ := h
  simp [executeAll, henabled, hstop, hrun]

/-- Workflows run one by one, each in the surroundings that the ones before it have left. -/
theorem executeAll_cons (r : Runner) (m : Message) (w : Workflow) (ws : List Workflow) (world : World) :
    r.executeAll m (w :: ws) world =
      match r.executeAll m [w] world with
      | (true, world) => (true, world)
      | (false, world) => r.executeAll m ws world := by
  rcases passes_or_stops r m w world with ⟨world₁, hpasses⟩ | ⟨world₁, hstops⟩
  · rw [executeAll_of_passes hpasses, executeAll_of_passes hpasses]
    rfl
  · rw [executeAll_of_stops hstops, executeAll_of_stops hstops]

/-! ## All of them -/

/-- Workflows are passed one after the other. -/
inductive PassesAll (r : Runner) (m : Message) : World → List Workflow → World → Prop where
  | nil (world : World) : PassesAll r m world [] world
  | cons {world world₁ world' : World} {w : Workflow} {ws : List Workflow}
      (head : r.Passes m world w world₁) (tail : PassesAll r m world₁ ws world') :
      PassesAll r m world (w :: ws) world'

theorem executeAll_of_passesAll (h : r.PassesAll m world before world₁) :
    r.executeAll m (before ++ after) world = r.executeAll m after world₁ := by
  induction h with
  | nil world => rfl
  | cons head _ ih => rw [List.cons_append, executeAll_of_passes head, ih]

/-- No workflow has let no later one run exactly if all are passed. -/
theorem executeAll_eq_false_iff :
    r.executeAll m ws world = (false, world') ↔ r.PassesAll m world ws world' := by
  constructor
  · intro h
    -- the surroundings are those that the workflows before this one have left
    induction ws generalizing world with
    | nil =>
        cases h
        exact .nil _
    | cons w ws ih =>
        rcases passes_or_stops r m w world with ⟨world₁, hpasses⟩ | ⟨world₁, hstops⟩
        · rw [executeAll_of_passes hpasses] at h
          exact .cons hpasses (ih h)
        · rw [executeAll_of_stops hstops] at h
          cases h
  · intro h
    have hall : r.executeAll m (ws ++ []) world = r.executeAll m [] world' := executeAll_of_passesAll h
    rwa [List.append_nil] at hall

/-- A workflow has let no later one run exactly if all before it are passed. What it leaves is left. -/
theorem executeAll_eq_true_iff :
    r.executeAll m ws world = (true, world') ↔
      ∃ before w after world₁, ws = before ++ w :: after ∧
        r.PassesAll m world before world₁ ∧ r.Stops m world₁ w world' := by
  constructor
  · intro h
    induction ws generalizing world with
    | nil => cases h
    | cons w ws ih =>
        rcases passes_or_stops r m w world with ⟨world₁, hpasses⟩ | ⟨world₁, hstops⟩
        · rw [executeAll_of_passes hpasses] at h
          obtain ⟨before, v, after, world₂, rfl, hbefore, hstops⟩ := ih h
          exact ⟨w :: before, v, after, world₂, rfl, .cons hpasses hbefore, hstops⟩
        · rw [executeAll_of_stops hstops] at h
          cases h
          exact ⟨[], w, ws, world, rfl, .nil world, hstops⟩
  · rintro ⟨before, w, after, world₁, rfl, hbefore, hstops⟩
    rw [executeAll_of_passesAll hbefore, executeAll_of_stops hstops]

/-! ## Messages -/

theorem handle_of_content {e : Event} (hcontent : e.raw.trim ≠ []) :
    r.handle true ws e world = r.executeAll ⟨e, e.raw.trim⟩ ws world := by
  simp [handle, hcontent]

/-- A message that is not blank is handled to the end, whatever single runs come to. The answer is yes
exactly if a workflow lets no later one run while all before it are passed, and what it leaves is then
left as a whole; it is no exactly if all are passed. -/
theorem handle_enabled {e : Event} (hcontent : e.raw.trim ≠ []) :
    (∀ world', r.handle true ws e world = (true, world') ↔
      ∃ before w after world₁, ws = before ++ w :: after ∧
        r.PassesAll ⟨e, e.raw.trim⟩ world before world₁ ∧ r.Stops ⟨e, e.raw.trim⟩ world₁ w world') ∧
    (∀ world', r.handle true ws e world = (false, world') ↔
      r.PassesAll ⟨e, e.raw.trim⟩ world ws world') := by
  rw [handle_of_content hcontent]
  exact ⟨fun _ => executeAll_eq_true_iff, fun _ => executeAll_eq_false_iff⟩

/-- A message with blanks around the word that sets off `sampleTrigger`. -/
def sampleEvent : Event := { sampleMessage.event with raw := " go " }

/-- A workflow whose run ends as a whole, although it is meant to let no later one run. -/
def sampleBroken : Workflow := { sampleLoop with stopPropagation := true }

/-- A workflow that lets no later one run. -/
def sampleStopping : Workflow := { sampleDiamond with stopPropagation := true }

/-- The first workflow is passed, the second one lets no later one run, and the third one does not run. -/
theorem handle_enabled_of_broken :
    ∃ world₁ world', sampleRunner.PassesAll ⟨sampleEvent, "go"⟩ sampleWorld [sampleBroken] world₁ ∧
      sampleRunner.Stops ⟨sampleEvent, "go"⟩ world₁ sampleStopping world' ∧
      sampleRunner.handle true [sampleBroken, sampleStopping, sampleFork] sampleEvent sampleWorld =
        (true, world') := by
  have hcontent : sampleEvent.raw.trim ≠ [] := by decide
  obtain ⟨world₁, hbroken⟩ : ∃ world₁,
      sampleRunner.Passes ⟨sampleEvent, "go"⟩ sampleWorld sampleBroken world₁ := ⟨_, .broken rfl rfl⟩
  obtain ⟨world', hstops⟩ : ∃ world',
      sampleRunner.Stops ⟨sampleEvent, "go"⟩ world₁ sampleStopping world' := ⟨_, rfl, rfl, _, rfl⟩
  refine ⟨world₁, world', .cons hbroken (.nil world₁), hstops, ?_⟩
  exact ((handle_enabled hcontent).1 world').mpr
    ⟨[sampleBroken], sampleStopping, [sampleFork], world₁, rfl, .cons hbroken (.nil world₁), hstops⟩

end ChatFlow.Runner
