import ChatFlow.Proofs.Run.Sequence

/-!
# Calls that are refused

What an outlet refuses is not noticed by a run. Here are two runs side by side: in the one, calls of some
names are refused once they have been recorded, and in the other they return nothing. Calls by name are the
only ones that return anything else, so it is enough to take their results away.

* `World.muted`: surroundings in which calls of some names return nothing.
* `Runner.calls_muted`: single calls do alike.
* `Runner.runs_of_refusals`: so do runs of all kinds.
-/

namespace ChatFlow

open Act

/-- The surroundings in which calls of the given names return nothing. -/
def World.muted (names : List Text) (w : World) : World :=
  { w with returns := if names.contains "call_api" then [] else w.returns }

/-- The scene in such surroundings. -/
def Scene.muted (names : List Text) (s : Scene) : Scene := { s with world := s.world.muted names }

namespace Runner

variable {names : List Text} {target : Option Target} {world : World}

/-! ## Scenes side by side -/

/-- The second scene is the first one, but that calls of the given names return nothing. -/
def Mutes (names : List Text) (s t : Scene) : Prop := s.muted names = t

theorem bond_mutes : Bond (Mutes names) where
  surroundings := by
    rintro s _ rfl
    rfl
  captures := by
    rintro s _ rfl
    rfl
  vars := by
    rintro s _ rfl
    rfl
  setSurroundings := by
    rintro s _ w rfl - - hreturns
    simp only [Mutes, Scene.muted, World.muted, hreturns]
  setVar := by
    rintro s _ _ _ rfl
    rfl

/-! ## Single calls -/

theorem perform_refused {c : Call} (h : names.contains c.name = true) (world : World) :
    Outlet.perform (.recorder names target) c world = (.error .refused, world.act (.asked c target)) := by
  simp only [Outlet.perform, h, if_true]

theorem perform_accepted {c : Call} (h : names.contains c.name = false) (world : World) :
    Outlet.perform (.recorder names target) c world = Outlet.perform (.recorder [] target) c world := by
  simp only [Outlet.perform, h, List.contains_nil, Bool.false_eq_true, if_false]

/-- A call that nothing is returned to is only recorded. -/
theorem perform_null (target : Option Target) {c : Call} (h : c.name = "call_api" → world.returns = []) :
    Outlet.perform (.recorder [] target) c world = (.ok .null, world.act (.asked c target)) := by
  cases c with
  | callApi action params =>
      simp only [Outlet.perform, List.contains_nil, Bool.false_eq_true, if_false, World.act, h rfl]
  | _ => rfl

/-- A call that is accepted finds the same returns, whichever other calls are refused. -/
theorem perform_muted (target : Option Target) {c : Call} (h : names.contains c.name = false)
    (world : World) :
    Outlet.perform (.recorder [] target) c (world.muted names) =
      ((Outlet.perform (.recorder [] target) c world).1,
        (Outlet.perform (.recorder [] target) c world).2.muted names) := by
  cases c with
  | callApi action params =>
      have hkept : ∀ w : World, w.muted names = w := by
        intro w
        have hname : names.contains "call_api" = false := h
        simp only [World.muted, hname, Bool.false_eq_true, if_false]
      rw [hkept, hkept]
  | _ => rfl

/-- A call that is refused comes to what a call that returns nothing comes to. -/
theorem calls_muted (names : List Text) (target : Option Target) :
    Calls (Mutes names) (.recorder names target) (.recorder [] target) := by
  rintro c s _ rfl
  rw [run_ask, run_ask]
  cases hname : names.contains c.name with
  | false =>
      have hsame := perform_muted target hname s.world
      rw [perform_accepted hname]
      simp only [Scene.muted, hsame]
      exact ⟨trivial, rfl⟩
  | true =>
      -- only calls by name return anything, and if they are refused, the returns are taken away
      have hnull : c.name = "call_api" → (s.world.muted names).returns = [] := by
        intro hapi
        rw [hapi] at hname
        simp only [World.muted, hname, if_true]
      have hreturns := perform_null target hnull
      rw [perform_refused hname]
      simp only [Scene.muted, hreturns]
      exact ⟨rfl, rfl⟩

/-! ## Runs -/

/-- The runner with an outlet that records calls and refuses those of the given names. -/
def refusing (r : Runner) (target : Option Target) (names : List Text) : Runner :=
  { r with outlet := .recorder names target }

/-- Visits do alike whether calls are refused or return nothing. -/
theorem matches_muted (r : Runner) (target : Option Target) (names : List Text) (w : Workflow) :
    Matches (Mutes names) w (r.refusing target names) (r.refusing target []) where
  bond := bond_mutes
  anyStore := by
    rintro s _ store rfl
    rfl
  calls := calls_muted names target
  handled := rfl
  executed := by
    rintro s _ n rfl
    rfl
  failed := by
    rintro s _ n rfl
    rfl

theorem walkFrom_muted (r : Runner) (target : Option Target) (names : List Text) (w : Workflow)
    (m : Message) (start : Text) (s : Scene) :
    w.walkFrom ((r.refusing target []).visit w m) start (s.muted names) =
      Prod.map id (Scene.muted names) (w.walkFrom ((r.refusing target names).visit w m) start s) := by
  have hscenes : Mutes names s (s.muted names) := rfl
  obtain ⟨hresult, hscene⟩ := (r.matches_muted target names w).walk m Workflow.maxDepth [] start hscenes
  exact Prod.ext hresult hscene.symm

theorem walksBehind_muted (r : Runner) (target : Option Target) (names : List Text) (w : Workflow)
    (m : Message) (triggers : List Node) (s : Scene) :
    Step.all (fun trigger => w.walkBehind ((r.refusing target []).visit w m) trigger.id) triggers
        (s.muted names) =
      Prod.map id (Scene.muted names)
        (Step.all (fun trigger => w.walkBehind ((r.refusing target names).visit w m) trigger.id)
          triggers s) := by
  have hscenes : Mutes names s (s.muted names) := rfl
  have hwalk : ∀ (trigger : Node) s t, Mutes names s t → _ := fun trigger s t hst =>
    (r.matches_muted target names w).walkBehind m trigger.id hst
  obtain ⟨hresult, hscene⟩ := Step.all_sim (K := fun _ => True) (fun _ _ _ => trivial)
    (fun trigger s t hst _ => hwalk trigger s t hst) triggers hscenes trivial
  exact Prod.ext hresult hscene.symm

/-- What is left of a walk does not depend on what calls by name would still return. -/
theorem finish_muted (names : List Text) (w : Workflow) (walk : Except WalkFault Unit × Scene) :
    finish w (Prod.map id (Scene.muted names) walk) = Prod.map id (World.muted names) (finish w walk) := by
  rcases walk with ⟨_ | _, s⟩
  · rfl
  · rfl

theorem traversal_muted (r : Runner) (target : Option Target) (names : List Text) (w : Workflow)
    (m : Message) (world : World) :
    (r.refusing target []).traversal? w m (world.muted names) =
      ((r.refusing target names).traversal? w m world).map (Prod.map id (Scene.muted names)) := by
  rcases hfirst : Trigger.first? m.content w.triggers with fault | _ | ⟨trigger, captures⟩
  · simp only [traversal?, hfirst, Option.map_none]
  · simp only [traversal?, hfirst, Option.map_none]
  · have hwalk := r.walkFrom_muted target names w m trigger.id
      ((r.refusing target names).opening w m world trigger captures)
    simp only [traversal?, hfirst, Option.map_some]
    exact congrArg some hwalk

theorem execute_muted (r : Runner) (target : Option Target) (names : List Text) (w : Workflow)
    (m : Message) (world : World) :
    (r.refusing target []).execute w m (world.muted names) =
      Prod.map id (World.muted names) ((r.refusing target names).execute w m world) := by
  rcases hfirst : Trigger.first? m.content w.triggers with fault | _ | ⟨trigger, captures⟩
  · simp only [execute, hfirst, Prod.map_apply, id]
  · simp only [execute, hfirst, Prod.map_apply, id]
  · have hwalk := r.walkFrom_muted target names w m trigger.id
      ((r.refusing target names).opening w m world trigger captures)
    have hfinish := (congrArg (finish w) hwalk).trans (finish_muted names w _)
    rw [execute_of_match hfirst, execute_of_match hfirst]
    exact congrArg (Prod.map (Except.map some) id) hfinish

theorem executeScheduled_muted (r : Runner) (target : Option Target) (names : List Text) (w : Workflow)
    (e : Event) (world : World) :
    (r.refusing target []).executeScheduled w e (world.muted names) =
      Prod.map id (World.muted names) ((r.refusing target names).executeScheduled w e world) := by
  have hwalks := r.walksBehind_muted target names w ⟨e, []⟩ w.triggers ⟨world, .start []⟩
  exact (congrArg (finish w) hwalks).trans (finish_muted names w _)

theorem executeAll_muted (r : Runner) (target : Option Target) (names : List Text) (m : Message)
    (ws : List Workflow) (world : World) :
    (r.refusing target []).executeAll m ws (world.muted names) =
      Prod.map id (World.muted names) ((r.refusing target names).executeAll m ws world) := by
  induction ws generalizing world with
  | nil => rfl
  | cons w ws ih =>
      -- the first run ends alike, so the others begin in surroundings that differ in the returns only
      have hrun := r.execute_muted target names w m world
      cases henabled : w.enabled with
      | false =>
          simp only [executeAll, henabled, Bool.false_eq_true, if_false]
          exact ih world
      | true =>
          rcases hrefusing : (r.refusing target names).execute w m world with
            ⟨fault | _ | context, world₁⟩
          · rw [hrefusing] at hrun
            simp only [executeAll, henabled, hrun, hrefusing, Prod.map_apply, id, if_true]
            exact ih (world₁.log (r.brokenLine w fault))
          · rw [hrefusing] at hrun
            simp only [executeAll, henabled, hrun, hrefusing, Prod.map_apply, id, if_true]
            exact ih world₁
          · rw [hrefusing] at hrun
            simp only [executeAll, henabled, hrun, hrefusing, Prod.map_apply, id, if_true]
            cases hstop : w.stopPropagation with
            | false => exact ih world₁
            | true => rfl

theorem handle_muted (r : Runner) (target : Option Target) (names : List Text) (enabled : Bool)
    (ws : List Workflow) (e : Event) (world : World) :
    (r.refusing target []).handle enabled ws e (world.muted names) =
      Prod.map id (World.muted names) ((r.refusing target names).handle enabled ws e world) := by
  cases hquiet : !enabled || e.raw.trim.isEmpty with
  | true => simp only [handle, hquiet, if_true, Prod.map_apply, id]
  | false =>
      simp only [handle, hquiet, Bool.false_eq_true, if_false]
      exact r.executeAll_muted target names ⟨e, e.raw.trim⟩ ws world

/-- Whatever sets off runs, and whichever calls are refused once they are recorded: the runs do what they
do if these calls return nothing. They end alike, with the same record of what was done, the same journal,
the same store, and the same variables and notes. -/
theorem runs_of_refusals (r : Runner) (target : Option Target) (names : List Text) (world : World) :
    (∀ w m, (r.refusing target []).execute w m (world.muted names) =
      Prod.map id (World.muted names) ((r.refusing target names).execute w m world)) ∧
    (∀ w m, (r.refusing target []).traversal? w m (world.muted names) =
      ((r.refusing target names).traversal? w m world).map (Prod.map id (Scene.muted names))) ∧
    (∀ w e, (r.refusing target []).executeScheduled w e (world.muted names) =
      Prod.map id (World.muted names) ((r.refusing target names).executeScheduled w e world)) ∧
    (∀ enabled ws e, (r.refusing target []).handle enabled ws e (world.muted names) =
      Prod.map id (World.muted names) ((r.refusing target names).handle enabled ws e world)) := by
  refine ⟨?_, ?_, ?_, ?_⟩
  · intro w m
    exact r.execute_muted target names w m world
  · intro w m
    exact r.traversal_muted target names w m world
  · intro w e
    exact r.executeScheduled_muted target names w e world
  · intro enabled ws e
    exact r.handle_muted target names enabled ws e world

end Runner

end ChatFlow
