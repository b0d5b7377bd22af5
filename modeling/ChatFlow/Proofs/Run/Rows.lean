import ChatFlow.Proofs.Run.Sequence

/-!
# The rows that a run can reach

Keys of stored values are filled in like any template, so they may hold whatever the chat or the store
does. Still a run for a user reaches no value of another user, and no shared value but under the keys that
its storage nodes were filled in with.

* `Runner.reach`: the rows of a user, and shared ones under some keys.
* `Runner.writtenKey?`: the key of the shared value that a body writes.
* `Runner.perform_rows`, `Runner.threads_rows`: what one visit, and visits one after the other, leave alone.
* `Runner.rows_out_of_reach`: what a run of any kind leaves alone.
-/

namespace ChatFlow.Runner

open Act

variable {r : Runner} {w : Workflow} {m : Message} {s s' : Scene} {vs : List Visit} {p : Row → Bool}
  {c : List Row}

/-! ## Parts of the store -/

/-- The rows that are not picked. -/
def rowsOutside (p : Row → Bool) (s : Scene) : List Row := s.world.store.rows.filter fun row => !p row

theorem aside_rowsOutside (p : Row → Bool) : Aside (rowsOutside p) where
  world := by
    intro s w _ hstore
    simp only [rowsOutside, hstore]
  vars := fun _ _ _ => rfl

/-- A value may be stored where only rows that are picked stand. -/
theorem storeAt_rowsOutside {owner : Owner} {key : Text}
    (hp : ∀ row, Store.isAt owner key row → p row) : StoreAt (Holds (rowsOutside p) c) owner key := by
  rintro s _ store ⟨rfl, hs⟩ hdiffers
  exact ⟨rfl, Eq.trans (hdiffers.mono hp) hs⟩

/-! ## Reach -/

/-- The rows of a user, and the shared ones under some keys. -/
def reach (user : Text) (keys : List Text) (row : Row) : Bool :=
  match row.owner with
  | .user id => id = user
  | .shared => keys.contains row.key

theorem reach_own {user key : Text} {keys : List Text} {row : Row}
    (h : Store.isAt (.user user) key row) : reach user keys row := by
  simp only [Store.isAt, Bool.and_eq_true, decide_eq_true_eq] at h
  simp [reach, h.1]

theorem reach_shared {user key : Text} {keys : List Text} {row : Row} (hkey : key ∈ keys)
    (h : Store.isAt .shared key row) : reach user keys row := by
  simp only [Store.isAt, Bool.and_eq_true, decide_eq_true_eq] at h
  simp [reach, h.1, h.2, hkey]

theorem reach_mono {user : Text} {keys more : List Text} (hkeys : keys ⊆ more) (row : Row)
    (h : reach user keys row) : reach user more row := by
  unfold reach at h ⊢
  split at h
  · exact h
  · rw [List.contains_iff_mem] at h ⊢
    exact hkeys h

/-! ## Bodies -/

/-- The key of the shared value that a body writes: that of a storage node that sets, adds or takes away,
as it is filled in. -/
def writtenKey? (m : Message) (body : NodeBody) (s : Scene) : Option Text :=
  match body with
  | .sharedStorage d =>
    if d.op = .get then none else ((Act.render m d.key).run.run s).1.toOption
  | _ => none

/-- A body that writes no shared value reaches the rows of the user only. -/
theorem keeps_rows {body : NodeBody} {keys : List Text} (r : Runner) (m : Message)
    (hbody : body.kind ≠ .sharedStorage) :
    Keeps (rowsOutside (reach m.event.userId keys)) (r.perform m body) := by
  have hwriters : ∀ owner ∈ writers m body, owner = .user m.event.userId := by
    intro owner howner
    cases body with
    | sharedStorage d => exact absurd rfl hbody
    | storage d => simpa [writers] using howner
    | _ => simp [writers] at howner
  have haside := aside_rowsOutside (reach m.event.userId keys)
  refine Respects.keeps fun c => perform_alike haside.bond ?_ (haside.sharesWorld.calls r.outlet) rfl
  intro owner howner key
  rw [hwriters owner howner]
  exact storeAt_rowsOutside fun row => reach_own

/-- The node for shared values writes under its key as it is filled in, and nothing if it only reads. -/
theorem storeShared_rows (user : Text) (d : StorageData SharedOp) (m : Message) (s : Scene) :
    s.world.store.DiffersIn (reach user (writtenKey? m (.sharedStorage d) s).toList)
      ((Act.storeShared d m).run.run s).2.world.store := by
  have hstore : ((Act.render m d.key).run.run s).2.world.store = s.world.store := by
    have haside : Aside fun s : Scene => s.world.store := ⟨fun _ _ _ hstore => hstore, fun _ _ _ => rfl⟩
    exact (Respects.keeps fun _ => haside.bond.render m d.key) s
  unfold Act.storeShared Act.storeWith
  rw [run_bind]
  rcases hrender : (Act.render m d.key).run.run s with ⟨result, s₁⟩
  rw [hrender] at hstore
  cases result with
  | error fault =>
      rw [← hstore]
      exact .refl _ _
  | ok key =>
      -- behind the key, the node stores under this key at most
      have hkey : d.op ≠ .get → key ∈ (writtenKey? m (.sharedStorage d) s).toList := by
        intro hop
        simp [writtenKey?, hop, hrender, Except.toOption]
      generalize (writtenKey? m (.sharedStorage d) s).toList = keys at hkey
      have haside := aside_rowsOutside (reach user keys)
      have hwrites : ∀ c, d.op ≠ .get → StoreAt (Holds (rowsOutside (reach user keys)) c) .shared key := by
        intro c hop
        exact storeAt_rowsOutside fun row => reach_shared (hkey hop)
      rw [← hstore]
      refine Respects.keeps (f := rowsOutside (reach user keys)) (fun c => ?_) s₁
      refine alike_ite (respects_pure ()) ((haside.bond.render m d.value).bind fun text => ?_)
      have hdo := StoreAt.doShared haside.bond (hwrites c) text d.other
      exact hdo.bind fun v => haside.bond.setVariable _ v

/-- What a body can reach: the rows of the user, and the shared one that it writes. -/
theorem perform_rows (r : Runner) (m : Message) (body : NodeBody) (s : Scene) :
    s.world.store.DiffersIn (reach m.event.userId (writtenKey? m body s).toList)
      ((r.perform m body).run.run s).2.world.store := by
  by_cases hbody : body.kind = .sharedStorage
  · cases body with
    | sharedStorage d =>
        have hrows := storeShared_rows m.event.userId d m s
        -- which edge is taken behind the node is no matter of the store
        show Store.DiffersIn _ _
          ((do Act.storeShared d m; return Slot.first : Act Slot).run.run s).2.world.store
        rw [run_bind]
        rcases hrun : (Act.storeShared d m).run.run s with ⟨result, s₁⟩
        rw [hrun] at hrows
        cases result with
        | ok _ => exact hrows
        | error _ => exact hrows
    | _ => cases hbody
  · exact keeps_rows r m hbody s

/-! ## Visits -/

/-- What a visit can reach. -/
theorem visit_rows (r : Runner) (w : Workflow) (m : Message) (n : Node) (s : Scene) :
    s.world.store.DiffersIn
      (reach m.event.userId (writtenKey? m n.body (noteExecuted n s)).toList)
      (r.visit w m n s).2.world.store := by
  have hbody := perform_rows r m n.body (noteExecuted n s)
  unfold visit
  rcases hrun : (r.perform m n.body).run.run (noteExecuted n s) with ⟨result, s₁⟩
  rw [hrun] at hbody
  cases result with
  | ok slot => exact hbody
  | error _ => exact hbody

/-- The keys under which visits write shared values, made one after the other from a scene on. -/
def visitKeys (r : Runner) (w : Workflow) (m : Message) : Scene → List Visit → List Text
  | _, [] => []
  | s, v :: vs =>
    (writtenKey? m v.node.body (noteExecuted v.node s)).toList
      ++ visitKeys r w m (r.visit w m v.node s).2 vs

/-- What visits can reach that are made one after the other. -/
theorem threads_rows (h : Threads (r.visit w m) s vs s') :
    s.world.store.DiffersIn (reach m.event.userId (r.visitKeys w m s vs)) s'.world.store := by
  induction h with
  | nil s => exact .refl _ _
  | @cons s s₁ s₂ v vs hv _ ih =>
      have hfirst := visit_rows r w m v.node s
      rw [hv] at hfirst
      rw [visitKeys, hv]
      -- the keys of the later visits depend on what the first one left
      have hhead := hfirst.mono (reach_mono (List.subset_append_left _ (r.visitKeys w m s₁ vs)))
      exact hhead.trans (ih.mono (reach_mono (List.subset_append_right _ _)))

/-! ## Runs -/

theorem finish_world (w : Workflow) (walk : Except WalkFault Unit × Scene) :
    (finish w walk).2 = walk.2.world := by
  rcases walk with ⟨result, s⟩
  cases result with
  | ok _ => rfl
  | error _ => rfl

/-- The keys under which a run that a message sets off writes shared values. -/
def executeKeys (r : Runner) (w : Workflow) (m : Message) (world : World) : List Text :=
  match Trigger.first? m.content w.triggers with
  | .ok (some (trigger, captures)) =>
    r.visitKeys w m (r.opening w m world trigger captures) (r.visits w m world)
  | _ => []

theorem execute_rows (r : Runner) (w : Workflow) (m : Message) (world : World) :
    world.store.DiffersIn (reach m.event.userId (r.executeKeys w m world))
      (r.execute w m world).2.store := by
  rcases hfirst : Trigger.first? m.content w.triggers with fault | _ | ⟨trigger, captures⟩
  · rw [execute, hfirst]
    exact .refl _ _
  · rw [execute, hfirst]
    exact .refl _ _
  · have hthreads := Threads.trail w (r.visit w m) trigger.id (r.opening w m world trigger captures)
    have hrows := threads_rows hthreads
    rw [execute_of_match hfirst, executeKeys, hfirst, visits_of_match hfirst, Prod.map_snd, finish_world]
    exact hrows

/-- The trigger leads to a node that counts up a shared value under a key with the user's name in it. -/
def sampleCounter : Workflow :=
  sampleFlow
    [⟨"n", none, none, .sharedStorage ⟨.incr, "of_\x7buser_id\x7d", "1", "v", .int 0, []⟩, []⟩]
    [⟨"t", "n", .first⟩]

example : sampleRunner.executeKeys sampleCounter sampleMessage sampleWorld = ["of_u"] := by
  decide +kernel

/-- The visits of a run that the clock sets off, in order. -/
def scheduledVisits (r : Runner) (w : Workflow) (e : Event) (world : World) : List Visit :=
  (Step.all (fun trigger => w.walkBehind (Visit.noting (r.visit w ⟨e, []⟩)) trigger.id) w.triggers
    (⟨world, .start []⟩, [])).2.2

/-- The clock's walks make these visits one after the other, however they end. -/
theorem threads_scheduled (r : Runner) (w : Workflow) (e : Event) (world : World) :
    Threads (r.visit w ⟨e, []⟩) ⟨world, .start []⟩ (r.scheduledVisits w e world)
      (Step.all (fun trigger => w.walkBehind (r.visit w ⟨e, []⟩) trigger.id) w.triggers
        ⟨world, .start []⟩).2 := by
  have hwalks : ∀ (trigger : Node) s, Threads.Follows (r.visit w ⟨e, []⟩) s
      (w.walkBehind (Visit.noting (r.visit w ⟨e, []⟩)) trigger.id s).2 := by
    intro trigger s
    have hnext : ∀ next s, Threads.Follows (r.visit w ⟨e, []⟩) s
        (w.walk (Visit.noting (r.visit w ⟨e, []⟩)) (Workflow.maxDepth - 1) [trigger.id] next s).2 :=
      Threads.follows_walk w _ _
    exact Step.all_rel Threads.Follows.refl Threads.Follows.trans hnext _ s
  -- the record changes nothing about the walks
  have hbehind : ∀ (trigger : Node) s, w.walkBehind (r.visit w ⟨e, []⟩) trigger.id (Prod.fst s) =
      Prod.map id Prod.fst (w.walkBehind (Visit.noting (r.visit w ⟨e, []⟩)) trigger.id s) :=
    fun trigger => Step.all_map (fun next s => Workflow.walk_noting _ _ next s) _
  have hsame := Step.all_map hbehind w.triggers ((⟨world, .start []⟩ : Scene), [])
  rw [hsame]
  exact Threads.of_record (Step.all_rel Threads.Follows.refl Threads.Follows.trans hwalks _ _)

/-- The keys under which a run that the clock sets off writes shared values. -/
def executeScheduledKeys (r : Runner) (w : Workflow) (e : Event) (world : World) : List Text :=
  r.visitKeys w ⟨e, []⟩ ⟨world, .start []⟩ (r.scheduledVisits w e world)

theorem executeScheduled_rows (r : Runner) (w : Workflow) (e : Event) (world : World) :
    world.store.DiffersIn (reach e.userId (r.executeScheduledKeys w e world))
      (r.executeScheduled w e world).2.store := by
  have hrows := threads_rows (r.threads_scheduled w e world)
  simp only [executeScheduled, finish_world]
  exact hrows

/-! ## Runs of several workflows -/

/-- The keys under which the runs of several workflows write shared values, one after the other. -/
def executeAllKeys (r : Runner) (m : Message) : List Workflow → World → List Text
  | [], _ => []
  | w :: rest, world =>
    (if w.enabled then r.executeKeys w m world else []) ++
      match r.executeAll m [w] world with
      | (true, _) => []
      | (false, world) => executeAllKeys r m rest world

theorem executeOne_rows (r : Runner) (m : Message) (w : Workflow) (world : World) :
    world.store.DiffersIn
      (reach m.event.userId (if w.enabled then r.executeKeys w m world else []))
      (r.executeAll m [w] world).2.store := by
  have hrows := r.execute_rows w m world
  cases henabled : w.enabled with
  | false => simp [executeAll, henabled, Store.DiffersIn.refl]
  | true =>
      rcases hrun : r.execute w m world with ⟨fault | _ | context, world'⟩
      · rw [hrun] at hrows
        simpa [executeAll, henabled, hrun, World.log] using hrows
      · rw [hrun] at hrows
        simpa [executeAll, henabled, hrun] using hrows
      · rw [hrun] at hrows
        cases hstop : w.stopPropagation with
        | false => simpa [executeAll, henabled, hrun, hstop] using hrows
        | true => simpa [executeAll, henabled, hrun, hstop] using hrows

theorem executeAll_rows (r : Runner) (m : Message) (ws : List Workflow) (world : World) :
    world.store.DiffersIn (reach m.event.userId (r.executeAllKeys m ws world))
      (r.executeAll m ws world).2.store := by
  induction ws generalizing world with
  | nil => exact .refl _ _
  | cons w ws ih =>
      have hfirst := r.executeOne_rows m w world
      rw [executeAll_cons, executeAllKeys]
      rcases hone : r.executeAll m [w] world with ⟨stops, world₁⟩
      rw [hone] at hfirst
      cases stops with
      | true => simpa using hfirst
      | false =>
          have hhead := hfirst.mono (reach_mono (List.subset_append_left _ (r.executeAllKeys m ws world₁)))
          exact hhead.trans ((ih world₁).mono (reach_mono (List.subset_append_right _ _)))

/-- The keys under which the runs for an event write shared values. -/
def handleKeys (r : Runner) (enabled : Bool) (ws : List Workflow) (e : Event) (world : World) :
    List Text :=
  if !enabled || e.raw.trim.isEmpty then [] else r.executeAllKeys ⟨e, e.raw.trim⟩ ws world

theorem handle_rows (r : Runner) (enabled : Bool) (ws : List Workflow) (e : Event) (world : World) :
    world.store.DiffersIn (reach e.userId (r.handleKeys enabled ws e world))
      (r.handle enabled ws e world).2.store := by
  cases hquiet : !enabled || e.raw.trim.isEmpty with
  | true =>
      simp only [handle, handleKeys, hquiet, if_true]
      exact .refl _ _
  | false =>
      simp only [handle, handleKeys, hquiet, Bool.false_eq_true, if_false]
      exact r.executeAll_rows ⟨e, e.raw.trim⟩ ws world

/-- Whatever sets off runs for an event, and however they end: the rows of other users, and the shared rows
under keys that no storage node of these runs was filled in with to write, stay what they were, and in
their order. -/
theorem rows_out_of_reach (r : Runner) (e : Event) (world : World) :
    (∀ enabled ws, world.store.DiffersIn (reach e.userId (r.handleKeys enabled ws e world))
      (r.handle enabled ws e world).2.store) ∧
    (∀ w content, world.store.DiffersIn (reach e.userId (r.executeKeys w ⟨e, content⟩ world))
      (r.execute w ⟨e, content⟩ world).2.store) ∧
    (∀ w, world.store.DiffersIn (reach e.userId (r.executeScheduledKeys w e world))
      (r.executeScheduled w e world).2.store) := by
  refine ⟨?_, ?_, ?_⟩
  · intro enabled ws
    exact r.handle_rows enabled ws e world
  · intro w content
    exact r.execute_rows w ⟨e, content⟩ world
  · intro w
    exact r.executeScheduled_rows w e world

end ChatFlow.Runner
