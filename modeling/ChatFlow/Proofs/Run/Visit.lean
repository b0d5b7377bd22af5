import ChatFlow.Proofs.Run.Alike
import ChatFlow.Proofs.Run.Bodies
import ChatFlow.Proofs.Walk.Record

/-!
# Visits of a run

A visit notes that it is made, runs the body of its node, and notes whether that failed. The body
itself leaves all notes alone, so the notes tell which visits were made, and in which order.

* `Runner.perform_alike`, `Runner.keeps_perform`: bodies do alike, and what they keep.
* `Runner.visit_slot`: only conditions choose the second slot.
* `Runner.threads_notes`: the notes behind visits that were made one after the other.
* `Runner.Matches`: two runners whose visits, and with them walks, do alike.
* `Runner.executeScheduled_clock`: a run does not move the clock.
-/

namespace ChatFlow

open Act

/-- What a run keeps beside its variables: the captures, and the notes about its visits. -/
def Scene.notes (s : Scene) : List Text × List Text × List Text :=
  (s.context.captures, s.context.executed, s.context.failed)

theorem Scene.aside_notes : Aside Scene.notes := ⟨fun _ _ _ _ => rfl, fun _ _ _ => rfl⟩

theorem Scene.storeless_notes : Storeless Scene.notes := fun _ _ => rfl

namespace Runner

variable {γ : Type} {f : Scene → γ} {r : Runner} {w : Workflow} {m : Message} {n : Node} {s s' : Scene}
  {vs : List Visit}

/-! ## Bodies -/

/-- Whose stored values a body may write. -/
def writers (m : Message) : NodeBody → List Owner
  | .storage _ => [.user m.event.userId]
  | .sharedStorage _ => [.shared]
  | _ => []

/-- Bodies do alike for runners whose calls do, with the same handlers. -/
theorem perform_alike {R : Scene → Scene → Prop} {m : Message} {body : NodeBody} (hR : Bond R)
    (hs : ∀ owner ∈ writers m body, ∀ key, StoreAt R owner key) {r r' : Runner}
    (ho : Calls R r.outlet r'.outlet) (hhandled : r'.handled = r.handled) :
    Alike R (r.perform m body) (r'.perform m body) := by
  cases body with
  | trigger d => exact respects_pure _
  | condition d => exact (hR.holds m d).bind fun b => respects_pure _
  | action d => exact (hR.act ho hhandled m d).bind fun _ => respects_pure _
  | delay d => exact (hR.wait _).bind fun _ => respects_pure _
  | setVar d => exact (hR.assign m d).bind fun _ => respects_pure _
  | storage d =>
      have hstore := StoreAt.storeUser hR m (hs _ List.mem_cons_self) d
      exact hstore.bind fun _ => respects_pure _
  | sharedStorage d =>
      have hstore := StoreAt.storeShared hR m (hs _ List.mem_cons_self) d
      exact hstore.bind fun _ => respects_pure _
  | leaderboard d => exact (hR.leaderboard m d).bind fun _ => respects_pure _
  | listRandom d => exact (hR.pick m d).bind fun _ => respects_pure _

/-- A body keeps every part of the scene that its primitive steps keep. -/
theorem keeps_perform (hf : Aside f) (hs : Storeless f) (r : Runner) (m : Message) (body : NodeBody) :
    Keeps f (r.perform m body) :=
  Respects.keeps fun _ =>
    perform_alike hf.bond (fun _ _ => hs.anyStore.storeAt _) (hf.sharesWorld.calls r.outlet) rfl

/-! ## Outcomes -/

theorem slot_of_then_first {a : Act Unit} {slot : Slot}
    (h : (do a; return Slot.first : Act Slot).run.run s = (.ok slot, s')) : slot = .first := by
  rw [run_bind] at h
  rcases ha : a.run.run s with ⟨result, s₁⟩
  rw [ha] at h
  cases result with
  | ok _ =>
      cases h
      rfl
  | error _ => cases h

/-- A body that is no condition chooses the first slot. -/
theorem perform_slot {body : NodeBody} {slot : Slot} (hkind : body.kind ≠ .condition)
    (h : (r.perform m body).run.run s = (.ok slot, s')) : slot = .first := by
  cases body with
  | trigger d =>
      cases h
      rfl
  | condition d => exact absurd rfl hkind
  -- all others choose the slot after a step, if they come so far
  | _ => exact slot_of_then_first h

/-- A visit of a node that is no condition fails or leaves by the first slot. -/
theorem visit_slot (hkind : n.body.kind ≠ .condition) (hfails : (r.visit w m n s).1 ≠ .fails) :
    (r.visit w m n s).1 = .leaves .first := by
  unfold visit at hfails ⊢
  rcases h : (r.perform m n.body).run.run (noteExecuted n s) with ⟨result, s₁⟩
  rw [h] at hfails
  cases result with
  | ok slot => rw [perform_slot hkind h]
  | error _ => exact absurd rfl hfails

/-! ## Notes -/

/-- The nodes that failed in some visits. -/
def failedIds (vs : List Visit) : List Text :=
  (vs.filter fun v => v.outcome = .fails).map (·.node.id)

theorem failedIds_cons (v : Visit) (vs : List Visit) :
    failedIds (v :: vs) = failedIds [v] ++ failedIds vs := by
  by_cases h : v.outcome = .fails
  · simp [failedIds, h]
  · simp [failedIds, h]

theorem notes_noteExecuted (n : Node) (s : Scene) :
    (noteExecuted n s).notes =
      (s.context.captures, s.context.executed ++ [n.id], s.context.failed) := rfl

/-- A visit adds its node to the notes, and to those of failures if it fails. -/
theorem visit_notes (r : Runner) (w : Workflow) (m : Message) (n : Node) (s : Scene) :
    (r.visit w m n s).2.notes =
      (s.context.captures, s.context.executed ++ [n.id],
        s.context.failed ++ failedIds [⟨n, (r.visit w m n s).1⟩]) := by
  have hbody := keeps_perform Scene.aside_notes Scene.storeless_notes r m n.body (noteExecuted n s)
  rw [notes_noteExecuted] at hbody
  -- only the failure itself is noted behind the body
  unfold visit
  rcases h : (r.perform m n.body).run.run (noteExecuted n s) with ⟨result, s₁⟩
  rw [h] at hbody
  obtain ⟨hcaptures, hexecuted, hfailed⟩ : s₁.context.captures = s.context.captures ∧
      s₁.context.executed = s.context.executed ++ [n.id] ∧
      s₁.context.failed = s.context.failed := by
    simpa [Scene.notes] using hbody
  cases result with
  | ok slot => simp [Scene.notes, failedIds, hcaptures, hexecuted, hfailed]
  | error _ => simp [Scene.notes, noteFailed, failedIds, hcaptures, hexecuted, hfailed]

/-- The notes behind visits made one after the other. -/
theorem threads_notes (h : Threads (r.visit w m) s vs s') :
    s'.notes =
      (s.context.captures, s.context.executed ++ vs.map (·.node.id),
        s.context.failed ++ failedIds vs) := by
  induction h with
  | nil s => simp [Scene.notes, failedIds]
  | @cons s s₁ s₂ v vs hv _ ih =>
      -- the later visits add to the notes that the first one leaves
      have hnotes := visit_notes r w m v.node s
      rw [hv] at hnotes
      obtain ⟨hcaptures, hexecuted, hfailed⟩ : s₁.context.captures = s.context.captures ∧
          s₁.context.executed = s.context.executed ++ [v.node.id] ∧
          s₁.context.failed = s.context.failed ++ failedIds [v] := by
        simpa [Scene.notes] using hnotes
      rw [ih, hcaptures, hexecuted, hfailed, failedIds_cons v vs]
      simp

/-! ## Visits from related scenes -/

/-- What makes visits of two runners do alike from related scenes: their calls and what they note do. -/
structure Matches (R : Scene → Scene → Prop) (w : Workflow) (r r' : Runner) : Prop where
  bond : Bond R
  anyStore : AnyStore R
  calls : Calls R r.outlet r'.outlet
  handled : r'.handled = r.handled
  executed : ∀ {s t} n, R s t → R (noteExecuted n s) (noteExecuted n t)
  failed : ∀ {s t} n, R s t → R (r.noteFailed w n s) (r'.noteFailed w n t)

namespace Matches

variable {R : Scene → Scene → Prop} {r' : Runner} {t : Scene}

theorem visit (h : Matches R w r r') (m : Message) (n : Node) (hst : R s t) :
    (r'.visit w m n t).1 = (r.visit w m n s).1 ∧
      R (r.visit w m n s).2 (r'.visit w m n t).2 := by
  have hbodies : Alike R (r.perform m n.body) (r'.perform m n.body) :=
    perform_alike h.bond (fun _ _ => h.anyStore.storeAt _) h.calls h.handled
  have hboth := hbodies _ _ (h.executed n hst)
  unfold Runner.visit
  rcases hs : (r.perform m n.body).run.run (noteExecuted n s) with ⟨result, s₁⟩
  rcases ht : (r'.perform m n.body).run.run (noteExecuted n t) with ⟨result', t₁⟩
  rw [hs, ht] at hboth
  obtain ⟨rfl, h₁⟩ := hboth
  -- behind the bodies, nothing happens but that a failure is noted
  cases result' with
  | ok slot => exact ⟨rfl, h₁⟩
  | error _ => exact ⟨rfl, h.failed n h₁⟩

/-- Walks do alike if visits do. -/
theorem walk (h : Matches R w r r') (m : Message) (room : Nat) (path : List Text) (id : Text)
    (hst : R s t) :
    (w.walk (r'.visit w m) room path id t).1 = (w.walk (r.visit w m) room path id s).1 ∧
      R (w.walk (r.visit w m) room path id s).2 (w.walk (r'.visit w m) room path id t).2 := by
  -- both walks go through the same workflow, so only the visits have to correspond
  have sim : w.Simulation w (r.visit w m) (r'.visit w m) (fun _ => True) R :=
    { back := fun _ _ _ => trivial
      nodes := fun _ => rfl
      visits := by
        intro n s t _ hst _
        obtain ⟨houtcome, hscenes⟩ := h.visit m n hst
        exact ⟨houtcome, hscenes, rfl⟩ }
  exact sim.walk room path id s t hst trivial

/-- So do the walks from the successors of a node. -/
theorem walkBehind (h : Matches R w r r') (m : Message) (id : Text) (hst : R s t) :
    (w.walkBehind (r'.visit w m) id t).1 = (w.walkBehind (r.visit w m) id s).1 ∧
      R (w.walkBehind (r.visit w m) id s).2 (w.walkBehind (r'.visit w m) id t).2 :=
  Step.all_sim (K := fun _ => True) (fun _ _ _ => trivial)
    (fun next _ _ hst _ => h.walk m _ [id] next hst) _ hst trivial

end Matches

/-! ## The clock -/

/-- Nothing in a visit moves the clock. -/
theorem matches_clock (r : Runner) (w : Workflow) (c : Moment) :
    Matches (Holds (fun s => s.world.clock) c) w r r := by
  have haside : Aside fun s => s.world.clock := ⟨fun _ _ hclock _ => hclock, fun _ _ _ => rfl⟩
  have hstoreless : Storeless fun s => s.world.clock := fun _ _ => rfl
  refine ⟨haside.bond, hstoreless.anyStore, haside.sharesWorld.calls r.outlet, rfl, ?_, ?_⟩
  · rintro s _ n ⟨rfl, hs⟩
    exact ⟨rfl, hs⟩
  · rintro s _ n ⟨rfl, hs⟩
    exact ⟨rfl, hs⟩

/-- A run without a message ends at the time at which it began. -/
theorem executeScheduled_clock (r : Runner) (w : Workflow) (e : Event) (world : World) :
    (r.executeScheduled w e world).2.clock = world.clock := by
  have hstart : Holds (fun s => s.world.clock) world.clock ⟨world, .start []⟩ ⟨world, .start []⟩ := ⟨rfl, rfl⟩
  obtain ⟨-, -, hwalks⟩ := Step.all_sim (K := fun _ => True) (fun _ _ _ => trivial)
    (fun (trigger : Node) _ _ hst _ => (matches_clock r w world.clock).walkBehind ⟨e, []⟩ trigger.id hst)
    w.triggers hstart trivial
  unfold executeScheduled finish
  dsimp only
  split
  · next hwalk =>
      rw [hwalk] at hwalks
      exact hwalks
  · next hwalk =>
      rw [hwalk] at hwalks
      exact hwalks

end Runner

end ChatFlow
