import ChatFlow.Proofs.Store.Frame
import ChatFlow.Run.Runner

/-!
# Steps that do alike

Two runs can be compared step by step: from scenes that are related, two steps come to the same result
and leave scenes that are related again. This holds of steps that are put together from others as soon
as it holds of those. A run that is compared with itself shows what its steps keep.

* `Act.run_bind`, `Act.run_tryCatch`: how a step that is put together runs.
* `Act.Alike`: two steps do alike; `Act.Respects` compares a step with itself.
* `Act.Bond`: the relations that filling in a template cannot break; `Act.SharesWorld`, `Act.StoreAt`: those
  that a call, or storing a value, cannot break either.
* `Act.Keeps`: a step leaves a part of the scene as it is; `Act.Aside`, `Act.Storeless`: the parts that filling
  in a template, a call, or storing a value cannot touch.
-/

namespace ChatFlow.Act

variable {α β : Type}

/-! ## Running steps -/

theorem run_lift (r : Except Fault α) (s : Scene) : (lift r).run.run s = (r, s) := by
  cases r <;> rfl

theorem run_bind (a : Act α) (k : α → Act β) (s : Scene) :
    (a >>= k).run.run s =
      match a.run.run s with
      | (.ok x, s') => (k x).run.run s'
      | (.error fault, s') => (.error fault, s') := by
  rw [ExceptT.run_bind, StateT.run_bind]
  rcases a.run.run s with ⟨result, s'⟩
  cases result <;> rfl

theorem run_tryCatch (a : Act α) (k : Fault → Act α) (s : Scene) :
    (tryCatch a k).run.run s =
      match a.run.run s with
      | (.ok x, s') => (.ok x, s')
      | (.error fault, s') => (k fault).run.run s' := by
  unfold ExceptT.run StateT.run
  simp only [tryCatch, tryCatchThe, MonadExceptOf.tryCatch, ExceptT.tryCatch, ExceptT.mk, bind,
    StateT.bind]
  rcases a s with ⟨result, s'⟩
  cases result <;> rfl

theorem run_world (s : Scene) : Act.world.run.run s = (.ok s.world, s) := rfl

theorem run_context (s : Scene) : Act.context.run.run s = (.ok s.context, s) := rfl

/-! ## Two steps -/

/-- From related scenes, the steps come to the same result and leave related scenes. -/
def Alike (R : Scene → Scene → Prop) (a b : Act α) : Prop :=
  ∀ s t, R s t →
    (b.run.run t).1 = (a.run.run s).1 ∧ R (a.run.run s).2 (b.run.run t).2

/-- From related scenes, the step does alike. -/
abbrev Respects (R : Scene → Scene → Prop) (a : Act α) : Prop := Alike R a a

variable {R : Scene → Scene → Prop}

theorem respects_pure (x : α) : Respects R (pure x : Act α) := fun _ _ h => ⟨rfl, h⟩

theorem respects_throw (fault : Fault) : Respects R (throw fault : Act α) := fun _ _ h => ⟨rfl, h⟩

theorem respects_lift (r : Except Fault α) : Respects R (lift r) := by
  intro s t h
  rw [run_lift, run_lift]
  exact ⟨rfl, h⟩

theorem Alike.bind {a b : Act α} {k l : α → Act β} (hab : Alike R a b)
    (hkl : ∀ x, Alike R (k x) (l x)) : Alike R (a >>= k) (b >>= l) := by
  intro s t h
  have hboth := hab s t h
  rw [run_bind, run_bind]
  rcases ha : a.run.run s with ⟨result, s'⟩
  rcases hb : b.run.run t with ⟨result', t'⟩
  rw [ha, hb] at hboth
  obtain ⟨rfl, h'⟩ := hboth
  -- either both go on with the same result, or both end with the same fault
  cases result' with
  | ok x => exact hkl x s' t' h'
  | error _ => exact ⟨rfl, h'⟩

theorem Alike.tryCatch {a b : Act α} {k l : Fault → Act α} (hab : Alike R a b)
    (hkl : ∀ fault, Alike R (k fault) (l fault)) : Alike R (tryCatch a k) (tryCatch b l) := by
  intro s t h
  have hboth := hab s t h
  rw [run_tryCatch, run_tryCatch]
  rcases ha : a.run.run s with ⟨result, s'⟩
  rcases hb : b.run.run t with ⟨result', t'⟩
  rw [ha, hb] at hboth
  obtain ⟨rfl, h'⟩ := hboth
  cases result' with
  | ok _ => exact ⟨rfl, h'⟩
  | error fault => exact hkl fault s' t' h'

theorem alike_ite {c : Prop} [Decidable c] {a a' b b' : Act α} (ha : Alike R a a')
    (hb : Alike R b b') : Alike R (if c then a else b) (if c then a' else b') := by
  split
  · exact ha
  · exact hb

/-! ## Related scenes -/

/-- Related scenes differ in nothing that a step looks at, apart from what calls by name will return. They
stay related when both get the same other surroundings with the clock, the store and these returns as they
are, and when a variable is set in both. -/
structure Bond (R : Scene → Scene → Prop) : Prop where
  surroundings : ∀ {s t}, R s t → t.world = { s.world with returns := t.world.returns }
  captures : ∀ {s t}, R s t → t.context.captures = s.context.captures
  vars : ∀ {s t}, R s t → t.context.vars = s.context.vars
  setSurroundings : ∀ {s t w}, R s t → w.clock = s.world.clock → w.store = s.world.store →
    w.returns = s.world.returns → R { s with world := w } { t with world := { w with returns := t.world.returns } }
  setVar : ∀ {s t name v}, R s t →
    R { s with context := s.context.set name v } { t with context := t.context.set name v }

/-- Related scenes have the same surroundings, and stay related in all others with the same clock and
store. -/
structure SharesWorld (R : Scene → Scene → Prop) : Prop where
  same : ∀ {s t}, R s t → t.world = s.world
  setSame : ∀ {s t w}, R s t → w.clock = s.world.clock → w.store = s.world.store → R { s with world := w } { t with world := w }

/-- Related scenes also stay related when both get the same other store, as long as this one differs only
in the rows of an owner and key. -/
def StoreAt (R : Scene → Scene → Prop) (owner : Owner) (key : Text) : Prop :=
  ∀ s t store, R s t → s.world.store.DiffersIn (Store.isAt owner key) store →
    R { s with world := { s.world with store := store } }
      { t with world := { t.world with store := store } }

/-- Related scenes also stay related when both get the same other store. -/
def AnyStore (R : Scene → Scene → Prop) : Prop :=
  ∀ s t store, R s t →
    R { s with world := { s.world with store := store } }
      { t with world := { t.world with store := store } }

theorem AnyStore.storeAt (hs : AnyStore R) (owner : Owner) (key : Text) : StoreAt R owner key :=
  fun s t store h _ => hs s t store h

theorem SharesWorld.surroundings (h : SharesWorld R) {s t : Scene} (hst : R s t) :
    t.world = { s.world with returns := t.world.returns } := by
  rw [h.same hst]

theorem SharesWorld.setSurroundings (h : SharesWorld R) {s t : Scene} {w : World} (hst : R s t)
    (hclock : w.clock = s.world.clock) (hstore : w.store = s.world.store)
    (hreturns : w.returns = s.world.returns) :
    R { s with world := w } { t with world := { w with returns := t.world.returns } } := by
  rw [h.same hst, ← hreturns]
  exact h.setSame hst hclock hstore

namespace Bond

variable (hR : Bond R)
include hR

theorem store {s t : Scene} (h : R s t) : t.world.store = s.world.store := by
  rw [hR.surroundings h]

/-- A step may look at the surroundings, but not at what calls by name will return. -/
theorem world {k : World → Act α} (hlooks : ∀ w returns, k { w with returns := returns } = k w)
    (hk : ∀ w, Respects R (k w)) : Respects R (Act.world >>= k) := by
  intro s t h
  have hsame : k t.world = k s.world := by
    rw [hR.surroundings h]
    exact hlooks s.world t.world.returns
  rw [run_bind, run_bind, run_world, run_world]
  simp only [hsame]
  exact hk s.world s t h

theorem clock : Respects R Act.clock := hR.world (fun _ _ => rfl) fun _ => respects_pure _

theorem stored (owner : Owner) (key : Text) (other : Value) :
    Respects R (Act.stored owner key other) :=
  hR.world (fun _ _ => rfl) fun _ => respects_lift _

/-- A step may look at the captures and the variables. -/
theorem context {k : Context → Act α}
    (hlooks : ∀ c d, d.captures = c.captures → d.vars = c.vars → k d = k c)
    (hk : ∀ c, Respects R (k c)) : Respects R (Act.context >>= k) := by
  intro s t h
  have hsame := hlooks s.context t.context (hR.captures h) (hR.vars h)
  rw [run_bind, run_bind, run_context, run_context]
  simp only [hsame]
  exact hk s.context s t h

theorem modifyWorld {g : World → World} (hclock : ∀ w, (g w).clock = w.clock)
    (hstore : ∀ w, (g w).store = w.store)
    (hreturns : ∀ w returns, g { w with returns := returns } = { g w with returns := returns }) :
    Respects R (Act.modifyWorld g) := by
  intro s t h
  refine ⟨rfl, ?_⟩
  show R { s with world := g s.world } { t with world := g t.world }
  have hkept : (g s.world).returns = s.world.returns := by
    show (g { s.world with returns := s.world.returns }).returns = s.world.returns
    rw [hreturns]
  -- the surroundings differ in the returns at most, so they change to what differs there at most
  have hsame : g t.world = { g s.world with returns := t.world.returns } := by
    rw [← hreturns, ← hR.surroundings h]
  rw [hsame]
  exact hR.setSurroundings h (hclock s.world) (hstore s.world) hkept

theorem setVariable (name : Text) (v : Value) : Respects R (Act.setVariable name v) :=
  fun _ _ h => ⟨rfl, hR.setVar h⟩

theorem roll (choose : Dice → Except Fault (α × Dice)) : Respects R (Act.roll choose) := by
  refine hR.world (fun _ _ => rfl) fun w => (respects_lift _).bind fun ⟨x, d⟩ => ?_
  have hdice : Respects R (Act.modifyWorld fun w => { w with dice := d }) :=
    hR.modifyWorld (fun _ => rfl) (fun _ => rfl) fun _ _ => rfl
  exact hdice.bind fun _ => respects_pure x

end Bond

/-! ## What steps keep -/

variable {γ : Type} {f : Scene → γ} {c : γ}

/-- The step leaves a part of the scene as it is. -/
def Keeps (f : Scene → γ) (a : Act α) : Prop := ∀ s, f (a.run.run s).2 = f s

/-- A part of the scene that holds nothing of the surroundings but the clock and the store, and no
variables. -/
structure Aside (f : Scene → γ) : Prop where
  world : ∀ s w, w.clock = s.world.clock → w.store = s.world.store → f { s with world := w } = f s
  vars : ∀ s name v, f { s with context := s.context.set name v } = f s

/-- A part of the scene that does not hold the store either. -/
def Storeless (f : Scene → γ) : Prop :=
  ∀ s store, f { s with world := { s.world with store := store } } = f s

/-- A scene is related to itself if a part of it is the given one. -/
def Holds (f : Scene → γ) (c : γ) (s t : Scene) : Prop := t = s ∧ f s = c

theorem Respects.keeps {a : Act α} (h : ∀ c, Respects (Holds f c) a) : Keeps f a := by
  intro s
  exact (h (f s) s s ⟨rfl, rfl⟩).2.2

theorem Aside.sharesWorld (hf : Aside f) : SharesWorld (Holds f c) where
  same := by
    rintro s _ ⟨rfl, -⟩
    rfl
  setSame := by
    rintro s _ w ⟨rfl, hs⟩ hclock hstore
    exact ⟨rfl, (hf.world _ w hclock hstore).trans hs⟩

theorem Aside.bond (hf : Aside f) : Bond (Holds f c) where
  surroundings := hf.sharesWorld.surroundings
  captures := by
    rintro s _ ⟨rfl, -⟩
    rfl
  vars := by
    rintro s _ ⟨rfl, -⟩
    rfl
  setSurroundings := hf.sharesWorld.setSurroundings
  setVar := by
    rintro s _ name v ⟨rfl, hs⟩
    exact ⟨rfl, (hf.vars _ name v).trans hs⟩

theorem Storeless.anyStore (hf : Storeless f) : AnyStore (Holds f c) := by
  rintro s _ store ⟨rfl, hs⟩
  exact ⟨rfl, (hf _ store).trans hs⟩

end ChatFlow.Act
