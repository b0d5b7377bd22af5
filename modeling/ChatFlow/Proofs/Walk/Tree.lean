import ChatFlow.Proofs.Walk.Record

/-!
# The tree of a walk

The visits of a walk that comes to its end form a tree: below a visit stand those that it leads to, and
the walk makes them in preorder.

* `VisitTree.Follows`: the tree follows the connections of a workflow.
* `VisitTree.Fits`: no branch comes back to an id, and none is longer than there is room for.
* `Workflow.exists_tree`: the tree of a walk that comes to its end.
-/

namespace ChatFlow

variable {σ : Type}

/-- Visits as a tree: below a visit stand the trees of those that it leads to, in order. -/
inductive VisitTree where
  | node (visit : Visit) (below : List VisitTree)

namespace VisitTree

/-- The visit at the root. -/
def root : VisitTree → Visit
  | node v _ => v

mutual

/-- The visits of a tree, each one before those below it. -/
def preorder : VisitTree → List Visit
  | node v below => v :: preorderAll below

/-- The visits of several trees, one tree after the other. -/
def preorderAll : List VisitTree → List Visit
  | [] => []
  | t :: rest => preorder t ++ preorderAll rest

end

theorem preorderAll_append (ts ts' : List VisitTree) :
    preorderAll (ts ++ ts') = preorderAll ts ++ preorderAll ts' := by
  induction ts with
  | nil => rfl
  | cons t ts ih => simp only [List.cons_append, preorderAll, ih, List.append_assoc]

theorem mem_preorderAll {ts : List VisitTree} {v : Visit} :
    v ∈ preorderAll ts ↔ ∃ t ∈ ts, v ∈ t.preorder := by
  induction ts with
  | nil => simp [preorderAll]
  | cons t ts ih => simp [preorderAll, ih]

theorem preorderAll_singleton (t : VisitTree) : preorderAll [t] = t.preorder := by
  simp only [preorderAll, List.append_nil]

/-- The visits on a way down from the root. -/
inductive Branch : VisitTree → List Visit → Prop where
  | root (v : Visit) (below : List VisitTree) : Branch (node v below) [v]
  | down {v : Visit} {below : List VisitTree} {t : VisitTree} {vs : List Visit} (ht : t ∈ below)
      (hvs : Branch t vs) : Branch (node v below) (v :: vs)

/-- The tree follows the connections of a workflow: its visits are of nodes, and below each of them
stand the nodes among the targets that it leads to, in the order of the connections. -/
inductive Follows (w : Workflow) : VisitTree → Prop where
  | node {v : Visit} {below : List VisitTree} (found : w.node? v.node.id = some v.node)
      (children : below.map (·.root.node) = (w.targets v.node.id v.outcome).filterMap w.node?)
      (each : ∀ t ∈ below, Follows w t) : Follows w (.node v below)

/-- No branch of the tree comes back to an id of its own or of a path, or is longer than the room. -/
def Fits (room : Nat) (path : List Text) (t : VisitTree) : Prop :=
  ∀ vs, t.Branch vs →
    (vs.map (·.node.id)).Nodup ∧ (∀ v ∈ vs, v.node.id ∉ path) ∧ vs.length ≤ room

theorem fits_node {room : Nat} {path : List Text} {v : Visit} {below : List VisitTree}
    (hpath : v.node.id ∉ path) (h : ∀ t ∈ below, t.Fits room (path ++ [v.node.id])) :
    (node v below).Fits (room + 1) path := by
  intro vs hvs
  cases hvs with
  | root =>
      exact ⟨by simp, by simpa using hpath, by simp⟩
  | @down _ _ t vs ht hvs =>
      obtain ⟨hnodup, hbelow, hlength⟩ := h t ht vs hvs
      refine ⟨?_, ?_, Nat.succ_le_succ hlength⟩
      · rw [List.map_cons, List.nodup_cons]
        refine ⟨?_, hnodup⟩
        intro hmem
        -- the root's id stands on the path of the visits below it
        obtain ⟨v', hv', heq⟩ := List.mem_map.mp hmem
        exact hbelow v' hv' (List.mem_append_right path (by simp [heq]))
      · intro v' hv'
        rcases List.mem_cons.mp hv' with rfl | hv'
        · exact hpath
        · intro hmem
          exact hbelow v' hv' (List.mem_append_left _ hmem)

end VisitTree

namespace Workflow

/-- What walks from several ids, one after the other, have done when they come to their end: trees
whose roots are the nodes among the ids, and whose visits lead from the one state to the other. -/
structure Grown (w : Workflow) (visit : Node → σ → Outcome × σ) (room : Nat) (path ids : List Text)
    (ts : List VisitTree) (s s' : σ) : Prop where
  roots : ts.map (·.root.node) = ids.filterMap w.node?
  follows : ∀ t ∈ ts, t.Follows w
  fits : ∀ t ∈ ts, t.Fits room path
  threads : Threads visit s (VisitTree.preorderAll ts) s'

variable {w : Workflow} {visit : Node → σ → Outcome × σ} {room : Nat} {path ids : List Text} {id : Text}
  {n : Node} {ts : List VisitTree} {s s₁ s' : σ}

namespace Grown

theorem nil : Grown w visit room path [] [] s s where
  roots := rfl
  follows := by simp
  fits := by simp
  threads := .nil s

theorem cons {us : List VisitTree} (h : Grown w visit room path [id] ts s s₁)
    (h' : Grown w visit room path ids us s₁ s') :
    Grown w visit room path (id :: ids) (ts ++ us) s s' where
  roots := by
    rw [List.map_append, h.roots, h'.roots, ← List.filterMap_append, List.singleton_append]
  follows := by
    intro t ht
    rcases List.mem_append.mp ht with ht | ht
    · exact h.follows t ht
    · exact h'.follows t ht
  fits := by
    intro t ht
    rcases List.mem_append.mp ht with ht | ht
    · exact h.fits t ht
    · exact h'.fits t ht
  threads := by
    rw [VisitTree.preorderAll_append]
    exact h.threads.append h'.threads

theorem missing (hn : w.node? id = none) : Grown w visit room path [id] [] s s where
  roots := by simp [hn]
  follows := by simp
  fits := by simp
  threads := .nil s

theorem visited (hp : id ∉ path) (hn : w.node? id = some n)
    (h : Grown w visit room (path ++ [id]) (w.targets id (visit n s).1) ts (visit n s).2 s') :
    Grown w visit (room + 1) path [id] [.node ⟨n, (visit n s).1⟩ ts] s s' := by
  obtain rfl := id_of_node? hn
  refine ⟨?_, ?_, ?_, ?_⟩
  · simp [VisitTree.root, hn]
  · intro t ht
    rw [List.mem_singleton.mp ht]
    exact .node hn h.roots h.follows
  · intro t ht
    rw [List.mem_singleton.mp ht]
    exact VisitTree.fits_node hp h.fits
  · rw [VisitTree.preorderAll_singleton, VisitTree.preorder]
    exact .cons rfl h.threads

end Grown

/-- If each step grows trees, then so do steps one after the other. -/
theorem grown_of_steps {step : Text → Step σ}
    (hstep : ∀ id s s', step id s = (.ok (), s') → ∃ ts, Grown w visit room path [id] ts s s')
    (h : Step.all step ids s = (.ok (), s')) : ∃ ts, Grown w visit room path ids ts s s' := by
  induction ids generalizing s with
  | nil =>
      cases h
      exact ⟨[], .nil⟩
  | cons id ids ih =>
      obtain ⟨s₁, hid, hids⟩ := Step.all_cons_eq_ok.mp h
      obtain ⟨ts, hts⟩ := hstep id s s₁ hid
      obtain ⟨us, hus⟩ := ih hids
      exact ⟨ts ++ us, hts.cons hus⟩

/-- A walk that comes to its end grows a tree, or nothing if no node has its id. -/
theorem grown_of_walk (h : w.walk visit room path id s = (.ok (), s')) :
    ∃ ts, Grown w visit room path [id] ts s s' := by
  -- the path grows as the room shrinks, and the state is whatever the steps before have left
  induction room generalizing path id s s' with
  | zero =>
      by_cases hp : id ∈ path
      · rw [walk_of_mem hp] at h
        cases h
      · rw [walk_zero hp] at h
        cases h
  | succ room ih =>
      by_cases hp : id ∈ path
      · rw [walk_of_mem hp] at h
        cases h
      · cases hn : w.node? id with
        | none =>
            rw [walk_missing hp hn] at h
            cases h
            exact ⟨[], .missing hn⟩
        | some n =>
            rw [walk_visit hp hn] at h
            obtain ⟨ts, hts⟩ := grown_of_steps (fun _ _ _ => ih) h
            exact ⟨_, .visited hp hn hts⟩

/-- The tree of a walk from a node that comes to its end. Its visits are the trail of the walk. -/
theorem exists_tree (hn : w.node? id = some n) (h : w.walkFrom visit id s = (.ok (), s')) :
    ∃ t : VisitTree, t.root.node = n ∧ t.Follows w ∧ t.Fits maxDepth [] ∧
      Threads visit s t.preorder s' ∧ w.trail visit id s = t.preorder := by
  -- the walk with a record grows the tree, so that its visits are the trail
  rw [walkFrom_noting] at h
  obtain ⟨hresult, rfl⟩ := Prod.ext_iff.mp h
  obtain ⟨ts, hts⟩ := grown_of_walk (Prod.ext hresult rfl)
  have hroots : ts.map (·.root.node) = [n] := by simpa [hn] using hts.roots
  obtain ⟨t, rfl, hroot⟩ := List.map_eq_singleton_iff.mp hroots
  have hthreads := hts.threads
  rw [VisitTree.preorderAll_singleton] at hthreads
  obtain ⟨hvisits, hrecord⟩ := hthreads.of_noting
  refine ⟨t, hroot, hts.follows t ?_, hts.fits t ?_, hvisits, hrecord⟩
  · exact List.mem_singleton_self t
  · exact List.mem_singleton_self t

end Workflow

end ChatFlow
