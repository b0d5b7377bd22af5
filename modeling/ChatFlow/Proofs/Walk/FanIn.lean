import ChatFlow.Proofs.Walk.Tree
import Mathlib.Data.List.Forall2
import Mathlib.Data.Set.Card

/-!
# Visits and walks along connections

If all visits leave by the first slot, then the visits of a walk that comes to its end are the walks
along connections from its start: a node to which several of them lead is visited once for each.

* `Workflow.Leads`: a walk along connections, as the list of their places.
* `Workflow.Enumerates`: all walks from an id, in lexicographic order, and where they end.
* `VisitTree.Follows.enumerates`: the preorder of a tree enumerates the walks from its root.
* `Workflow.Enumerates.encard_eq_count`: how many walks end at an id.
-/

namespace ChatFlow

namespace Workflow

variable {w : Workflow} {id last : Text} {ps qs : List (List Nat)} {ids : List Text}

/-- A walk from an id along connections of the first slot, as the places of these connections among all
of the workflow, and the id where it ends. It goes from node to node; an id of no node is no stop. -/
inductive Leads (w : Workflow) : Text → List Nat → Text → Prop where
  | here {id : Text} (hn : (w.node? id).isSome) : Leads w id [] id
  | along {id last : Text} {i : Nat} {c : Connection} {p : List Nat} (hn : (w.node? id).isSome)
      (hc : w.connections[i]? = some c) (horigin : c.origin = id) (hslot : c.slot = .first)
      (hrest : Leads w c.target p last) : Leads w id (i :: p) last

theorem Leads.isSome {p : List Nat} (h : w.Leads id p last) : (w.node? id).isSome := by
  cases h with
  | here hn => exact hn
  | along hn => exact hn

/-- The places of its connections determine where a walk ends. -/
theorem Leads.last_unique {p : List Nat} {last' : Text} (h : w.Leads id p last)
    (h' : w.Leads id p last') : last = last' := by
  induction h with
  | here =>
      cases h'
      rfl
  | along _ hc _ _ _ ih =>
      cases h' with
      | along _ hc' _ _ hrest' =>
          rw [hc] at hc'
          cases hc'
          exact ih hrest'

/-! ## Connections with their places -/

/-- The connections that leave an id by the first slot, with their places. -/
def exits (w : Workflow) (id : Text) : List (Connection × Nat) :=
  w.connections.zipIdx.filter fun e => e.1.origin = id && e.1.slot = .first

theorem mem_exits {e : Connection × Nat} :
    e ∈ w.exits id ↔ w.connections[e.2]? = some e.1 ∧ e.1.origin = id ∧ e.1.slot = .first := by
  simp [exits, List.mem_zipIdx_iff_getElem?]

theorem exits_sorted : (w.exits id).Pairwise fun e e' => e.2 < e'.2 := by
  -- the places of all connections ascend, so those of some of them do
  have hplaces : (w.connections.zipIdx.map Prod.snd).Pairwise (· < ·) := by
    rw [List.zipIdx_map_snd]
    exact List.pairwise_lt_range'
  exact (List.pairwise_map.mp hplaces).filter _

theorem map_exits : (w.exits id).map (·.1.target) = w.successors id .first := by
  have hfst : ((w.exits id).map Prod.fst) =
      w.connections.filter fun c => c.origin = id && c.slot = .first := by
    conv_rhs => rw [← List.zipIdx_map_fst 0 w.connections, List.filter_map]
    rfl
  rw [successors, ← hfst, List.map_map]
  rfl

/-! ## All walks from an id -/

/-- The walks from an id in lexicographic order of the places of their connections, none left out, and
the ids where they end. -/
structure Enumerates (w : Workflow) (id : Text) (ps : List (List Nat)) (ids : List Text) : Prop where
  sorted : ps.Pairwise (List.Lex (· < ·))
  ends : List.Forall₂ (w.Leads id) ps ids
  complete : ∀ p last, w.Leads id p last → p ∈ ps

/-- The walks that begin with one of some connections, like `Enumerates`. -/
structure EnumeratesBehind (w : Workflow) (es : List (Connection × Nat)) (ps : List (List Nat))
    (ids : List Text) : Prop where
  sorted : ps.Pairwise (List.Lex (· < ·))
  ends : List.Forall₂ (fun p last => ∃ e ∈ es, ∃ q, p = e.2 :: q ∧ w.Leads e.1.target q last) ps ids
  complete : ∀ e ∈ es, ∀ q last, w.Leads e.1.target q last → e.2 :: q ∈ ps

namespace EnumeratesBehind

variable {e : Connection × Nat} {es : List (Connection × Nat)} {ids' : List Text}

theorem nil : w.EnumeratesBehind [] [] [] := ⟨.nil, .nil, by simp⟩

/-- Each of the walks begins with one of the connections. -/
theorem exists_exit (h : w.EnumeratesBehind es ps ids) {p : List Nat} (hp : p ∈ ps) :
    ∃ e ∈ es, ∃ q, p = e.2 :: q := by
  -- the induction is on the list of walks, of which `h` as a whole would say too much
  have hends := h.ends
  clear h
  induction hends with
  | nil => cases hp
  | cons hbegins _ ih =>
      rcases List.mem_cons.mp hp with rfl | hp
      · obtain ⟨e, he, q, hq, -⟩ := hbegins
        exact ⟨e, he, q, hq⟩
      · exact ih hp

/-- No walk begins with a connection to an id of no node. -/
theorem cons_missing (hn : w.node? e.1.target = none) (h : w.EnumeratesBehind es ps ids) :
    w.EnumeratesBehind (e :: es) ps ids where
  sorted := h.sorted
  ends := h.ends.imp fun _ _ ⟨e', he', hq⟩ => ⟨e', List.mem_cons_of_mem e he', hq⟩
  complete := by
    intro e' he' q last hq
    rcases List.mem_cons.mp he' with rfl | he'
    · have hsome := hq.isSome
      simp [hn] at hsome
    · exact h.complete e' he' q last hq

theorem cons (hplaces : ∀ e' ∈ es, e.2 < e'.2) (h : w.Enumerates e.1.target ps ids)
    (h' : w.EnumeratesBehind es qs ids') :
    w.EnumeratesBehind (e :: es) (ps.map (e.2 :: ·) ++ qs) (ids ++ ids') where
  sorted := by
    rw [List.pairwise_append, List.pairwise_map]
    refine ⟨h.sorted.imp fun hlex => .cons hlex, h'.sorted, ?_⟩
    -- walks that begin with an earlier connection come first, wherever they lead
    intro p hp q hq
    obtain ⟨p, -, rfl⟩ := List.mem_map.mp hp
    obtain ⟨e', he', q, rfl⟩ := h'.exists_exit hq
    exact .rel (hplaces e' he')
  ends := by
    apply List.rel_append
    · rw [List.forall₂_map_left_iff]
      exact h.ends.imp fun p last hp => ⟨e, List.mem_cons_self, p, rfl, hp⟩
    · exact h'.ends.imp fun _ _ ⟨e', he', hq⟩ => ⟨e', List.mem_cons_of_mem e he', hq⟩
  complete := by
    intro e' he' q last hq
    rcases List.mem_cons.mp he' with rfl | he'
    · exact List.mem_append_left _ (List.mem_map_of_mem (h.complete q last hq))
    · exact List.mem_append_right _ (h'.complete e' he' q last hq)

end EnumeratesBehind

/-- All walks from a node are the empty one and those that begin with one of its connections. -/
theorem EnumeratesBehind.enumerates (hn : (w.node? id).isSome)
    (h : w.EnumeratesBehind (w.exits id) ps ids) : w.Enumerates id ([] :: ps) (id :: ids) where
  sorted := by
    refine List.pairwise_cons.mpr ⟨?_, h.sorted⟩
    intro p hp
    obtain ⟨e, -, q, rfl⟩ := h.exists_exit hp
    exact .nil
  ends := by
    refine .cons (.here hn) (h.ends.imp ?_)
    rintro p last ⟨e, he, q, rfl, hq⟩
    obtain ⟨hc, horigin, hslot⟩ := mem_exits.mp he
    exact .along hn hc horigin hslot hq
  complete := by
    intro p last hp
    cases hp with
    | here => exact List.mem_cons_self
    | @along _ _ i c q _ hc horigin hslot hq =>
        have he : (c, i) ∈ w.exits id := mem_exits.mpr ⟨hc, horigin, hslot⟩
        exact List.mem_cons_of_mem _ (h.complete (c, i) he q last hq)

/-- Among different walks, as many end at an id as it stands among their ends. -/
theorem encard_of_ends (h : List.Forall₂ (w.Leads id) ps ids) (hnodup : ps.Nodup) (last : Text) :
    {p | p ∈ ps ∧ w.Leads id p last}.encard = ids.count last := by
  induction h with
  | nil => simp
  | @cons p x ps ids hp _ ih =>
      rw [List.nodup_cons] at hnodup
      by_cases hx : x = last
      · subst hx
        -- this walk is one more, since it is none of the others
        have hset : {q | q ∈ p :: ps ∧ w.Leads id q x} =
            insert p {q | q ∈ ps ∧ w.Leads id q x} := by
          ext q
          simp only [List.mem_cons, Set.mem_ofPred_eq, Set.mem_insert_iff]
          constructor
          · rintro ⟨rfl | hq, hlead⟩
            · exact .inl rfl
            · exact .inr ⟨hq, hlead⟩
          · rintro (rfl | ⟨hq, hlead⟩)
            · exact ⟨.inl rfl, hp⟩
            · exact ⟨.inr hq, hlead⟩
        rw [hset, Set.encard_insert_of_notMem fun hmem => hnodup.1 hmem.1, ih hnodup.2,
          List.count_cons_self]
        rfl
      · have hset : {q | q ∈ p :: ps ∧ w.Leads id q last} = {q | q ∈ ps ∧ w.Leads id q last} := by
          ext q
          simp only [List.mem_cons, Set.mem_ofPred_eq]
          constructor
          · rintro ⟨rfl | hq, hlead⟩
            · exact absurd (hp.last_unique hlead) hx
            · exact ⟨hq, hlead⟩
          · rintro ⟨hq, hlead⟩
            exact ⟨.inr hq, hlead⟩
        rw [hset, ih hnodup.2, List.count_cons_of_ne hx]

/-- As many walks from an id end at another one as it stands among their ends. -/
theorem Enumerates.encard_eq_count (h : w.Enumerates id ps ids) (last : Text) :
    {p | w.Leads id p last}.encard = ids.count last := by
  have hset : {p | w.Leads id p last} = {p | p ∈ ps ∧ w.Leads id p last} := by
    ext p
    exact ⟨fun hp => ⟨h.complete p last hp, hp⟩, fun hp => hp.2⟩
  have hnodup : ps.Nodup := h.sorted.imp fun hlex => ne_of_lt hlex
  rw [hset]
  exact encard_of_ends h.ends hnodup last

end Workflow

namespace VisitTree

variable {w : Workflow} {t : VisitTree}

/-- Trees of visits that leave by the first slot enumerate the walks that begin with some connections,
if their roots are the nodes that the connections lead to. -/
theorem enumerates_all {es : List (Connection × Nat)} {ts : List VisitTree}
    (hplaces : es.Pairwise fun e e' => e.2 < e'.2)
    (hroots : ts.map (·.root.node) = (es.map (·.1.target)).filterMap w.node?)
    (hts : ∀ t ∈ ts, ∃ ps, w.Enumerates t.root.node.id ps (t.preorder.map (·.node.id))) :
    ∃ ps, w.EnumeratesBehind es ps ((preorderAll ts).map (·.node.id)) := by
  induction es generalizing ts with
  | nil =>
      obtain rfl : ts = [] := by simpa using hroots
      exact ⟨[], .nil⟩
  | cons e es ih =>
      rw [List.pairwise_cons] at hplaces
      cases hn : w.node? e.1.target with
      | none =>
          -- no walk begins here, and no tree has grown
          rw [List.map_cons, List.filterMap_cons_none hn] at hroots
          obtain ⟨ps, hps⟩ := ih hplaces.2 hroots hts
          exact ⟨ps, hps.cons_missing hn⟩
      | some n =>
          rw [List.map_cons, List.filterMap_cons_some hn] at hroots
          obtain ⟨t, us, rfl, hroot, hus⟩ := List.map_eq_cons_iff.mp hroots
          obtain ⟨ps, hps⟩ := hts t List.mem_cons_self
          obtain ⟨qs, hqs⟩ := ih hplaces.2 hus fun u hu => hts u (List.mem_cons_of_mem t hu)
          have hid : t.root.node.id = e.1.target := by
            rw [hroot, Workflow.id_of_node? hn]
          rw [hid] at hps
          rw [preorderAll, List.map_append]
          exact ⟨_, hqs.cons hplaces.1 hps⟩

/-- The preorder of a tree of visits that leave by the first slot enumerates the walks from its root. -/
theorem Follows.enumerates (h : t.Follows w)
    (hfirst : ∀ v ∈ t.preorder, v.outcome = .leaves .first) :
    ∃ ps, w.Enumerates t.root.node.id ps (t.preorder.map (·.node.id)) := by
  induction h with
  | @node v below found children _ ih =>
      simp only [preorder, List.mem_cons, forall_eq_or_imp] at hfirst
      have hts : ∀ t ∈ below,
          ∃ ps, w.Enumerates t.root.node.id ps (t.preorder.map (·.node.id)) := by
        intro t ht
        refine ih t ht fun u hu => hfirst.2 u ?_
        exact mem_preorderAll.mpr ⟨t, ht, hu⟩
      -- the targets below the root are those of its exits, in the order of their places
      rw [hfirst.1, Workflow.targets, ← Workflow.map_exits] at children
      obtain ⟨ps, hps⟩ := enumerates_all Workflow.exits_sorted children hts
      refine ⟨[] :: ps, ?_⟩
      rw [preorder, List.map_cons]
      exact hps.enumerates (by simp [root, found])

end VisitTree

end ChatFlow
