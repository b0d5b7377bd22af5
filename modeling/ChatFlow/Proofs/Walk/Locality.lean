import ChatFlow.Proofs.Walk.Record
import Mathlib.Data.Set.Basic
import Mathlib.Logic.Relation

/-!
# What a walk depends on

A walk looks at the ids that connections lead to from where it begins, and at nothing else: two workflows
that agree on these ids are walked alike, whatever else they hold and in whatever order. A visit that fails
leads nowhere, so the connections that leave a node make no difference to a walk all of whose visits to that
node fail, however the walk ends.

* `Workflow.Reaches`: connections lead from one id to another.
* `Workflow.AgreesFrom`: two workflows agree on everything that connections lead to.
* `Workflow.AgreesFrom.walk`: the walks through them are the same.
* `Workflow.withoutExits`: a workflow without the connections that leave some ids.
* `Workflow.walkFrom_withoutExits`: the walk through it, if all visits to these ids fail.
-/

namespace ChatFlow

variable {σ α : Type}

/-- Steps that do the same one by one do the same as a whole. -/
theorem Step.all_congr {step step' : α → Step σ} {as : List α}
    (h : ∀ a ∈ as, ∀ s, step' a s = step a s) (s : σ) : all step' as s = all step as s := by
  induction as generalizing s with
  | nil => rfl
  | cons a as ih =>
      have ha := h a List.mem_cons_self s
      have has : ∀ s, all step' as s = all step as s := ih fun b hb => h b (List.mem_cons_of_mem a hb)
      rcases hstep : step a s with ⟨result, s₁⟩
      rw [hstep] at ha
      cases result with
      | ok _ => rw [all_cons_of_ok hstep, all_cons_of_ok ha, has]
      | error _ => rw [all_cons_of_error hstep, all_cons_of_error ha]

namespace Workflow

variable {w w' : Workflow} {visit visit' : Node → σ → Outcome × σ} {start id next : Text} {n n' : Node}

/-! ## Reaching ids -/

/-- A connection leads from the one id to the other. -/
def Links (w : Workflow) (id next : Text) : Prop :=
  ∃ c ∈ w.connections, c.origin = id ∧ c.target = next

/-- Connections lead from the one id to the other. -/
def Reaches (w : Workflow) : Text → Text → Prop := Relation.ReflTransGen w.Links

theorem links_of_mem_targets {outcome : Outcome} (h : next ∈ w.targets id outcome) :
    w.Links id next := by
  cases outcome with
  | fails => cases h
  | leaves slot =>
      obtain ⟨c, hc, rfl⟩ := List.mem_map.mp h
      obtain ⟨hmem, hends⟩ := List.mem_filter.mp hc
      simp only [Bool.and_eq_true, decide_eq_true_eq] at hends
      exact ⟨c, hmem, hends.1, rfl⟩

/-- What holds of an id, and behind each connection if it holds before it, holds of all that is reached. -/
theorem Reaches.induct {P : Text → Prop} (h : w.Reaches start id) (hstart : P start)
    (hlinks : ∀ c ∈ w.connections, P c.origin → P c.target) : P id := by
  induction h with
  | refl => exact hstart
  | tail _ hlink ih =>
      obtain ⟨c, hc, rfl, rfl⟩ := hlink
      exact hlinks c hc ih

/-! ## Agreement -/

/-- The workflows agree on each id that the first one reaches: on whether it is that of a node, on the
kind and settings of the node, and on where its connections lead from each slot, in order. -/
structure AgreesFrom (w w' : Workflow) (start : Text) : Prop where
  nodes : ∀ id, w.Reaches start id → (w'.node? id).map Node.body = (w.node? id).map Node.body
  successors : ∀ id, w.Reaches start id → (w.node? id).isSome →
    ∀ slot, w'.successors id slot = w.successors id slot

namespace AgreesFrom

variable (h : w.AgreesFrom w' start)

include h

theorem missing (hid : w.Reaches start id) (hn : w.node? id = none) : w'.node? id = none := by
  have hbody := h.nodes id hid
  rw [hn] at hbody
  simpa using hbody

theorem exists_node (hid : w.Reaches start id) (hn : w.node? id = some n) :
    ∃ n', w'.node? id = some n' ∧ n'.id = n.id ∧ n'.body = n.body := by
  have hbody := h.nodes id hid
  rw [hn, Option.map_some, Option.map_eq_some_iff] at hbody
  obtain ⟨n', hn', hbody⟩ := hbody
  exact ⟨n', hn', (id_of_node? hn').trans (id_of_node? hn).symm, hbody⟩

theorem targets (hid : w.Reaches start id) (hn : w.node? id = some n) (outcome : Outcome) :
    w'.targets id outcome = w.targets id outcome := by
  cases outcome with
  | fails => rfl
  | leaves slot => exact h.successors id hid (by simp [hn]) slot

/-- Workflows that agree on what is reached are walked alike from there, if visits of nodes of the same
id, kind and settings do the same. -/
theorem walk (hvisit : ∀ n n' s, n'.id = n.id → n'.body = n.body → visit' n' s = visit n s)
    (room : Nat) (path : List Text) (id : Text) (hid : w.Reaches start id) (s : σ) :
    w'.walk visit' room path id s = w.walk visit room path id s := by
  -- every id that the walk goes on to is reached as well
  induction room generalizing path id s with
  | zero => rfl
  | succ room ih =>
      by_cases hp : id ∈ path
      · rw [walk_of_mem hp, walk_of_mem hp]
      · cases hn : w.node? id with
        | none => rw [walk_missing hp hn, walk_missing hp (h.missing hid hn)]
        | some n =>
            obtain ⟨n', hn', hsame, hbody⟩ := h.exists_node hid hn
            rw [walk_visit hp hn, walk_visit hp hn', hvisit n n' s hsame hbody, h.targets hid hn]
            refine Step.all_congr ?_ _
            intro next hnext s
            exact ih (path ++ [id]) next (hid.tail (links_of_mem_targets hnext)) s

end AgreesFrom

/-! ## Nodes that fail -/

section Exits

variable {σ : Type} {w : Workflow} {visit : Node → σ → Outcome × σ} {F : Set Text}
  [DecidablePred (· ∈ F)] {id : Text} {s : σ}

/-- The workflow without the connections that leave some ids. -/
def withoutExits (w : Workflow) (F : Set Text) [DecidablePred (· ∈ F)] : Workflow :=
  { w with connections := w.connections.filter fun c => c.origin ∉ F }

theorem node?_withoutExits (id : Text) : (w.withoutExits F).node? id = w.node? id := rfl

@[simp] theorem triggers_withoutExits : (w.withoutExits F).triggers = w.triggers := rfl

/-- The other ids keep their connections. -/
theorem successors_withoutExits (h : id ∉ F) (slot : Slot) :
    (w.withoutExits F).successors id slot = w.successors id slot := by
  have hkept : ∀ c : Connection,
      ((decide (c.origin = id) && decide (c.slot = slot)) && decide (c.origin ∉ F)) =
        (decide (c.origin = id) && decide (c.slot = slot)) := by
    intro c
    by_cases hc : c.origin = id
    · simp [hc, h]
    · simp [hc]
  simp only [successors, withoutExits, List.filter_filter, hkept]

/-- A visit that fails leads to the same ids with and without connections, namely to none. -/
theorem targets_withoutExits {outcome : Outcome} (h : id ∈ F → outcome = .fails) :
    (w.withoutExits F).targets id outcome = w.targets id outcome := by
  cases outcome with
  | fails => rfl
  | leaves slot =>
      have hid : id ∉ F := by
        intro hmem
        cases h hmem
      exact successors_withoutExits hid slot

/-- A walk does not need the connections that leave some ids if all of its visits to them fail. -/
theorem walkFrom_withoutExits
    (h : ∀ v ∈ w.trail visit id s, v.node.id ∈ F → v.outcome = .fails) :
    (w.withoutExits F).walkFrom visit id s = w.walkFrom visit id s := by
  have hvisits : ∀ n s t, w.node? n.id = some n → s = t → (n.id ∈ F → (visit n s).1 = .fails) →
      (visit n t).1 = (visit n s).1 ∧ (visit n s).2 = (visit n t).2 ∧
        (w.withoutExits F).targets n.id (visit n s).1 = w.targets n.id (visit n s).1 := by
    rintro n s t - rfl hfails
    exact ⟨rfl, rfl, targets_withoutExits hfails⟩
  obtain ⟨hresult, hstate⟩ := walkFrom_sim node?_withoutExits hvisits h rfl
  exact Prod.ext hresult hstate.symm

end Exits

end Workflow

end ChatFlow
