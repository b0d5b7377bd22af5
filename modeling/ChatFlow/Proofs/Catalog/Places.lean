import ChatFlow.Catalog.Basic
import Mathlib.Data.List.Basic

/-!
# The places of unread entries

Entries that are no workflows are put between the documents of workflows one after the other, in the order
of their places. The result is the list that is read from left to right: at each index the next entry stands
whose place has come, and else the next document.

* `Workflow.isRefused`: entries that are no workflows.
* `Catalog.place_eq_interleave`: placing, read from left to right.
* `Catalog.filterMap_place`, `Catalog.filter_place`: what is made of the documents of the placed list.
* `Catalog.getElem?_place_sort`: new documents in the places of the workflows of a list.
* `Snapshot.sort_place`: at which places they are found when the list is read again.
-/

namespace ChatFlow

/-! ## Entries that are no workflows -/

namespace Workflow

/-- Is an entry no workflow? -/
def isRefused (v : Value) : Bool := (check v).toOption.isNone

theorem isRefused_of_accepted {v : Value} {w : Workflow} (h : check v = .accepted w) :
    isRefused v = false := by
  rw [isRefused, h]
  rfl

theorem isRefused_of_refused {v : Value} {n : Nat} (h : check v = .refused n) : isRefused v = true := by
  rw [isRefused, h]
  rfl

theorem exists_accepted {v : Value} (h : isRefused v = false) : ∃ w, check v = .accepted w := by
  cases hcheck : check v with
  | accepted w => exact ⟨w, rfl⟩
  | refused n => rw [isRefused_of_refused hcheck] at h; cases h

theorem exists_refused {v : Value} (h : isRefused v = true) : ∃ n, check v = .refused n := by
  cases hcheck : check v with
  | accepted w => rw [isRefused_of_accepted hcheck] at h; cases h
  | refused n => exact ⟨n, rfl⟩

end Workflow

namespace Snapshot

/-- The workflows among entries are read one by one, and the other ones are those that are no workflows. -/
theorem sort_eq (i : Nat) (vs : List Value) :
    (sort i vs).1 = vs.filterMap (fun v => (Workflow.check v).toOption) ∧
      (sort i vs).2.map Prod.snd = vs.filter Workflow.isRefused := by
  induction vs generalizing i with
  | nil => exact ⟨rfl, rfl⟩
  | cons v vs ih =>
      obtain ⟨hworkflows, hothers⟩ := ih (i + 1)
      cases h : Workflow.check v with
      | accepted w =>
          have hrefused := Workflow.isRefused_of_accepted h
          simp [sort, h, hrefused, hworkflows, hothers, Check.toOption]
      | refused n =>
          have hrefused := Workflow.isRefused_of_refused h
          simp [sort, h, hrefused, hworkflows, hothers, Check.toOption]

/-- Every entry is a workflow or is kept with its place. -/
theorem length_sort (i : Nat) (vs : List Value) : (sort i vs).1.length + (sort i vs).2.length = vs.length := by
  induction vs generalizing i with
  | nil => rfl
  | cons v vs ih =>
      have hrest := ih (i + 1)
      cases h : Workflow.check v with
      | accepted w =>
          simp only [sort, h, List.length_cons]
          omega
      | refused n =>
          simp only [sort, h, List.length_cons]
          omega

end Snapshot

namespace Catalog

/-! ## Places in ascending order -/

/-- Each place lies behind the one before. -/
def Ascending (others : List (Nat × Value)) : Prop := others.Pairwise fun a b => a.1 < b.1

theorem Ascending.filter {others : List (Nat × Value)} (h : Ascending others) (p : Nat × Value → Bool) :
    Ascending (others.filter p) := List.Pairwise.filter p h

section Ascending

variable {i : Nat} {e : Nat × Value} {others : List (Nat × Value)} (h : Ascending (e :: others))
  (hplace : i ≤ e.1)

include h

theorem Ascending.tail : Ascending others := (List.pairwise_cons.mp h).2

include hplace

/-- What no index before the first place reaches, none before the next index reaches behind it. -/
theorem Ascending.succ_le : ∀ x ∈ others, i + 1 ≤ x.1 :=
  fun x hx => Nat.lt_of_le_of_lt hplace ((List.pairwise_cons.mp h).1 x hx)

/-- The first place is the least. -/
theorem Ascending.le : ∀ x ∈ e :: others, i ≤ x.1 := by
  intro x hx
  rcases List.mem_cons.mp hx with rfl | hx
  · exact hplace
  · exact Nat.le_of_succ_le (h.succ_le hplace x hx)

end Ascending

/-- The places at which entries are found are in ascending order. -/
theorem ascending_sort (i : Nat) (vs : List Value) :
    Ascending (Snapshot.sort i vs).2 ∧ ∀ e ∈ (Snapshot.sort i vs).2, i ≤ e.1 := by
  induction vs generalizing i with
  | nil => exact ⟨.nil, by simp [Snapshot.sort]⟩
  | cons v vs ih =>
      obtain ⟨hascending, hbound⟩ := ih (i + 1)
      cases h : Workflow.check v with
      | accepted w =>
          simp only [Snapshot.sort, h]
          exact ⟨hascending, fun e he => Nat.le_of_succ_le (hbound e he)⟩
      | refused n =>
          simp only [Snapshot.sort, h]
          have hall : Ascending ((i, v) :: (Snapshot.sort (i + 1) vs).2) := .cons hbound hascending
          exact ⟨hall, hall.le (Nat.le_refl i)⟩

/-! ## Placing, read from left to right -/

/-- Documents and entries from an index on: the next entry if its place has come or there is no document
left, and else the next document. -/
def interleave (i : Nat) : List Value → List (Nat × Value) → List Value
  | documents, [] => documents
  | [], (_, v) :: others => v :: interleave (i + 1) [] others
  | d :: documents, (p, v) :: others =>
    if p ≤ i then v :: interleave (i + 1) (d :: documents) others
    else d :: interleave (i + 1) documents ((p, v) :: others)
termination_by documents others => documents.length + others.length

theorem insertIdx_front (front documents : List Value) (v : Value) :
    (front ++ documents).insertIdx front.length v = front ++ v :: documents := by
  induction front with
  | nil => rfl
  | cons d front ih =>
      show (d :: (front ++ documents)).insertIdx (front.length + 1) v = _
      rw [List.insertIdx_succ_cons, ih]
      rfl

/-- One entry is put behind `front`, which holds all indices before `i`. -/
theorem insertIdx_min {front documents : List Value} {i p : Nat} (hfront : front.length = i)
    (hp : min p (front ++ documents).length = i) (v : Value) :
    (front ++ documents).insertIdx (min p (front ++ documents).length) v = (front ++ [v]) ++ documents := by
  rw [hp, ← hfront, insertIdx_front]
  simp

/-- Behind `front`, which holds all indices before `i`, entries are put as the list is read from `i` on. -/
theorem foldl_insertIdx (front : List Value) {i : Nat} (hfront : front.length = i) (documents : List Value)
    {others : List (Nat × Value)} (hascending : Ascending others) (hbound : ∀ e ∈ others, i ≤ e.1) :
    others.foldl (fun vs (p, v) => vs.insertIdx (min p vs.length) v) (front ++ documents) =
      front ++ interleave i documents others := by
  -- what was put or passed joins `front`, so the next place is counted from behind it
  fun_induction interleave i documents others generalizing front with
  | case1 i documents => rfl
  | case2 i p v others ih =>
      have hle : i ≤ p := hbound (p, v) List.mem_cons_self
      have hmin : min p (front ++ []).length = i := by
        rw [List.append_nil]
        omega
      have hnext := ih (front ++ [v]) (by simp [hfront]) hascending.tail (hascending.succ_le hle)
      show List.foldl _ ((front ++ []).insertIdx (min p (front ++ []).length) v) others = _
      rw [insertIdx_min hfront hmin, hnext]
      simp
  | case3 i d documents p v others hp ih =>
      have hle : i ≤ p := hbound (p, v) List.mem_cons_self
      have hmin : min p (front ++ d :: documents).length = i := by
        rw [List.length_append]
        omega
      have hnext := ih (front ++ [v]) (by simp [hfront]) hascending.tail (hascending.succ_le hle)
      show List.foldl _ ((front ++ d :: documents).insertIdx (min p (front ++ d :: documents).length) v)
        others = _
      rw [insertIdx_min hfront hmin, hnext]
      simp
  | case4 i d documents p v others hp ih =>
      have hnext := ih (front ++ [d]) (by simp [hfront]) hascending (hascending.le (Nat.lt_of_not_le hp))
      simpa using hnext

/-- Placing entries is reading the documents and the entries from left to right. -/
theorem place_eq_interleave (documents : List Value) {others : List (Nat × Value)} (h : Ascending others) :
    place documents others = interleave 0 documents others :=
  foldl_insertIdx [] rfl documents h fun e _ => Nat.zero_le e.1

/-- Placing neither loses nor adds anything. -/
theorem place_perm (documents : List Value) (others : List (Nat × Value)) :
    (place documents others).Perm (documents ++ others.map Prod.snd) := by
  induction others generalizing documents with
  | nil =>
      rw [List.map_nil, List.append_nil]
      exact List.Perm.refl documents
  | cons e others ih =>
      have hput : (documents.insertIdx (min e.1 documents.length) e.2).Perm (e.2 :: documents) :=
        List.perm_insertIdx e.2 documents (Nat.min_le_right ..)
      have hmoved : ((e.2 :: documents) ++ others.map Prod.snd).Perm
          (documents ++ (e :: others).map Prod.snd) := List.perm_middle.symm
      exact ((ih _).trans (hput.append_right _)).trans hmoved

theorem filterMap_insertIdx {α : Type} {f : Value → Option α} {v : Value} (hv : f v = none) (vs : List Value)
    (i : Nat) : (vs.insertIdx i v).filterMap f = vs.filterMap f := by
  induction vs generalizing i with
  | nil =>
      cases i with
      | zero => exact List.filterMap_cons_none hv
      | succ i => rfl
  | cons u vs ih =>
      cases i with
      | zero => exact List.filterMap_cons_none hv
      | succ i =>
          rw [List.insertIdx_succ_cons, List.filterMap_cons, List.filterMap_cons, ih]

/-- What is made of the documents only does not depend on what is placed among them. -/
theorem filterMap_place {α : Type} {f : Value → Option α} {others : List (Nat × Value)}
    (h : ∀ e ∈ others, f e.2 = none) (documents : List Value) :
    (place documents others).filterMap f = documents.filterMap f := by
  induction others generalizing documents with
  | nil => rfl
  | cons e others ih =>
      obtain ⟨hfirst, hrest⟩ := List.forall_mem_cons.mp h
      exact (ih hrest _).trans (filterMap_insertIdx hfirst documents _)

/-- The documents stay in their order. -/
theorem filter_place {p : Value → Bool} {others : List (Nat × Value)} (h : ∀ e ∈ others, p e.2 = false)
    (documents : List Value) : (place documents others).filter p = documents.filter p := by
  rw [← List.filterMap_eq_filter]
  exact filterMap_place (fun e he => Option.guard_eq_none_iff.mpr (h e he)) documents

/-! ## New documents in the places of the old ones -/

/-- How many workflows stand before an index. -/
def slot (es : List Value) (j : Nat) : Nat := (es.take j).countP fun v => !Workflow.isRefused v

theorem slot_cons_succ (v : Value) (es : List Value) (j : Nat) :
    slot (v :: es) (j + 1) = slot es j + if Workflow.isRefused v then 0 else 1 := by
  rw [slot, List.take_succ_cons, List.countP_cons, slot]
  cases Workflow.isRefused v with
  | true => rfl
  | false => rfl

/-- Where no place has come yet, the next document stands. -/
theorem interleave_of_lt {i : Nat} {others : List (Nat × Value)} (h : ∀ e ∈ others, i < e.1) (d : Value)
    (documents : List Value) :
    interleave i (d :: documents) others = d :: interleave (i + 1) documents others := by
  cases others with
  | nil => simp only [interleave]
  | cons e others =>
      obtain ⟨p, v⟩ := e
      have hp : ¬ p ≤ i := Nat.not_le_of_lt (h (p, v) List.mem_cons_self)
      rw [interleave, if_neg hp]

/-- Where the place of an entry has come, the entry stands. -/
theorem interleave_self (i : Nat) (v : Value) (documents : List Value) (others : List (Nat × Value)) :
    interleave i documents ((i, v) :: others) = v :: interleave (i + 1) documents others := by
  cases documents with
  | nil => rw [interleave]
  | cons d documents => rw [interleave, if_pos (Nat.le_refl i)]

/-- With as many documents as there are workflows in a list, each entry of it that is none stands at its index,
and the documents stand at the other ones. -/
theorem getElem?_interleave_sort (i : Nat) {es documents : List Value}
    (hlength : documents.length = (Snapshot.sort i es).1.length) {j : Nat} {v : Value} (hv : es[j]? = some v) :
    (interleave i documents (Snapshot.sort i es).2)[j]? =
      if Workflow.isRefused v then some v else documents[slot es j]? := by
  induction es generalizing i documents j with
  | nil => cases hv
  | cons e es ih =>
      cases hcheck : Workflow.check e with
      | accepted w =>
          have hrefused := Workflow.isRefused_of_accepted hcheck
          simp only [Snapshot.sort, hcheck, List.length_cons] at hlength ⊢
          obtain ⟨d, rest, rfl⟩ := List.exists_cons_of_length_eq_add_one hlength
          rw [interleave_of_lt (ascending_sort (i + 1) es).2]
          cases j with
          | zero =>
              cases hv
              rw [hrefused]
              rfl
          | succ j =>
              have hnext := ih (i + 1) (Nat.succ.inj hlength) hv
              rw [slot_cons_succ, hrefused]
              exact hnext
      | refused n =>
          have hrefused := Workflow.isRefused_of_refused hcheck
          simp only [Snapshot.sort, hcheck] at hlength ⊢
          rw [interleave_self]
          cases j with
          | zero =>
              cases hv
              rw [hrefused]
              rfl
          | succ j =>
              have hnext := ih (i + 1) hlength hv
              rw [slot_cons_succ, hrefused]
              exact hnext

theorem getElem?_place_sort {es documents : List Value} (hlength : documents.length = (Snapshot.sort 0 es).1.length)
    {j : Nat} {v : Value} (hv : es[j]? = some v) :
    (place documents (Snapshot.sort 0 es).2)[j]? =
      if Workflow.isRefused v then some v else documents[slot es j]? := by
  rw [place_eq_interleave documents (ascending_sort 0 es).1, getElem?_interleave_sort 0 hlength hv]

/-- Such a list is as long as the old one. -/
theorem length_place_sort {es documents : List Value} (hlength : documents.length = (Snapshot.sort 0 es).1.length) :
    (place documents (Snapshot.sort 0 es).2).length = es.length := by
  rw [(place_perm documents _).length_eq, List.length_append, List.length_map, hlength, Snapshot.length_sort]

/-! ## What is read of the placed list -/

/-- Where entries are found that were put between `n` documents: in their places, or at the end. -/
def landed (n : Nat) : List (Nat × Value) → List (Nat × Value)
  | [] => []
  | (p, v) :: others => (min p n, v) :: landed (n + 1) others

@[simp]
theorem map_snd_landed (n : Nat) (others : List (Nat × Value)) :
    (landed n others).map Prod.snd = others.map Prod.snd := by
  induction others generalizing n with
  | nil => rfl
  | cons e others ih => rw [landed, List.map_cons, List.map_cons, ih]

/-- All entries are found in their places just when none of them lies behind the end that the list has when
the entry is put there. -/
theorem landed_eq_self_iff {n : Nat} {others : List (Nat × Value)} :
    landed n others = others ↔ ∀ j (hj : j < others.length), others[j].1 ≤ n + j := by
  induction others generalizing n with
  | nil => simp [landed]
  | cons e others ih =>
      rw [landed, List.cons_eq_cons, ih]
      constructor
      · rintro ⟨hfirst, hrest⟩ j hj
        cases j with
        | zero =>
            have hmin : min e.1 n = e.1 := congrArg Prod.fst hfirst
            show e.1 ≤ n
            omega
        | succ j =>
            have hle := hrest j (Nat.lt_of_succ_lt_succ hj)
            rw [List.getElem_cons_succ]
            omega
      · intro h
        refine ⟨?_, ?_⟩
        · have hle : e.1 ≤ n := h 0 (Nat.zero_lt_succ _)
          rw [Nat.min_eq_left hle]
        · intro j hj
          have hle : others[j].1 ≤ n + (j + 1) := h (j + 1) (Nat.succ_lt_succ hj)
          omega

/-- All entries that were found in a list were found in their places. -/
theorem landed_sort (i : Nat) (vs : List Value) :
    landed (i + (Snapshot.sort i vs).1.length) (Snapshot.sort i vs).2 = (Snapshot.sort i vs).2 := by
  induction vs generalizing i with
  | nil => rfl
  | cons v vs ih =>
      have hnext := ih (i + 1)
      cases h : Workflow.check v with
      | accepted w =>
          have hend : i + ((Snapshot.sort (i + 1) vs).1.length + 1) =
              i + 1 + (Snapshot.sort (i + 1) vs).1.length := by omega
          simp only [Snapshot.sort, h, List.length_cons, hend, hnext]
      | refused n =>
          have hend : i + (Snapshot.sort (i + 1) vs).1.length + 1 =
              i + 1 + (Snapshot.sort (i + 1) vs).1.length := by omega
          have hmin : min i (i + (Snapshot.sort (i + 1) vs).1.length) = i := by omega
          simp only [Snapshot.sort, h, landed, hmin, hend, hnext]

section Read

variable {documents : List Value} {others : List (Nat × Value)}

theorem sort_documents (i : Nat) (hdocuments : ∀ d ∈ documents, Workflow.isRefused d = false) :
    Snapshot.sort i documents = (documents.filterMap (fun d => (Workflow.check d).toOption), []) := by
  obtain ⟨hworkflows, hvalues⟩ := Snapshot.sort_eq i documents
  have hnone : documents.filter Workflow.isRefused = [] := by
    rw [List.filter_eq_nil_iff]
    intro d hd
    simp [hdocuments d hd]
  rw [hnone] at hvalues
  exact Prod.ext hworkflows (List.map_eq_nil_iff.mp hvalues)

/-- Documents and entries that were interleaved are told apart again. -/
theorem sort_interleave {i : Nat} (hdocuments : ∀ d ∈ documents, Workflow.isRefused d = false)
    (hothers : ∀ e ∈ others, Workflow.isRefused e.2 = true) (hascending : Ascending others)
    (hbound : ∀ e ∈ others, i ≤ e.1) :
    Snapshot.sort i (interleave i documents others) =
      (documents.filterMap (fun d => (Workflow.check d).toOption), landed (i + documents.length) others) := by
  fun_induction interleave i documents others with
  | case1 i documents => exact sort_documents i hdocuments
  | case2 i p v others ih =>
      have hle : i ≤ p := hbound (p, v) List.mem_cons_self
      have hnext := ih hdocuments (fun e he => hothers e (List.mem_cons_of_mem _ he)) hascending.tail
        (hascending.succ_le hle)
      obtain ⟨n, hn⟩ := Workflow.exists_refused (hothers _ List.mem_cons_self)
      have hmin : min p i = i := Nat.min_eq_right hle
      simp only [Snapshot.sort, hn, hnext, landed, List.length_nil, Nat.add_zero, hmin]
  | case3 i d documents p v others hp ih =>
      have hle : i ≤ p := hbound (p, v) List.mem_cons_self
      have hnext := ih hdocuments (fun e he => hothers e (List.mem_cons_of_mem _ he)) hascending.tail
        (hascending.succ_le hle)
      obtain ⟨n, hn⟩ := Workflow.exists_refused (hothers _ List.mem_cons_self)
      have hmin : min p (i + (d :: documents).length) = i := by omega
      have hend : i + 1 + (d :: documents).length = i + (d :: documents).length + 1 := by omega
      simp only [Snapshot.sort, hn, hnext, landed, hmin, hend]
  | case4 i d documents p v others hp ih =>
      have hnext := ih (fun d hd => hdocuments d (List.mem_cons_of_mem _ hd)) hothers hascending
        (hascending.le (Nat.lt_of_not_le hp))
      obtain ⟨w, hw⟩ := Workflow.exists_accepted (hdocuments d List.mem_cons_self)
      have hend : i + 1 + documents.length = i + (d :: documents).length := by
        rw [List.length_cons]
        omega
      simp only [Snapshot.sort, hw, hnext, hend, List.filterMap_cons, Check.toOption]

/-- Documents and entries that were placed among them are told apart again. -/
theorem sort_place (hdocuments : ∀ d ∈ documents, Workflow.isRefused d = false)
    (hothers : ∀ e ∈ others, Workflow.isRefused e.2 = true) (hascending : Ascending others) :
    Snapshot.sort 0 (place documents others) =
      (documents.filterMap (fun d => (Workflow.check d).toOption), landed documents.length others) := by
  rw [place_eq_interleave documents hascending,
    sort_interleave hdocuments hothers hascending fun e _ => Nat.zero_le e.1, Nat.zero_add]

end Read

end Catalog

end ChatFlow
