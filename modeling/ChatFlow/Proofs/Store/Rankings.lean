import ChatFlow.Proofs.Double.Largest
import ChatFlow.Proofs.Store.Contents
import ChatFlow.Store.Ranking
import Mathlib

/-!
# What a ranking shows

A ranking has one entry for each user that holds a number under the key: with the number in its short form, sorted
by value, and with equal values in the order of their rows. Its beginning and the rank of a user are read off the
same list. Values are compared by their exact size, also an integer with a double.

* `Value.size`: the exact size of a score.
* `scoreLt_iff`: scores are compared by their size.
* `Store.HasScore`: what a user is ranked with.
* `Store.IsRanking`: a ranking of all users that hold a number.
* `Store.isRanking_of_ranking`: sorting makes one of the rows.
* `Store.exists_ranking_iff`: there is one under a key exactly if no user holds an integer beyond all doubles there.
* `Store.ranking_agrees`: the ranking, its beginning, the ranks and the number of users.
-/

namespace ChatFlow

/-! ## The size of a score -/

/-- A size: a number of quanta, or beyond all of them. -/
abbrev Size := WithBot (WithTop Int)

namespace Size

/-- The size of a number of quanta. -/
def ofQuanta (q : Int) : Size := (q : WithTop Int)

theorem ofQuanta_lt_top (q : Int) : ofQuanta q < ⊤ := WithBot.coe_lt_coe.mpr (WithTop.coe_lt_top q)

theorem bot_lt_ofQuanta (q : Int) : ⊥ < ofQuanta q := WithBot.bot_lt_coe _

theorem ofQuanta_lt_ofQuanta {q r : Int} : ofQuanta q < ofQuanta r ↔ q < r :=
  WithBot.coe_lt_coe.trans WithTop.coe_lt_coe

end Size

/-- The size of a double; of NaN it means nothing. -/
def Double.size : Double → Size
  | .nan => ⊥
  | .infinite negative => if negative then ⊥ else ⊤
  | x@(.finite ..) => .ofQuanta (x.quanta?.getD 0)

namespace Value

/-- The exact size of a number; of anything else it means nothing. -/
def size : Value → Size
  | .int n => .ofQuanta (n * Double.unit)
  | .float x => x.size
  | _ => ⊥

/-- An integer, or a double that is not NaN. -/
def IsScore : Value → Prop
  | .int _ => True
  | .float x => x.isNaN = false
  | _ => False

end Value

namespace Double

variable {x y : Double} {n : Int}

theorem lt_iff_size (hx : x.isNaN = false) (hy : y.isNaN = false) : x.lt y = true ↔ x.size < y.size := by
  cases x with
  | nan => cases hx
  | infinite s =>
      cases y with
      | nan => cases hy
      | infinite t => cases s <;> cases t <;> simp [lt, size]
      | finite t n =>
          cases s with
          | true => exact iff_of_true rfl (Size.bot_lt_ofQuanta _)
          | false => exact iff_of_false nofun not_top_lt
  | finite s m =>
      cases y with
      | nan => cases hy
      | infinite t =>
          cases t with
          | true => exact iff_of_false nofun not_lt_bot
          | false => exact iff_of_true rfl (Size.ofQuanta_lt_top _)
      | finite t n => exact decide_eq_true_iff.trans Size.ofQuanta_lt_ofQuanta.symm

theorem compareInt?_eq_lt_iff (hx : x.isNaN = false) :
    (x.compareInt? n == some .lt) = true ↔ x.size < (Value.int n).size := by
  rw [beq_iff_eq]
  cases x with
  | nan => cases hx
  | infinite s =>
      cases s with
      | true => exact iff_of_true rfl (Size.bot_lt_ofQuanta _)
      | false => exact iff_of_false nofun not_top_lt
  | finite s m => exact Option.some_inj.trans (compare_lt_iff_lt.trans Size.ofQuanta_lt_ofQuanta.symm)

theorem compareInt?_eq_gt_iff (hx : x.isNaN = false) :
    (x.compareInt? n == some .gt) = true ↔ (Value.int n).size < x.size := by
  rw [beq_iff_eq]
  cases x with
  | nan => cases hx
  | infinite s =>
      cases s with
      | true => exact iff_of_false nofun not_lt_bot
      | false => exact iff_of_true rfl (Size.ofQuanta_lt_top _)
  | finite s m => exact Option.some_inj.trans (compare_gt_iff_gt.trans Size.ofQuanta_lt_ofQuanta.symm)

theorem isNaN_ofDecimal (negative : Bool) (digits : Nat) (exponent : Int) :
    (ofDecimal negative digits exponent).isNaN = false := by
  have hquanta : ∀ num den, (ofQuanta negative num den).isNaN = false := by
    intro num den
    unfold ofQuanta
    split
    · rfl
    · rfl
  unfold ofDecimal
  split
  · rfl
  · dsimp only
    split
    · rfl
    · split
      · rfl
      · exact hquanta _ _

/-- The short form of a number is a score. -/
theorem isScore_rounded (hx : x.isNaN = false) : x.rounded.IsScore := by
  unfold rounded
  split
  · trivial
  · cases x with
    | nan => cases hx
    | infinite s => rfl
    | finite s m => exact isNaN_ofDecimal _ _ _

end Double

/-! ## Two entries of a list -/

theorem pair_sublist_asymm {α : Type} {l : List α} {a b : α} (hl : l.Nodup) (h : [a, b].Sublist l) :
    ¬ [b, a].Sublist l := by
  induction l with
  | nil => cases h
  | cons x l ih =>
      obtain ⟨hx, hl⟩ := List.nodup_cons.mp hl
      have hlater : ∀ {c d : α}, [c, d].Sublist (x :: l) → [c, d].Sublist l ∨ c = x ∧ d ∈ l := by
        intro c d h
        rcases List.sublist_cons_iff.mp h with hrest | ⟨r, heq, hrest⟩
        · exact .inl hrest
        · cases heq
          exact .inr ⟨rfl, List.singleton_sublist.mp hrest⟩
      intro hswapped
      rcases hlater h with hrest | ⟨rfl, hb⟩
      · rcases hlater hswapped with hswapped | ⟨rfl, ha⟩
        · exact ih hl hrest hswapped
        · exact hx (hrest.subset (by simp))
      · rcases hlater hswapped with hswapped | ⟨rfl, ha⟩
        · exact hx (hswapped.subset (by simp))
        · exact hx ha

/-- Only how entries of the list compare makes a difference. -/
theorem mergeSort_congr {α : Type} {l : List α} {le other : α → α → Bool}
    (h : ∀ a ∈ l, ∀ b ∈ l, le a b = other a b) : l.mergeSort le = l.mergeSort other := by
  have hmap := List.map_mergeSort (s := other) (f := id) h
  rw [List.map_id, List.map_id] at hmap
  exact hmap

/-- Sorting orders entries by their size, and entries of one size stay in the order in which they were. -/
theorem pairwise_mergeSort_of_size {α β : Type} [LinearOrder β] (size : α → β) {l : List α} (hl : l.Nodup)
    {before : α → α → Prop} (hbefore : l.Pairwise before) :
    (l.mergeSort fun a b => decide (size a ≤ size b)).Pairwise
      fun a b => size a < size b ∨ size a = size b ∧ before a b := by
  have htrans : ∀ a b c, decide (size a ≤ size b) = true → decide (size b ≤ size c) = true →
      decide (size a ≤ size c) = true := by
    intro a b c hab hbc
    exact decide_eq_true ((of_decide_eq_true hab).trans (of_decide_eq_true hbc))
  have htotal : ∀ a b, (decide (size a ≤ size b) || decide (size b ≤ size a)) = true := by
    intro a b
    rw [Bool.or_eq_true, decide_eq_true_eq, decide_eq_true_eq]
    exact le_total _ _
  have hperm := List.mergeSort_perm l fun a b => decide (size a ≤ size b)
  have hsorted := List.pairwise_mergeSort htrans htotal l
  rw [List.pairwise_iff_forall_sublist] at hsorted hbefore ⊢
  intro a b hab
  rcases lt_or_eq_of_le (of_decide_eq_true (hsorted hab)) with hlt | heq
  · exact .inl hlt
  · refine .inr ⟨heq, ?_⟩
    -- entries of one size that stood the other way round would have stayed so
    have hne : a ≠ b := by
      rintro rfl
      exact List.nodup_iff_sublist.mp (hperm.nodup_iff.mpr hl) a hab
    have hmem : a ∈ l ∧ b ∈ l := ⟨hperm.subset (hab.subset (by simp)), hperm.subset (hab.subset (by simp))⟩
    have hswapped : ¬ [b, a].Sublist l := by
      intro hba
      have hstay := List.pair_sublist_mergeSort htrans htotal (decide_eq_true heq.ge) hba
      exact pair_sublist_asymm (hperm.nodup_iff.mpr hl) hab hstay
    have : Std.Symm fun a b : α => [a, b].Sublist l ∨ [b, a].Sublist l := ⟨fun _ _ => Or.symm⟩
    have heither : l.Pairwise fun a b => [a, b].Sublist l ∨ [b, a].Sublist l :=
      List.pairwise_iff_forall_sublist.mpr .inl
    exact hbefore ((heither.forall hmem.1 hmem.2 hne).resolve_right hswapped)

namespace Store

variable {s : Store} {key id : Text} {ascending : Bool} {v w : Value} {a b : Text × Value} {t : Text} {row : Row}
  {rows : List Row} {ranked holders : List (Text × Value)} {p q : Place}

/-! ## Scores -/

/-- Scores are compared by their size. -/
theorem scoreLt_iff (hv : v.IsScore) (hw : w.IsScore) : scoreLt v w = true ↔ v.size < w.size := by
  cases v with
  | int m =>
      cases w with
      | int n =>
          have hunit : (0 : Int) < Double.unit := Int.natCast_pos.mpr Double.unit_pos
          have hless : m < n ↔ m * Double.unit < n * Double.unit := (Int.mul_lt_mul_right hunit).symm
          exact decide_eq_true_iff.trans (hless.trans Size.ofQuanta_lt_ofQuanta.symm)
      | float y => exact Double.compareInt?_eq_gt_iff hw
      | _ => cases hw
  | float x =>
      cases w with
      | int n => exact Double.compareInt?_eq_lt_iff hv
      | float y => exact Double.lt_iff_size hv hw
      | _ => cases hw
  | _ => cases hv

/-- A text is worth what its value is worth as a number; null is no number. -/
theorem score?_eq (t : Text) :
    score? t = ((valueOfText t).toDouble .nan).map fun x => if x.isNaN then none else some x.rounded := by
  unfold score?
  split
  · next hnull => rw [hnull]; rfl
  · rfl

theorem score?_eq_some_iff :
    score? t = .ok (some v) ↔ ∃ x, (valueOfText t).toDouble .nan = .ok x ∧ x.isNaN = false ∧ v = x.rounded := by
  rw [score?_eq]
  cases (valueOfText t).toDouble .nan with
  | error fault => simp [Except.map]
  | ok x =>
      constructor
      · intro h
        cases hx : x.isNaN with
        | true => simp [Except.map, hx] at h
        | false =>
            simp only [Except.map, hx, Bool.false_eq_true, if_false, Except.ok.injEq, Option.some_inj] at h
            exact ⟨x, rfl, hx, h.symm⟩
      · rintro ⟨y, hy, hnumber, rfl⟩
        cases hy
        simp [Except.map, hnumber]

/-- The entry of a row in a ranking, if its user holds a number under the key. -/
def scored? (key : Text) (row : Row) : Option (Text × Value) :=
  match row.owner with
  | .user id => if row.key = key then (score? row.text).toOption.join.map (Prod.mk id) else none
  | .shared => none

theorem scored?_eq_some_iff :
    scored? key row = some (id, v) ↔ row.place = (.user id, key) ∧ score? row.text = .ok (some v) := by
  obtain ⟨owner, k, text⟩ := row
  unfold scored? Row.place
  cases owner with
  | shared => simp
  | user user =>
      by_cases hk : k = key
      · rcases hscore : score? text with fault | _ | score
        · simp [Except.toOption]
        · simp [Except.toOption]
        · simp [hk, Except.toOption]
      · simp [hk]

/-- Can every value under the key be taken as a number or left out? -/
def Scored (key : Text) (rows : List Row) : Prop :=
  ∀ row ∈ rows, ∀ id, row.place = (.user id, key) → ∃ score, score? row.text = .ok score

/-- The users with a score are found if every value under the key can be taken as a number or left out. -/
theorem scores_eq_ok_iff :
    scores key rows = .ok holders ↔ Scored key rows ∧ holders = rows.filterMap (scored? key) := by
  induction rows generalizing holders with
  | nil => simp [scores, Scored, eq_comm]
  | cons row rows ih =>
      have hcons : Scored key (row :: rows) ↔
          (∀ id, row.place = (.user id, key) → ∃ score, score? row.text = .ok score) ∧ Scored key rows :=
        List.forall_mem_cons
      have hskip : (∀ id, row.place ≠ (.user id, key)) → scores key (row :: rows) = scores key rows →
          (scores key (row :: rows) = .ok holders ↔
            Scored key (row :: rows) ∧ holders = (row :: rows).filterMap (scored? key)) := by
        intro hplace hscores
        have hnone : scored? key row = none := by
          by_contra hsome
          obtain ⟨⟨id, v⟩, hentry⟩ := Option.ne_none_iff_exists'.mp hsome
          exact hplace id (scored?_eq_some_iff.mp hentry).1
        rw [hscores, ih, hcons, List.filterMap_cons_none hnone]
        simp [hplace]
      obtain ⟨owner, k, text⟩ := row
      cases owner with
      | shared => exact hskip (by simp [Row.place]) rfl
      | user id =>
          by_cases hk : k = key
          · subst hk
            rw [hcons, scores, if_pos rfl]
            rcases hscore : score? text with fault | score
            · simp [Row.place, bind, Except.bind]
            · rcases hothers : scores k rows with fault | others
              · have hscored : ¬ Scored k rows := by
                  intro hscored
                  rw [ih.mpr ⟨hscored, rfl⟩] at hothers
                  cases hothers
                simp [hscored, bind, Except.bind]
              · rw [hothers] at ih
                obtain ⟨hscored, rfl⟩ := ih.mp rfl
                cases score with
                | none => simp [Row.place, hscore, hscored, bind, Except.bind, scored?, Except.toOption, eq_comm]
                | some v => simp [Row.place, hscore, hscored, bind, Except.bind, scored?, Except.toOption, eq_comm]
          · exact hskip (by simp [Row.place, hk]) (by rw [scores, if_neg hk])

/-! ## The ranking -/

/-- The user holds a number under the key, and this is its short form. -/
def HasScore (s : Store) (key id : Text) (v : Value) : Prop :=
  ∃ held x, s.contents (.user id, key) = some held ∧ held.toDouble .nan = .ok x ∧ x.isNaN = false ∧ v = x.rounded

/-- The first place has its row before the second one. -/
def RowBefore (s : Store) (p q : Place) : Prop := [p, q].Sublist s.places

/-- An entry stands before another one: by value in the asked direction, by their rows if the values are equal. -/
def Precedes (s : Store) (key : Text) (ascending : Bool) (a b : Text × Value) : Prop :=
  (if ascending then a.2.size < b.2.size else b.2.size < a.2.size) ∨
    a.2.size = b.2.size ∧ s.RowBefore (.user a.1, key) (.user b.1, key)

/-- A list of all users that hold a number under the key, each of them once, in order. -/
structure IsRanking (s : Store) (key : Text) (ascending : Bool) (ranked : List (Text × Value)) : Prop where
  mem_iff : ∀ id v, (id, v) ∈ ranked ↔ s.HasScore key id v
  nodup : (ranked.map Prod.fst).Nodup
  sorted : ranked.Pairwise (s.Precedes key ascending)

/-- Of different places, each holds the value of its row. -/
theorem contents_eq_some_iff (hnodup : s.places.Nodup) :
    s.contents p = some v ↔ ∃ row ∈ s.rows, row.place = p ∧ valueOfText row.text = v := by
  rw [contents, textOf, Option.map_map, Option.map_eq_some_iff]
  constructor
  · rintro ⟨row, hfound, hvalue⟩
    exact ⟨row, List.mem_of_find?_eq_some hfound, isAt_iff.mp (List.find?_some hfound), hvalue⟩
  · rintro ⟨row, hrow, hplace, hvalue⟩
    cases hfound : s.rows.find? (isAt p.1 p.2) with
    | none => exact absurd (isAt_iff.mpr hplace) (List.find?_eq_none.mp hfound row hrow)
    | some other =>
        have hother : other.place = p := isAt_iff.mp (List.find?_some hfound)
        have hsame : other = row :=
          List.inj_on_of_nodup_map hnodup (List.mem_of_find?_eq_some hfound) hrow (hother.trans hplace.symm)
        exact ⟨other, rfl, by rw [hsame]; exact hvalue⟩

theorem mem_entries_iff (hnodup : s.places.Nodup) :
    (id, v) ∈ s.rows.filterMap (scored? key) ↔ s.HasScore key id v := by
  rw [List.mem_filterMap]
  constructor
  · rintro ⟨row, hrow, hentry⟩
    obtain ⟨hplace, hscore⟩ := scored?_eq_some_iff.mp hentry
    obtain ⟨x, hx, hnumber, rfl⟩ := score?_eq_some_iff.mp hscore
    exact ⟨_, x, (contents_eq_some_iff hnodup).mpr ⟨row, hrow, hplace, rfl⟩, hx, hnumber, rfl⟩
  · rintro ⟨held, x, hheld, hx, hnumber, rfl⟩
    obtain ⟨row, hrow, hplace, rfl⟩ := (contents_eq_some_iff hnodup).mp hheld
    exact ⟨row, hrow, scored?_eq_some_iff.mpr ⟨hplace, score?_eq_some_iff.mpr ⟨x, hx, hnumber, rfl⟩⟩⟩

/-- The entries stand in the order of their rows. -/
theorem pairwise_rowBefore (s : Store) (key : Text) :
    (s.rows.filterMap (scored? key)).Pairwise fun a b => s.RowBefore (.user a.1, key) (.user b.1, key) := by
  rw [List.pairwise_filterMap, List.pairwise_iff_forall_sublist]
  intro first second hrows a ha b hb
  have hplaces : [first.place, second.place].Sublist s.places := hrows.map Row.place
  rw [(scored?_eq_some_iff.mp ha).1, (scored?_eq_some_iff.mp hb).1] at hplaces
  exact hplaces

theorem nodup_entries (hnodup : s.places.Nodup) : ((s.rows.filterMap (scored? key)).map Prod.fst).Nodup := by
  rw [List.Nodup, List.pairwise_map]
  apply (pairwise_rowBefore s key).imp
  intro a b hbefore heq
  rw [RowBefore, heq] at hbefore
  exact List.nodup_iff_sublist.mp hnodup _ hbefore

theorem ranking_eq_ok_iff :
    s.ranking key ascending = .ok ranked ↔
      s.canFind .shared key = .ok () ∧ Scored key s.rows ∧
        ranked = (s.rows.filterMap (scored? key)).mergeSort fun a b =>
          if ascending then !scoreLt b.2 a.2 else !scoreLt a.2 b.2 := by
  unfold ranking
  rcases s.canFind .shared key with fault | _
  · simp [bind, Except.bind]
  · rcases hscores : scores key s.rows with fault | holders
    · have hscored : ¬ Scored key s.rows := by
        intro hscored
        rw [scores_eq_ok_iff.mpr ⟨hscored, rfl⟩] at hscores
        cases hscores
      simp [bind, Except.bind, hscored]
    · obtain ⟨hscored, rfl⟩ := scores_eq_ok_iff.mp hscores
      simp [bind, Except.bind, hscored, eq_comm]

theorem isScore_of_mem (h : a ∈ rows.filterMap (scored? key)) : a.2.IsScore := by
  obtain ⟨row, -, hrow⟩ := List.mem_filterMap.mp h
  obtain ⟨id, v⟩ := a
  obtain ⟨x, -, hnumber, rfl⟩ := score?_eq_some_iff.mp (scored?_eq_some_iff.mp hrow).2
  exact Double.isScore_rounded hnumber

/-- Entries are sorted by the sizes of their scores, in the asked direction. -/
theorem sorted_entries (hnodup : s.places.Nodup) (ascending : Bool) :
    ((s.rows.filterMap (scored? key)).mergeSort fun a b =>
      if ascending then !scoreLt b.2 a.2 else !scoreLt a.2 b.2).Pairwise (s.Precedes key ascending) := by
  have hentries : (s.rows.filterMap (scored? key)).Nodup := (nodup_entries hnodup).of_map
  have hless : ∀ a ∈ s.rows.filterMap (scored? key), ∀ b ∈ s.rows.filterMap (scored? key),
      (!scoreLt b.2 a.2) = decide (a.2.size ≤ b.2.size) := by
    intro a ha b hb
    rw [Bool.eq_iff_iff, Bool.not_eq_true', Bool.eq_false_iff, decide_eq_true_eq, ← not_lt, Ne,
      scoreLt_iff (isScore_of_mem hb) (isScore_of_mem ha)]
  cases ascending with
  | true =>
      have hsorted := pairwise_mergeSort_of_size (fun a : Text × Value => a.2.size) hentries (pairwise_rowBefore s key)
      rw [← mergeSort_congr hless] at hsorted
      exact hsorted
  | false =>
      -- from the greatest value on, the sizes are ordered the other way round, but not the rows
      have hsorted := pairwise_mergeSort_of_size (fun a : Text × Value => OrderDual.toDual a.2.size) hentries
        (pairwise_rowBefore s key)
      have hsame : ((s.rows.filterMap (scored? key)).mergeSort fun a b => !scoreLt a.2 b.2) =
          (s.rows.filterMap (scored? key)).mergeSort fun a b =>
            decide (OrderDual.toDual a.2.size ≤ OrderDual.toDual b.2.size) :=
        mergeSort_congr fun a ha b hb => hless b hb a ha
      rw [← hsame] at hsorted
      exact hsorted.imp fun h => h.imp_right fun h => ⟨OrderDual.toDual_inj.mp h.1, h.2⟩

/-- Sorting the entries of the rows makes a ranking of them. -/
theorem isRanking_of_ranking (hnodup : s.places.Nodup) (h : s.ranking key ascending = .ok ranked) :
    s.IsRanking key ascending ranked ∧ ranked.Perm (s.rows.filterMap (scored? key)) := by
  obtain ⟨-, -, rfl⟩ := ranking_eq_ok_iff.mp h
  have hperm := List.mergeSort_perm (s.rows.filterMap (scored? key)) fun a b =>
    if ascending then !scoreLt b.2 a.2 else !scoreLt a.2 b.2
  refine ⟨⟨?_, ?_, sorted_entries hnodup ascending⟩, hperm⟩
  · intro id v
    rw [hperm.mem_iff, mem_entries_iff hnodup]
  · exact (hperm.map Prod.fst).nodup_iff.mpr (nodup_entries hnodup)

/-! ## Beginning, ranks and number of users -/

theorem rankOf_eq (h : s.ranking key ascending = .ok ranked) (id : Text) :
    ∃ rank, s.rankOf id key ascending = .ok rank ∧ rank.total = ranked.length ∧
      (0 < rank.place ↔ ∃ v, (id, v) ∈ ranked) ∧
      (0 < rank.place → ranked[rank.place - 1]? = some (id, rank.score)) := by
  have hmem : (∃ v, (id, v) ∈ ranked) ↔ ∃ a ∈ ranked, a.1 = id := by
    constructor
    · rintro ⟨v, hv⟩
      exact ⟨_, hv, rfl⟩
    · rintro ⟨⟨_, v⟩, hv, rfl⟩
      exact ⟨v, hv⟩
  rw [rankOf, h, hmem]
  simp only [bind, Except.bind]
  cases hplace : ranked.findIdx? (·.1 = id) with
  | none =>
      refine ⟨_, rfl, rfl, ⟨fun hpos => absurd hpos (Nat.lt_irrefl 0), ?_⟩, fun hpos => absurd hpos (Nat.lt_irrefl 0)⟩
      rintro ⟨a, ha, hid⟩
      exact absurd hid (of_decide_eq_false (List.findIdx?_eq_none_iff.mp hplace a ha))
  | some i =>
      obtain ⟨hi, hid, -⟩ := List.findIdx?_eq_some_iff_getElem.mp hplace
      have hid := of_decide_eq_true hid
      refine ⟨_, rfl, rfl, ⟨fun _ => ⟨_, List.getElem_mem hi, hid⟩, fun _ => Nat.succ_pos i⟩, fun _ => ?_⟩
      change ranked[i]? = some (id, ((ranked[i]?).map Prod.snd).getD .null)
      rw [List.getElem?_eq_getElem hi, ← hid]
      rfl

/-- Nobody is ranked that does not count as a user with the key. -/
theorem exists_countHolders (hnodup : s.places.Nodup) (h : s.ranking key ascending = .ok ranked) :
    ∃ n, s.countHolders key = .ok n ∧ ranked.length ≤ n := by
  obtain ⟨hfind, -, -⟩ := ranking_eq_ok_iff.mp h
  rw [countHolders, hfind]
  refine ⟨_, rfl, ?_⟩
  rw [(isRanking_of_ranking hnodup h).2.length_eq, List.length_filterMap_eq_countP]
  apply List.countP_mono_left
  intro row _ hsome
  obtain ⟨⟨id, v⟩, hentry⟩ := Option.isSome_iff_exists.mp hsome
  obtain ⟨hplace, -⟩ := scored?_eq_some_iff.mp hentry
  obtain ⟨owner, k, text⟩ := row
  cases hplace
  simp

/-! ## Whether there is a ranking -/

/-- The key can be encoded, and no user holds an integer beyond all doubles under it. -/
def Rankable (s : Store) (key : Text) : Prop :=
  key.isWellFormed = true ∧ ∀ id n, s.contents (.user id, key) = some (.int n) → n.natAbs < Double.beyond

/-- Only an integer beyond all doubles cannot be taken as a number or left out. -/
theorem exists_score?_iff : (∃ score, score? t = .ok score) ↔ ∀ n, valueOfText t = .int n → n.natAbs < Double.beyond := by
  rw [score?_eq]
  cases valueOfText t with
  | int n =>
      rw [Value.toDouble, doubleOfInt_eq]
      by_cases hsmall : n.natAbs < Double.beyond
      · simp [hsmall, Except.map]
      · simp [hsmall, Except.map]
  | _ => simp [Value.toDouble, Except.map]

theorem scored_iff (hnodup : s.places.Nodup) :
    Scored key s.rows ↔ ∀ id n, s.contents (.user id, key) = some (.int n) → n.natAbs < Double.beyond := by
  constructor
  · intro hscored id n hheld
    obtain ⟨row, hrow, hplace, hvalue⟩ := (contents_eq_some_iff hnodup).mp hheld
    exact exists_score?_iff.mp (hscored row hrow id hplace) n hvalue
  · intro hsmall row hrow id hplace
    apply exists_score?_iff.mpr
    intro n hvalue
    exact hsmall id n ((contents_eq_some_iff hnodup).mpr ⟨row, hrow, hplace, hvalue⟩)

theorem canFind_shared_iff (hintact : s.intact = true) : s.canFind .shared key = .ok () ↔ key.isWellFormed = true := by
  cases hkey : key.isWellFormed with
  | true => simp [canFind, hkey, hintact]
  | false => simp [canFind, hkey]

theorem exists_ranking_iff (hintact : s.intact = true) (hnodup : s.places.Nodup) (ascending : Bool) :
    (∃ ranked, s.ranking key ascending = .ok ranked) ↔ s.Rankable key := by
  rw [Rankable, ← canFind_shared_iff hintact, ← scored_iff hnodup]
  simp [ranking_eq_ok_iff]

theorem exists_leaderboard_iff (limit : Int) :
    (∃ entries, s.leaderboard key limit ascending = .ok entries) ↔ ∃ ranked, s.ranking key ascending = .ok ranked := by
  rw [leaderboard]
  cases s.ranking key ascending with
  | error fault => simp [Except.map]
  | ok ranked => simp [Except.map]

theorem exists_rankOf_iff (id : Text) :
    (∃ rank, s.rankOf id key ascending = .ok rank) ↔ ∃ ranked, s.ranking key ascending = .ok ranked := by
  constructor
  · rintro ⟨rank, hrank⟩
    rw [rankOf] at hrank
    cases hranking : s.ranking key ascending with
    | error fault =>
        rw [hranking] at hrank
        cases hrank
    | ok ranked => exact ⟨ranked, rfl⟩
  · rintro ⟨ranked, hranked⟩
    obtain ⟨rank, hrank, -⟩ := rankOf_eq hranked id
    exact ⟨rank, hrank⟩

theorem exists_countHolders_iff (hintact : s.intact = true) :
    (∃ n, s.countHolders key = .ok n) ↔ key.isWellFormed = true := by
  rw [← canFind_shared_iff hintact, countHolders]
  cases s.canFind .shared key with
  | error fault => simp [bind, Except.bind]
  | ok _ => simp [bind, Except.bind]

/-! ## What a ranking shows -/

/-- Whenever a store has a ranking under a key: the users in it are those that hold a number there, each of them once
and with the short form of the number, by value in the asked direction and by their rows if the values are equal. A
leaderboard is its beginning of at most the asked length, which is nothing for a negative one. The rank of a user is
positive exactly if the user is in it, and says where and with which value; the total is its length. As many users
or more hold anything under the key. In a store that was empty at first, users of equal values stand in the order in
which they came to hold one. -/
theorem ranking_agrees (hnodup : s.places.Nodup) (h : s.ranking key ascending = .ok ranked) :
    s.IsRanking key ascending ranked ∧
      (∀ limit, s.leaderboard key limit ascending = .ok (ranked.take (max 0 limit).toNat)) ∧
      (∀ id, ∃ rank, s.rankOf id key ascending = .ok rank ∧ rank.total = ranked.length ∧
        (0 < rank.place ↔ ∃ v, (id, v) ∈ ranked) ∧
        (0 < rank.place → ranked[rank.place - 1]? = some (id, rank.score))) ∧
      (∃ n, s.countHolders key = .ok n ∧ ranked.length ≤ n) ∧
      ∀ changes, (∀ c ∈ changes, Change.Writable c) → s = afterChanges changes empty →
        ranked.Pairwise fun a b => a.2.size = b.2.size →
          HeldBefore changes (.user a.1, key) (.user b.1, key) := by
  have hranking := (isRanking_of_ranking hnodup h).1
  refine ⟨hranking, ?_, rankOf_eq h, exists_countHolders hnodup h, ?_⟩
  · intro limit
    have hlimit : (max 0 limit).toNat = limit.toNat := by omega
    rw [leaderboard, h, hlimit]
    rfl
  · rintro changes hchanges rfl
    have hplaces := (pairwise_heldBefore hchanges).2
    rw [List.pairwise_iff_forall_sublist] at hplaces
    apply hranking.sorted.imp
    rintro a b (hvalue | ⟨-, hrows⟩) heq
    · cases ascending with
      | true => exact absurd heq hvalue.ne
      | false => exact absurd heq hvalue.ne'
    · exact hplaces hrows

/-- A number that is rounded to the next one's value, a text that writes a number, and what is in no ranking: another
text, null, a shared value, and the value of another key. -/
def sampleHolders : List Change :=
  [.write (.user "a", "k") (.float (.ofRatio 999 1000)), .write (.user "b", "k") (.int 1),
    .write (.user "c", "k") (.text "2.5"), .write (.user "d", "k") (.text "x"), .write (.user "e", "k") .null,
    .write (.shared, "k") (.int 9), .write (.user "f", "j") (.int 7)]

theorem ranking_agrees_of_sample :
    let s := afterChanges sampleHolders empty
    let down : List (Text × Value) := [("c", .float (.ofRatio 5 2)), ("a", .float 1), ("b", .int 1)]
    let up : List (Text × Value) := [("a", .float 1), ("b", .int 1), ("c", .float (.ofRatio 5 2))]
    s.places.Nodup ∧ s.ranking "k" false = .ok down ∧ s.ranking "k" true = .ok up ∧
      s.IsRanking "k" false down ∧ s.IsRanking "k" true up ∧
      s.leaderboard "k" 2 false = .ok (down.take 2) ∧ s.leaderboard "k" (-1) true = .ok [] ∧
      ∃ rank, s.rankOf "e" "k" false = .ok rank ∧ rank.total = 3 := by
  intro s down up
  have hnodup : s.places.Nodup := by decide +kernel
  have hfind : s.canFind .shared "k" = .ok () := by decide +kernel
  have hscores : scores "k" s.rows = .ok up := by decide +kernel
  have htie : scoreLt (.float 1) (.int 1) = false ∧ scoreLt (.int 1) (.float 1) = false := by decide +kernel
  have hless : scoreLt (.float 1) (.float (.ofRatio 5 2)) = true ∧
      scoreLt (.float (.ofRatio 5 2)) (.float 1) = false ∧ scoreLt (.float (.ofRatio 5 2)) (.int 1) = false := by
    decide +kernel
  have hdown : s.ranking "k" false = .ok down := by
    rw [ranking, hfind, hscores]
    simp [up, down, bind, Except.bind, List.mergeSort, List.MergeSort.Internal.splitInTwo, htie, hless]
  have hup : s.ranking "k" true = .ok up := by
    rw [ranking, hfind, hscores]
    simp [up, bind, Except.bind, List.mergeSort, List.MergeSort.Internal.splitInTwo, htie, hless]
  obtain ⟨hdownwards, hbeginning, hranks, -, -⟩ := ranking_agrees hnodup hdown
  obtain ⟨hupwards, hnothing, -, -, -⟩ := ranking_agrees hnodup hup
  obtain ⟨rank, hrank, htotal, -⟩ := hranks "e"
  exact ⟨hnodup, hdown, hup, hdownwards, hupwards, hbeginning 2, hnothing (-1), rank, hrank, htotal⟩

end Store

end ChatFlow
