import ChatFlow.Proofs.Double.Sums
import ChatFlow.Proofs.Store.Contents
import ChatFlow.Store.Ranking

/-!
# Executions that share a store

Executions that run beside each other take turns, and each turn is one call of the store. An execution decides by what
its calls came to which one it makes next. Nothing is said of the order of the turns.

A place that is only ever added to counts what was added: the value with which the first call begins, and then every
amount once, in whatever order the turns came and whatever happened at other places. Amounts are taken as doubles, so
this is said of what they count for, which is the amount itself for integers of up to 53 bits.

* `Store.Call`, `Call.perform`: the calls and what they come to.
* `Store.Execution`, `Store.run`: executions that take turns.
* `Call.perform_elsewhere`: a call leaves other places as they are.
* `Store.counts_additions`: what a place holds that is only added to.
-/

namespace ChatFlow.Store

/-! ## Calls -/

/-- A call of the store. -/
inductive Call where
  | read (p : Place) (other : Value)
  | write (p : Place) (v : Value)
  | incr (p : Place) (amount start : Value)
  | remove (id key : Text)
  | leaderboard (key : Text) (limit : Int) (ascending : Bool)
  | rankOf (id key : Text) (ascending : Bool)
  | countHolders (key : Text)
deriving DecidableEq

deriving instance DecidableEq for Rank

/-- What a call that does not fail comes to. -/
inductive Reply where
  | value (v : Value)
  | changed (success : Bool)
  | ranked (entries : List (Text × Value))
  | rank (r : Rank)
  | count (n : Nat)
deriving DecidableEq

namespace Call

/-- What it comes to, and the store afterwards. A call that fails changes nothing. -/
def perform : Call → Store → Except Fault Reply × Store
  | read p other, s => ((s.read p.1 p.2 other).map .value, s)
  | write p v, s => (.ok (.changed (s.write p.1 p.2 v).1), (s.write p.1 p.2 v).2)
  | incr p amount start, s =>
    match s.incr p.1 p.2 amount start with
    | .ok (v, t) => (.ok (.value v), t)
    | .error fault => (.error fault, s)
  | remove id key, s =>
    match s.remove id key with
    | .ok (found, t) => (.ok (.changed found), t)
    | .error fault => (.error fault, s)
  | leaderboard key limit ascending, s => ((s.leaderboard key limit ascending).map .ranked, s)
  | rankOf id key ascending, s => ((s.rankOf id key ascending).map .rank, s)
  | countHolders key, s => ((s.countHolders key).map .count, s)

/-- The place that it may change. -/
def touched? : Call → Option Place
  | write p _ => some p
  | incr p _ _ => some p
  | remove id key => some (.user id, key)
  | _ => none

end Call

/-! ## Turns -/

/-- An execution: its next call, if there is one, by what its calls came to. -/
abbrev Execution := List (Except Fault Reply) → Option Call

/-- A call that was served. -/
structure Served where
  execution : Nat
  call : Call
  reply : Except Fault Reply

/-- The store and the calls that were served. -/
structure Turns where
  store : Store
  served : List Served

/-- What the calls of an execution came to. -/
def Turns.repliesTo (g : Turns) (i : Nat) : List (Except Fault Reply) :=
  (g.served.filter (·.execution = i)).map Served.reply

/-- A call of an execution is served. -/
def Turns.serve (g : Turns) (i : Nat) (c : Call) : Turns :=
  ⟨(c.perform g.store).2, g.served ++ [⟨i, c, (c.perform g.store).1⟩]⟩

/-- An execution takes a turn; one that is at its end lets it pass. -/
def turn (executions : Nat → Execution) (g : Turns) (i : Nat) : Turns :=
  match executions i (g.repliesTo i) with
  | none => g
  | some c => g.serve i c

/-- The executions take turns as they come. -/
def run (executions : Nat → Execution) (s : Store) (turns : List Nat) : Turns :=
  turns.foldl (turn executions) ⟨s, []⟩

/-- Something was added at a place. -/
structure Addition where
  amount : Value
  start : Value
  reply : Except Fault Reply

/-- What a call added at a place. -/
def Served.addition? (p : Place) (x : Served) : Option Addition :=
  match x.call with
  | .incr q amount start => if q = p then some ⟨amount, start, x.reply⟩ else none
  | _ => none

/-- What was added at a place, in order. -/
def Turns.additions (p : Place) (g : Turns) : List Addition := g.served.filterMap (Served.addition? p)

variable {s t : Store} {p q : Place} {v amount start : Value} {c : Call}

/-! ## Other places -/

theorem write_elsewhere (hq : q ≠ p) :
    (s.write q.1 q.2 v).2.contents p = s.contents p ∧ (s.write q.1 q.2 v).2.intact = s.intact := by
  have hput : ∀ text, (s.put q.1 q.2 text).contents p = s.contents p := by
    intro text
    rw [contents, textOf_put, if_neg]
    · rfl
    · rintro ⟨howner, hkey⟩
      exact hq (Prod.ext howner hkey)
  unfold write
  split
  · split
    · exact ⟨hput _, rfl⟩
    · exact ⟨rfl, rfl⟩
  · exact ⟨rfl, rfl⟩

/-- Adding writes what it gives. -/
theorem eq_write_of_incr (h : s.incr q.1 q.2 amount start = .ok (v, t)) : t = (s.write q.1 q.2 v).2 := by
  unfold incr at h
  rcases hread : s.read q.1 q.2 start with fault | current
  · rw [hread] at h
    cases h
  rcases hbase : current.toDouble .nan with fault | base
  · simp only [hread, hbase, bind, Except.bind] at h
    cases h
  rcases hamount : amount.exactDouble with fault | x
  · simp only [hread, hbase, hamount, bind, Except.bind] at h
    cases h
  · simp only [hread, hbase, hamount, bind, Except.bind] at h
    cases h
    rfl

theorem remove_elsewhere {id key : Text} {found : Bool} (hq : (Owner.user id, key) ≠ p)
    (h : s.remove id key = .ok (found, t)) : t.contents p = s.contents p ∧ t.intact = s.intact := by
  unfold remove at h
  split at h
  · cases h
    exact ⟨rfl, rfl⟩
  · cases h
  · cases h
    refine ⟨?_, rfl⟩
    exact (congrFun (contents_without s (.user id, key)) p).trans (Function.update_of_ne hq.symm _ _)

/-- A call leaves all places as they are but the one it is about, and the table where it is. -/
theorem Call.perform_elsewhere (hc : c.touched? ≠ some p) :
    (c.perform s).2.contents p = s.contents p ∧ (c.perform s).2.intact = s.intact := by
  cases c with
  | write q v => exact write_elsewhere fun heq => hc (congrArg some heq)
  | incr q amount start =>
      rw [perform]
      split
      · next v t hincr =>
          rw [eq_write_of_incr hincr]
          exact write_elsewhere fun heq => hc (congrArg some heq)
      · exact ⟨rfl, rfl⟩
  | remove id key =>
      rw [perform]
      split
      · next found t hremove => exact remove_elsewhere (fun heq => hc (congrArg some heq)) hremove
      · exact ⟨rfl, rfl⟩
  -- all others only look
  | read q other => exact ⟨rfl, rfl⟩
  | leaderboard key limit ascending => exact ⟨rfl, rfl⟩
  | rankOf id key ascending => exact ⟨rfl, rfl⟩
  | countHolders key => exact ⟨rfl, rfl⟩

/-! ## Adding -/

/-- To a whole number a whole one is added exactly, if a double is equal to the sum. -/
theorem plus_whole {a b : Int} (hv : v.start? = some a) (hamount : amount.amount? = some b)
    (hexact : Double.Exact (a + b)) : v.plus amount = .ok (.int (a + b)) := by
  unfold Value.start? at hv
  unfold Value.amount? at hamount
  unfold Value.plus
  rcases hbase : v.toDouble .nan with fault | base
  · rw [hbase] at hv
    cases hv
  rcases hx : amount.exactDouble with fault | x
  · rw [hx] at hamount
    cases hamount
  rw [hbase] at hv
  rw [hx] at hamount
  exact congrArg Except.ok (Double.rounded_of_whole? (Double.whole?_add hv hamount hexact))

/-- Adding gives the sum, and this is what the place holds then. -/
theorem Call.perform_incr {a b : Int} (hintact : s.intact = true) (hp : p.isEncodable = true)
    (hbase : (s.contents.valueOr p start).start? = some a) (hamount : amount.amount? = some b)
    (hexact : Double.Exact (a + b)) :
    ((incr p amount start).perform s).1 = .ok (.value (.int (a + b))) ∧
      ((incr p amount start).perform s).2.contents p = some (.int (a + b)) ∧
      ((incr p amount start).perform s).2.intact = true := by
  have hdocument : (Value.int (a + b)).IsDocument := .int hexact.not_integerTooLong
  have hperform : (incr p amount start).perform s =
      (.ok (.value (.int (a + b))), s.put p.1 p.2 (Json.text .line (.int (a + b)))) := by
    rw [perform, incr_eq hintact hp, plus_whole hbase hamount hexact, Except.map,
      write_eq hintact hp hdocument rfl]
  rw [hperform]
  refine ⟨rfl, ?_, hintact⟩
  exact (congrFun (contents_put s p hdocument) p).trans (Function.update_self ..)

/-! ## Runs -/

/-- What a place that is only added to has come to: every reply is the sum up to it, and the last one is held. -/
structure Counts (s : Store) (p : Place) (first : Int) (amounts : List Int) (g : Turns) : Prop where
  replies : (g.additions p).map Addition.reply =
    (List.range amounts.length).map fun n => .ok (.value (.int (first + (amounts.take (n + 1)).sum)))
  contents : g.store.contents p = if amounts = [] then s.contents p else some (.int (first + amounts.sum))
  intact : g.store.intact = true

/-- The amounts and the value to begin with, as far as they count. -/
structure Adds (p : Place) (first : Int) (amounts : List Int) (g : Turns) : Prop where
  /-- Nothing but adding changes the place. -/
  only : ∀ x ∈ g.served, x.call.touched? = some p → ∃ amount start, x.call = .incr p amount start
  amounts : (g.additions p).map (·.amount.amount?) = amounts.map some
  first : ∀ a ∈ (g.additions p).head?, a.start.start? = some first

/-- All sums, from the first amount on, have up to 53 bits. -/
def Small (first : Int) (amounts : List Int) : Prop :=
  ∀ n, 0 < n → n ≤ amounts.length → (first + (amounts.take n).sum).natAbs < 2 ^ 53

variable {executions : Nat → Execution} {first b : Int} {amounts : List Int} {g : Turns} {x : Served} {a : Addition}

theorem Small.of_concat (h : Small first (amounts ++ [b])) : Small first amounts := by
  intro n hpos hlength
  have htake : (amounts ++ [b]).take n = amounts.take n := List.take_append_of_le_length hlength
  rw [← htake]
  apply h n hpos
  rw [List.length_append]
  omega

/-- Where something has been added, the sum is a double. -/
theorem Small.exact (h : Small first amounts) (hne : amounts ≠ []) : Double.Exact (first + amounts.sum) := by
  have hsum := h amounts.length (List.length_pos_iff.mpr hne) (Nat.le_refl _)
  rw [List.take_length] at hsum
  exact Double.exact_of_natAbs_le (Nat.le_of_lt hsum)

/-- A call at another place adds nothing here. -/
theorem additions_elsewhere (hc : c.touched? ≠ some p) (i : Nat) : (g.serve i c).additions p = g.additions p := by
  have hnone : Served.addition? p ⟨i, c, (c.perform g.store).1⟩ = none := by
    unfold Served.addition?
    split
    · next q amount start hcall =>
        obtain rfl : c = .incr q amount start := hcall
        rw [if_neg]
        rintro rfl
        exact hc rfl
    · rfl
  rw [Turns.additions, Turns.serve, List.filterMap_append, List.filterMap_cons_none hnone, List.filterMap_nil,
    List.append_nil, Turns.additions]

theorem additions_incr (g : Turns) (i : Nat) (amount start : Value) : (g.serve i (.incr p amount start)).additions p =
    g.additions p ++ [⟨amount, start, ((Call.incr p amount start).perform g.store).1⟩] := by
  have hsome : Served.addition? p ⟨i, .incr p amount start, ((Call.incr p amount start).perform g.store).1⟩ =
      some ⟨amount, start, ((Call.incr p amount start).perform g.store).1⟩ := if_pos rfl
  rw [Turns.additions, Turns.serve, List.filterMap_append, List.filterMap_cons_some hsome, List.filterMap_nil,
    Turns.additions]

/-- A call at another place changes nothing here. -/
theorem Counts.elsewhere (h : Counts s p first amounts g) (hc : c.touched? ≠ some p) (i : Nat) :
    Counts s p first amounts (g.serve i c) where
  replies := by
    rw [additions_elsewhere hc]
    exact h.replies
  contents := (Call.perform_elsewhere hc).1.trans h.contents
  intact := (Call.perform_elsewhere hc).2.trans h.intact

/-- What is added next is counted. -/
theorem Counts.incr (h : Counts s p first amounts g) (hp : p.isEncodable = true)
    (hunset : s.contents p = none ∨ s.contents p = some .null) (hsmall : Small first (amounts ++ [b]))
    (hamount : amount.amount? = some b) (hstart : amounts = [] → start.start? = some first) (i : Nat) :
    Counts s p first (amounts ++ [b]) (g.serve i (.incr p amount start)) := by
  have hbase : (g.store.contents.valueOr p start).start? = some (first + amounts.sum) := by
    have hheld := h.contents
    by_cases hnil : amounts = []
    · -- the first call begins with its own value
      rw [if_pos hnil] at hheld
      rw [← hheld] at hunset
      have hvalue : g.store.contents.valueOr p start = start := by
        rcases hunset with hnone | hnull
        · rw [Contents.valueOr, hnone]
        · rw [Contents.valueOr, hnull]
      rw [hvalue, hstart hnil, hnil, List.sum_nil, Int.add_zero]
    · rw [if_neg hnil] at hheld
      rw [Contents.valueOr, hheld]
      exact Value.start?_int (hsmall.of_concat.exact hnil)
  have hne : amounts ++ [b] ≠ [] := List.append_ne_nil_of_right_ne_nil _ (List.cons_ne_nil b [])
  have hsum : first + (amounts ++ [b]).sum = first + amounts.sum + b := by
    rw [List.sum_append, List.sum_singleton, Int.add_assoc]
  have hexact := hsmall.exact hne
  rw [hsum] at hexact
  obtain ⟨hreply, hcontents, hintact⟩ := Call.perform_incr h.intact hp hbase hamount hexact
  refine ⟨?_, ?_, hintact⟩
  · rw [additions_incr, List.map_append, h.replies, List.map_singleton, hreply, List.length_append,
      List.length_singleton, List.range_succ, List.map_append]
    congr 1
    · apply List.map_congr_left
      intro n hn
      rw [List.take_append_of_le_length (List.mem_range.mp hn)]
    · rw [List.map_singleton, List.take_of_length_le (by rw [List.length_append, List.length_singleton]), hsum]
  · rw [if_neg hne, hsum]
    exact hcontents

/-- Whatever call is served, what was added before is counted, and so is what is added now. -/
theorem counts_serve {i : Nat} (hp : p.isEncodable = true) (hunset : s.contents p = none ∨ s.contents p = some .null)
    (hadds : Adds p first amounts (g.serve i c)) (hsmall : Small first amounts)
    (ih : ∀ amounts, Adds p first amounts g → Small first amounts → Counts s p first amounts g) :
    Counts s p first amounts (g.serve i c) := by
  obtain ⟨honly, hamounts, hfirst⟩ := hadds
  have hearlierOnly : ∀ x ∈ g.served, x.call.touched? = some p → ∃ amount start, x.call = .incr p amount start :=
    fun x hx => honly x (List.mem_append_left _ hx)
  -- either the call adds here, or it leaves the place alone
  by_cases htouched : c.touched? = some p
  · obtain ⟨amount, start, rfl⟩ := honly _ (List.mem_append_right _ List.mem_cons_self) htouched
    rw [additions_incr] at hamounts hfirst
    rw [List.map_append, List.map_singleton] at hamounts
    -- the amount of this call is the last one
    obtain ⟨earlier, last, rfl, hearlier, hlast⟩ := List.map_eq_append_iff.mp hamounts.symm
    obtain ⟨b, rfl, hb⟩ := List.map_eq_singleton_iff.mp hlast
    have hcounts : Counts s p first earlier g := by
      refine ih earlier ⟨hearlierOnly, hearlier.symm, ?_⟩ hsmall.of_concat
      intro a ha
      apply hfirst
      rw [List.head?_append, Option.mem_def.mp ha]
      rfl
    refine hcounts.incr hp hunset hsmall hb.symm ?_ i
    rintro rfl
    rw [List.map_eq_nil_iff.mp hearlier.symm] at hfirst
    exact hfirst _ rfl
  · rw [additions_elsewhere htouched] at hamounts hfirst
    exact (ih amounts ⟨hearlierOnly, hamounts, hfirst⟩ hsmall).elsewhere htouched i

theorem counts_run (turns : List Nat) (hintact : s.intact = true) (hp : p.isEncodable = true)
    (hunset : s.contents p = none ∨ s.contents p = some .null)
    (hadds : Adds p first amounts (run executions s turns)) (hsmall : Small first amounts) :
    Counts s p first amounts (run executions s turns) := by
  -- by induction from the last turn on; the amounts are those of the turns before, so they are not fixed
  induction turns using List.reverseRecOn generalizing amounts with
  | nil =>
      have hnil : amounts = [] := List.map_eq_nil_iff.mp hadds.amounts.symm
      subst hnil
      exact ⟨rfl, rfl, hintact⟩
  | append_singleton turns i ih =>
      have hrun : run executions s (turns ++ [i]) = turn executions (run executions s turns) i := List.foldl_concat ..
      rw [hrun, turn] at hadds ⊢
      split at hadds
      · exact ih hadds hsmall
      · exact counts_serve hp hunset hadds hsmall fun amounts => ih

/-- However the turns of the executions come, and whatever their calls do at other places: if a place that holds no
value is only added to from then on, and all sums have up to 53 bits, then each call gives the sum of the value that
the first one begins with and the amounts so far, and the place holds the last of these sums. Integers of up to 53 bits
count for themselves. -/
theorem counts_additions (executions : Nat → Execution) (turns : List Nat) (s : Store) (p : Place) (first : Int)
    (amounts : List Int) (hintact : s.intact = true) (hp : p.isEncodable = true)
    (hunset : s.contents p = none ∨ s.contents p = some .null)
    (hadds : Adds p first amounts (run executions s turns)) (hsmall : Small first amounts) :
    Counts s p first amounts (run executions s turns) ∧
      ∀ n : Int, n.natAbs ≤ 2 ^ 53 → (Value.int n).amount? = some n ∧ (Value.int n).start? = some n := by
  refine ⟨counts_run turns hintact hp hunset hadds hsmall, ?_⟩
  intro n hn
  have hexact := Double.exact_of_natAbs_le hn
  exact ⟨Value.amount?_int hexact, Value.start?_int hexact⟩

/-- The first execution adds twice and writes a shared value in between; the second one adds, and writes what this came
to for another user. Each of them has a value of its own to begin with. -/
def sampleExecutions : Nat → Execution
  | 0 => fun replies =>
    match replies.length with
    | 0 => some (.incr (.user "u", "k") (.int 5) (.int 10))
    | 1 => some (.write (.shared, "k") (.text "x"))
    | 2 => some (.incr (.user "u", "k") (.int (-20)) (.int 0))
    | _ => none
  | 1 => fun replies =>
    match replies with
    | [] => some (.incr (.user "u", "k") (.int 7) (.int 99))
    | [.ok (.value v)] => some (.write (.user "v", "k") v)
    | _ => none
  | _ => fun _ => none

/-- In this order of the turns, the value of the first execution is the one that all begins with. -/
theorem counts_additions_of_sample :
    let g := run sampleExecutions empty [0, 1, 2, 1, 0, 0]
    (g.additions (.user "u", "k")).map Addition.reply =
        ([.ok (.value (.int 15)), .ok (.value (.int 22)), .ok (.value (.int 2))] : List (Except Fault Reply)) ∧
      g.store.contents (.user "u", "k") = some (.int 2) ∧ g.store.contents (.user "v", "k") = some (.int 22) := by
  intro g
  have hcalls : g.served.map Served.call = [.incr (.user "u", "k") (.int 5) (.int 10),
      .incr (.user "u", "k") (.int 7) (.int 99), .write (.user "v", "k") (.int 22), .write (.shared, "k") (.text "x"),
      .incr (.user "u", "k") (.int (-20)) (.int 0)] := by
    decide +kernel
  have hadds : Adds (.user "u", "k") 10 [5, 7, -20] g := by
    refine ⟨?_, by decide +kernel, by decide +kernel⟩
    intro x hx htouched
    have hmem : x.call ∈ g.served.map Served.call := List.mem_map_of_mem hx
    rw [hcalls] at hmem
    simp only [List.mem_cons, List.not_mem_nil, or_false] at hmem
    rcases hmem with heq | heq | heq | heq | heq
    · exact ⟨_, _, heq⟩
    · exact ⟨_, _, heq⟩
    · rw [heq] at htouched
      exact absurd htouched (by decide +kernel)
    · rw [heq] at htouched
      exact absurd htouched (by decide +kernel)
    · exact ⟨_, _, heq⟩
  have hsmall : Small 10 [5, 7, -20] := by
    intro n hpos hlength
    obtain rfl | rfl | rfl : n = 1 ∨ n = 2 ∨ n = 3 := by
      rw [List.length_cons, List.length_cons, List.length_singleton] at hlength
      omega
    · decide
    · decide
    · decide
  obtain ⟨hcounts, -⟩ := counts_additions sampleExecutions [0, 1, 2, 1, 0, 0] empty (.user "u", "k") 10 [5, 7, -20]
    rfl rfl (.inl rfl) hadds hsmall
  exact ⟨hcounts.replies, hcounts.contents, by decide +kernel⟩

/-- An amount that no double is equal to is rounded before it is added, so the sum is one less than it should be. -/
theorem amount_rounded :
    let g := run (fun _ replies => if replies.isEmpty then
      some (.incr (.user "u", "k") (.int 18014398509481981) (.int (-9007199254740991))) else none) empty [0]
    (-9007199254740991 : Int).natAbs < 2 ^ 53 ∧ (-9007199254740991 + 18014398509481981 : Int).natAbs < 2 ^ 53 ∧
      (g.additions (.user "u", "k")).map Addition.reply =
        ([.ok (.value (.int (-9007199254740991 + 18014398509481981 - 1)))] : List (Except Fault Reply)) ∧
      g.store.contents (.user "u", "k") = some (.int (-9007199254740991 + 18014398509481981 - 1)) := by
  decide +kernel

end ChatFlow.Store
