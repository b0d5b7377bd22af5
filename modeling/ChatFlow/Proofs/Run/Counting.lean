import ChatFlow.Proofs.Run.Moments
import ChatFlow.Proofs.Store.Executions
import ChatFlow.Proofs.Text.Integers

/-!
# Counting from a value to begin with

A storage node that adds an amount, or takes it away, reads the amount of a text that is filled in, and begins with a
value of its own where nothing is stored yet. Both are taken as doubles on the way, and the sum is rounded; between
integers that are not too large nothing is lost by it, so the integer that is stored, and that the result variable is
set to, is the exact one. The amount zero is the exception: it counts as one.

* `Act.amountOf_of_toInteger?`: the amount that a text of an integer stands for.
* `Storing.FillsIn`: a visit of a node, with its key and its text filled in; `Storing.Steps` is one that counts.
* `Storing.counted_from`: what it stores and sets where nothing is stored.
* `Storing.zero_counts_as_one`: the amount zero, and keys under which nothing is stored.
-/

namespace ChatFlow

theorem Double.isZero_of_whole? {x : Double} {n : Int} (h : x.whole? = some n) : x.isZero = decide (n = 0) := by
  rw [whole?_eq_some_iff] at h
  have hpos : (0 : Int) < unit := Int.natCast_pos.mpr unit_pos
  rcases x with _ | negative | ⟨negative, m⟩
  · cases h
  · cases h
  · rw [quanta?, Option.some.injEq] at h
    have hzero : n * unit = 0 ↔ n = 0 := by
      rw [Int.mul_eq_zero]
      exact or_iff_left hpos.ne'
    rw [isZero, Bool.eq_iff_iff, beq_iff_eq, decide_eq_true_eq, ← hzero, ← h]
    split
    · omega
    · omega

namespace Value

theorem start?_float (x : Double) : (float x).start? = x.whole? := rfl

theorem amount?_float (x : Double) : (float x).amount? = x.whole? := rfl

end Value

namespace Act

variable {sc sc₁ sc₂ : Scene} {m : Message} {owner : Owner} {key text : Text} {n d : Int}

/-- The amount that counts for a number: one for zero. -/
def counted (n : Int) : Int := if n = 0 then 1 else n

/-- A text of an integer stands for the amount that counts for it. -/
theorem amountOf_of_toInteger? (h : text.toInteger? = some n) (hexact : Double.Exact n) :
    ∃ x, amountOf text = .ok x ∧ x.whole? = some (counted n) := by
  obtain ⟨x, hx, hwhole⟩ := Text.toDouble?_of_toInteger? h hexact
  have hread : (Value.text text).toDouble .nan = .ok x := by
    rw [Value.toDouble, Text.isBlank_of_toInteger? h, hx]
    rfl
  refine ⟨if x.isNaN || x.isZero then 1 else x, by rw [amountOf, hread]; rfl, ?_⟩
  rw [Double.isNaN_of_whole? hwhole, Bool.false_or, Double.isZero_of_whole? hwhole, counted]
  by_cases hzero : n = 0
  · rw [if_pos (decide_eq_true hzero), if_pos hzero]
    decide +kernel
  · rw [if_neg (Bool.eq_false_iff.mp (decide_eq_false hzero)), if_neg hzero]
    exact hwhole

/-- A storage node with a key does what it does with its key and its text filled in, and sets its variable. -/
theorem run_storeWith {Op : Type} {data : StorageData Op} (perform : (key text : Text) → Act Value)
    (hkey : (render m data.key).run.run sc = (.ok key, sc₁)) (hnamed : key ≠ [])
    (htext : (render m data.value).run.run sc₁ = (.ok text, sc₂)) :
    (storeWith data m perform).run.run sc =
      match (perform key text).run.run sc₂ with
      | (.ok v, sc₃) => (.ok (), { sc₃ with context := sc₃.context.set data.resultVar v })
      | (.error fault, sc₃) => (.error fault, sc₃) := by
  have hsome : key.isEmpty = false := List.isEmpty_eq_false_iff.mpr hnamed
  unfold storeWith
  simp only [run_bind, hkey, hsome, Bool.false_eq_true, if_false, htext, run_setVariable]
  rcases (perform key text).run.run sc₂ with ⟨_ | v, sc₃⟩
  · rfl
  · rfl

/-- The integer that is come to by adding an amount, or by taking it away. -/
def stepFrom (op : SharedOp) (d n : Int) : Int :=
  match op with
  | .decr => d - counted n
  | _ => d + counted n

theorem exact_stepFrom (op : SharedOp) (hd : d.natAbs < 2 ^ 52) (hn : n.natAbs < 2 ^ 52) :
    Double.Exact (stepFrom op d n) := by
  have hcounted : (counted n).natAbs ≤ 2 ^ 52 := by
    unfold counted
    split
    · decide
    · omega
  apply Double.exact_of_natAbs_le
  rw [Nat.pow_eq]
  cases op with
  | decr =>
      rw [stepFrom]
      omega
  | _ =>
      rw [stepFrom]
      · omega
      · nofun

/-- To a value to begin with, a whole amount is added exactly. -/
theorem run_addAmount_of_unset {x : Double} {a : Int} {opposite : Bool} (hx : amountOf text = .ok x)
    (hamount : (if opposite then x.neg else x).whole? = some a) (hd : Double.Exact d) (hexact : Double.Exact (d + a))
    (hintact : sc.world.store.intact = true) (hplace : Place.isEncodable (owner, key) = true)
    (hunset : (sc.world.store.contents (owner, key)).getD .null = .null) :
    (addAmount owner key text (.int d) opposite).run.run sc = (.ok (.int (d + a)),
      { sc with world := { sc.world with
          store := sc.world.store.put owner key (Json.text .line (.int (d + a))) } }) := by
  -- null counts as nothing stored, as the value that is missing does
  have hvalue : sc.world.store.contents.valueOr (owner, key) (.float (.ofInt d)) = .float (.ofInt d) := by
    rw [Contents.valueOr]
    cases hheld : sc.world.store.contents (owner, key) with
    | none => rfl
    | some v =>
        rw [hheld] at hunset
        obtain rfl : v = .null := hunset
        rfl
  have hincr := Store.incr_eq (p := (owner, key)) hintact hplace (.float (if opposite then x.neg else x))
    (.float (.ofInt d))
  have hwrite := Store.write_eq (p := (owner, key)) hintact hplace (.int hexact.not_integerTooLong) rfl
  -- between whole doubles nothing is lost by rounding
  have hsum := Store.plus_whole ((Value.start?_float _).trans hd.whole?_ofInt) ((Value.amount?_float _).trans hamount)
    hexact
  rw [hvalue, hsum, Except.map, hwrite] at hincr
  dsimp only at hincr
  unfold addAmount
  simp only [run_bind, run_lift, hx, toDouble_int hd, run_addStored, hincr]

/-- So an amount is added to it, or taken away, by what a node does that counts. -/
theorem run_doShared_of_unset {op : SharedOp} (hop : op = .incr ∨ op = .decr)
    (hintact : sc.world.store.intact = true) (hplace : Place.isEncodable (owner, key) = true)
    (hunset : (sc.world.store.contents (owner, key)).getD .null = .null) (hread : text.toInteger? = some n)
    (hd : d.natAbs < 2 ^ 52) (hn : n.natAbs < 2 ^ 52) :
    (doShared op owner key text (.int d)).run.run sc = (.ok (.int (stepFrom op d n)),
      { sc with world := { sc.world with
          store := sc.world.store.put owner key (Json.text .line (.int (stepFrom op d n))) } }) := by
  have hexact := exact_stepFrom op hd hn
  have hstart : Double.Exact d := Double.exact_of_natAbs_le (by rw [Nat.pow_eq]; omega)
  obtain ⟨x, hx, hwhole⟩ := amountOf_of_toInteger? hread (Double.exact_of_natAbs_le (by rw [Nat.pow_eq]; omega))
  rcases hop with rfl | rfl
  · have hamount : (if false then x.neg else x).whole? = some (counted n) := hwhole
    exact run_addAmount_of_unset hx hamount hstart hexact hintact hplace hunset
  · have hamount : (if true then x.neg else x).whole? = some (-counted n) := Double.whole?_neg hwhole
    have hopposite : stepFrom .decr d n = d + -counted n := Int.sub_eq_add_neg
    rw [hopposite] at hexact ⊢
    exact run_addAmount_of_unset hx hamount hstart hexact hintact hplace hunset

end Act

namespace Storing

variable {c : Storing} {s : Store} {op : SharedOp} {key text : Text} {sc : Scene} {n d : Int}

/-- What the node does with a value, if it does not remove it. -/
def op? (c : Storing) : Option SharedOp :=
  match c.node with
  | .user d =>
    match d.op with
    | .shared op => some op
    | .delete => none
  | .shared d => some d.op

/-- What it begins with where nothing is stored. -/
def other (c : Storing) : Value :=
  match c.node with
  | .user d => d.other
  | .shared d => d.other

/-- The variable for the result. -/
def resultVar (c : Storing) : Text :=
  match c.node with
  | .user d => d.resultVar
  | .shared d => d.resultVar

/-- A visit of a node that does something with a value: a key and a text are filled in, and the key is not empty. -/
structure FillsIn (c : Storing) (s : Store) (op : SharedOp) (key text : Text) (sc : Scene) : Prop where
  op? : c.op? = some op
  filled : ∃ sc₁, (Act.render c.message c.key).run.run (c.sceneWith s) = (.ok key, sc₁) ∧
    (Act.render c.message c.value).run.run sc₁ = (.ok text, sc)
  named : key ≠ []

namespace FillsIn

variable (h : c.FillsIn s op key text sc)

include h

theorem store_eq : sc.world.store = s := by
  obtain ⟨sc₁, hkey, htext⟩ := h.filled
  have hafterKey := Act.store_of_render c.message c.key (c.sceneWith s)
  have hafterText := Act.store_of_render c.message c.value sc₁
  rw [hkey] at hafterKey
  rw [htext] at hafterText
  exact hafterText.trans hafterKey

/-- The node does what it does with them, and sets its variable. -/
theorem run_eq :
    c.act.run.run (c.sceneWith s) =
      match (Act.doShared op c.owner key text c.other).run.run sc with
      | (.ok v, sc') => (.ok (), { sc' with context := sc'.context.set c.resultVar v })
      | (.error fault, sc') => (.error fault, sc') := by
  obtain ⟨sc₁, hkey, htext⟩ := h.filled
  have hop := h.op?
  obtain ⟨node, m, scene⟩ := c
  cases node with
  | shared data =>
      cases hop
      exact Act.run_storeWith (fun key text => Act.doShared data.op .shared key text data.other) hkey h.named htext
  | user data =>
      have hdoes := Act.run_storeWith (fun key text => Act.doUser data.op m.event.userId key text data.other) hkey
        h.named htext
      have hsame : data.op = .shared op := by
        have hdata : (match data.op with | .shared op => some op | .delete => none) = some op := hop
        split at hdata
        · next op' hshared =>
            cases hdata
            exact hshared
        · cases hdata
      have hshared : Act.doUser data.op m.event.userId key text data.other =
          Act.doShared op (.user m.event.userId) key text data.other := by
        rw [hsame]
        rfl
      rw [hshared] at hdoes
      exact hdoes

end FillsIn

/-- A visit of a node that counts: a key and a text are filled in, and the key is not empty. -/
structure Steps (c : Storing) (s : Store) (op : SharedOp) (key text : Text) (sc : Scene) : Prop where
  op? : c.op? = some op
  counts : op = .incr ∨ op = .decr
  filled : ∃ sc₁, (Act.render c.message c.key).run.run (c.sceneWith s) = (.ok key, sc₁) ∧
    (Act.render c.message c.value).run.run sc₁ = (.ok text, sc)
  named : key ≠ []

namespace Steps

variable (h : c.Steps s op key text sc)

include h

theorem fillsIn : c.FillsIn s op key text sc := ⟨h.op?, h.filled, h.named⟩

theorem store_eq : sc.world.store = s := h.fillsIn.store_eq

theorem run_eq :
    c.act.run.run (c.sceneWith s) =
      match (Act.doShared op c.owner key text c.other).run.run sc with
      | (.ok v, sc') => (.ok (), { sc' with context := sc'.context.set c.resultVar v })
      | (.error fault, sc') => (.error fault, sc') := h.fillsIn.run_eq

end Steps

/-- A node that counts, visited where nothing is stored under its key, with an integer to begin with and a text of an
integer for the amount, both of up to 52 bits: it stores the exact sum or difference, and sets its variable to it, and
that is all that changes behind the filling in. Only the amount zero counts as one. -/
theorem counted_from (h : c.Steps s op key text sc) (hintact : s.intact = true)
    (hplace : Place.isEncodable (c.owner, key) = true) (hunset : (s.contents (c.owner, key)).getD .null = .null)
    (hother : c.other = .int d) (hread : text.toInteger? = some n) (hd : d.natAbs < 2 ^ 52) (hn : n.natAbs < 2 ^ 52) :
    let amount := if n = 0 then 1 else n
    let sum := if op = .incr then d + amount else d - amount
    c.act.run.run (c.sceneWith s) = (.ok (),
        { world := { sc.world with store := s.put c.owner key (Json.text .line (.int sum)) },
          context := sc.context.set c.resultVar (.int sum) }) ∧
      (c.result s).contents = Function.update s.contents (c.owner, key) (some (.int sum)) := by
  intro amount sum
  have hstore := h.store_eq
  have hsum : Act.stepFrom op d n = sum := by
    rcases h.counts with rfl | rfl
    · exact (if_pos rfl).symm
    · exact (if_neg (by decide)).symm
  rw [← hstore] at hintact hunset
  have hdone := Act.run_doShared_of_unset h.counts hintact hplace hunset hread hd hn
  have hexact := Act.exact_stepFrom op hd hn
  rw [hstore, hsum] at hdone
  rw [hsum] at hexact
  have hrun : c.act.run.run (c.sceneWith s) = (.ok (),
      { world := { sc.world with store := s.put c.owner key (Json.text .line (.int sum)) },
        context := sc.context.set c.resultVar (.int sum) }) := by
    rw [h.run_eq, hother, hdone]
  refine ⟨hrun, ?_⟩
  rw [result, hrun]
  exact Store.contents_put s (c.owner, key) (.int hexact.not_integerTooLong)

/-- A user counts from five, by what a text says. -/
def sampleCounting (op : UserOp) (key value : Text) : Storing :=
  ⟨.user { op := op, key := key, value := value, resultVar := "r", other := .int 5, extra := [] }, ⟨.ofUser "u", []⟩,
    ⟨Runner.sampleWorld, .start []⟩⟩

/-- Everybody counts down from five. -/
def sampleShared (value : Text) : Storing :=
  ⟨.shared { op := .decr, key := "k", value := value, resultVar := "r", other := .int 5, extra := [] }, ⟨.ofUser "u", []⟩,
    ⟨Runner.sampleWorld, .start []⟩⟩

theorem counted_from_of_sample :
    let c := sampleCounting (.shared .incr) "k" (Text.ofInt (-7))
    (c.Steps .empty .incr "k" (Text.ofInt (-7)) (c.sceneWith .empty) ∧ Store.intact .empty = true ∧
        Place.isEncodable (c.owner, "k") = true ∧ (Store.contents .empty (c.owner, "k")).getD .null = .null ∧
        c.other = .int 5 ∧ (Text.ofInt (-7)).toInteger? = some (-7)) ∧
      (c.result .empty).contents (.user "u", "k") = some (.int (-2)) := by
  intro c
  have hsteps : c.Steps .empty .incr "k" (Text.ofInt (-7)) (c.sceneWith .empty) :=
    ⟨rfl, .inl rfl, ⟨c.sceneWith .empty, rfl, rfl⟩, by decide⟩
  have hread : (Text.ofInt (-7)).toInteger? = some (-7) := Text.toInteger?_ofInt (by decide +kernel)
  obtain ⟨-, hheld⟩ := counted_from hsteps rfl rfl rfl rfl hread (by decide) (by decide)
  refine ⟨⟨hsteps, rfl, rfl, rfl, rfl, hread⟩, ?_⟩
  rw [hheld]
  rfl

/-- From five, a node that adds zero comes to six, and one that takes it away comes to four. A node with an empty key
stores nothing, and one with a key that cannot be encoded fails. -/
theorem zero_counts_as_one :
    let up := sampleCounting (.shared .incr) "k" "0"
    let down := sampleShared "0"
    let keyless := sampleCounting (.shared .incr) "" "3"
    let broken := sampleCounting (.shared .incr) [.surrogate 0] "3"
    ((up.result .empty).contents (.user "u", "k") = some (.int 6) ∧
        (up.act.run.run (up.sceneWith .empty)).2.context.get "r" = .int 6) ∧
      ((down.result .empty).contents (.shared, "k") = some (.int 4) ∧
        (down.act.run.run (down.sceneWith .empty)).2.context.get "r" = .int 4) ∧
      ((keyless.act.run.run (keyless.sceneWith .empty)).1 = .ok () ∧
        (keyless.result .empty).contents (.user "u", "") = none) ∧
      (broken.act.run.run (broken.sceneWith .empty)).1 = .error .unencodable := by
  decide +kernel

end Storing

end ChatFlow
