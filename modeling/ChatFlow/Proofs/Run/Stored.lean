import ChatFlow.Proofs.Double.Largest
import ChatFlow.Proofs.Run.Alike
import ChatFlow.Proofs.Run.Bodies
import ChatFlow.Proofs.Run.Traversal
import ChatFlow.Proofs.Store.Rankings

/-!
# What storage nodes leave to rank

Nodes for stored values are visited one after the other, by any users and with anything filled in, and a ranking is
asked for. It is given, whatever is stored, as long as no user stored an integer beyond all doubles under the key: such
an integer is stored like any other, but a ranking takes it as a double, and then there is none for anybody.

* `Storing`: a visit of a node for stored values; `storedBy` is the store after some of them.
* `Storing.result_cases`: a visit makes one change of the store, or none.
* `holds_storedBy`: whatever is visited, everything that is stored is found again.
* `exists_writes`: an integer beyond all doubles was written by a node that sets it.
* `Act.run_leaderboard_iff`: when the node for rankings succeeds.
* `ranked_unless_beyond`: when there are rankings, after any visits.
-/

namespace ChatFlow

/-- A node for stored values, of the user or shared ones. -/
inductive StorageNode where
  | user (d : StorageData UserOp)
  | shared (d : StorageData SharedOp)

/-- A visit of a node for stored values: the message that the run is about, and the scene but for the store. -/
structure Storing where
  node : StorageNode
  message : Message
  scene : Scene

namespace Storing

/-- Whose value the node is about. -/
def owner (c : Storing) : Owner :=
  match c.node with
  | .user _ => .user c.message.event.userId
  | .shared _ => .shared

/-- The template of its key. -/
def key (c : Storing) : Text :=
  match c.node with
  | .user d => d.key
  | .shared d => d.key

/-- The template of its value. -/
def value (c : Storing) : Text :=
  match c.node with
  | .user d => d.value
  | .shared d => d.value

/-- Does the node set a value? -/
def sets (c : Storing) : Bool :=
  match c.node with
  | .user d => d.op = .shared .set
  | .shared d => d.op = .set

/-- What the node does. -/
def act (c : Storing) : Act Unit :=
  match c.node with
  | .user d => Act.storeUser d c.message
  | .shared d => Act.storeShared d c.message

/-- The scene with a store. -/
def sceneWith (c : Storing) (s : Store) : Scene := { c.scene with world := { c.scene.world with store := s } }

/-- The store after the visit. -/
def result (c : Storing) (s : Store) : Store := (c.act.run.run (c.sceneWith s)).2.world.store

/-- The node sets a value: key and text are filled in, and the text stands for the value. -/
def Writes (c : Storing) (s : Store) (p : Place) (v : Value) : Prop :=
  c.sets = true ∧ ∃ key text s₁ s₂,
    (Act.render c.message c.key).run.run (c.sceneWith s) = (.ok key, s₁) ∧
      (Act.render c.message c.value).run.run s₁ = (.ok text, s₂) ∧
      p = (c.owner, key) ∧ text.scalar = .ok v

end Storing

/-- The store after some visits, which was empty at first. -/
def storedBy (visits : List Storing) : Store := visits.foldl (fun s c => c.result s) .empty

variable {s : Store} {p : Place} {v : Value} {c : Storing}

/-! ## One visit -/

namespace Act

variable {sc : Scene} {m : Message} {owner : Owner} {key text : Text} {other : Value}

theorem store_of_render (m : Message) (t : Text) (sc : Scene) :
    ((render m t).run.run sc).2.world.store = sc.world.store := by
  have haside : Aside fun sc : Scene => sc.world.store := ⟨fun _ _ _ hstore => hstore, fun _ _ _ => rfl⟩
  exact (Respects.keeps fun _ => haside.bond.render m t) sc

/-- A storage node leaves the store as it is, or does what it does with its key and its value filled in. -/
theorem store_of_storeWith {Op : Type} (d : StorageData Op) (m : Message) (perform : (key text : Text) → Act Value)
    (sc : Scene) :
    ((storeWith d m perform).run.run sc).2.world.store = sc.world.store ∨
      ∃ key text sc₁ sc₂, (render m d.key).run.run sc = (.ok key, sc₁) ∧
        (render m d.value).run.run sc₁ = (.ok text, sc₂) ∧ sc₂.world.store = sc.world.store ∧
        ((storeWith d m perform).run.run sc).2.world.store = ((perform key text).run.run sc₂).2.world.store := by
  have hkey := store_of_render m d.key sc
  unfold storeWith
  rw [run_bind]
  rcases hrender : (render m d.key).run.run sc with ⟨_ | key, sc₁⟩
  · rw [hrender] at hkey
    exact .inl hkey
  · rw [hrender] at hkey
    by_cases hempty : key.isEmpty = true
    · refine .inl ?_
      simp only [hempty, if_true]
      exact hkey
    · have hvalue := store_of_render m d.value sc₁
      simp only [hempty, if_false, Bool.false_eq_true]
      rw [run_bind]
      rcases hrendered : (render m d.value).run.run sc₁ with ⟨_ | text, sc₂⟩
      · rw [hrendered] at hvalue
        exact .inl (hvalue.trans hkey)
      · rw [hrendered] at hvalue
        refine .inr ⟨key, text, sc₁, sc₂, rfl, hrendered, hvalue.trans hkey, ?_⟩
        -- setting the variable for the result is no matter of the store
        simp only [run_bind]
        rcases (perform key text).run.run sc₂ with ⟨_ | v, sc₃⟩
        · rfl
        · rfl

/-- What the node does is one change at its place: it writes the value that the text stands for, or it adds. -/
theorem store_of_doShared (op : SharedOp) (owner : Owner) (key text : Text) (other : Value) (sc : Scene) :
    ((doShared op owner key text other).run.run sc).2.world.store = sc.world.store ∨
      (op = .set ∧ ∃ v, text.scalar = .ok v ∧ ((doShared op owner key text other).run.run sc).2.world.store =
        (Store.Change.write (owner, key) v).make sc.world.store) ∨
      ∃ amount start, ((doShared op owner key text other).run.run sc).2.world.store =
        (Store.Change.incr (owner, key) amount start).make sc.world.store := by
  have hadds : ∀ opposite, ((addAmount owner key text other opposite).run.run sc).2.world.store = sc.world.store ∨
      ∃ amount start, ((addAmount owner key text other opposite).run.run sc).2.world.store =
        (Store.Change.incr (owner, key) amount start).make sc.world.store := by
    intro opposite
    unfold addAmount
    simp only [run_bind, run_lift]
    rcases amountOf text with _ | amount
    · exact .inl rfl
    · rcases other.toDouble 0 with _ | start
      · exact .inl rfl
      · refine .inr ⟨.float (if opposite then amount.neg else amount), .float start, ?_⟩
        simp only [run_addStored, Store.Change.make]
        rcases sc.world.store.incr owner key (.float (if opposite then amount.neg else amount)) (.float start) with _ | r
        · rfl
        · rfl
  cases op with
  | get => exact .inl (by simp only [doShared, stored, run_bind, run_world, run_lift])
  | set =>
      simp only [doShared, run_bind, run_lift]
      rcases hscalar : text.scalar with _ | v
      · exact .inl rfl
      · exact .inr (.inl ⟨trivial, v, rfl, rfl⟩)
  | incr => exact (hadds false).imp_right .inr
  | decr => exact (hadds true).imp_right .inr

theorem store_of_removeStored (user key : Text) (sc : Scene) :
    ((removeStored user key).run.run sc).2.world.store = (Store.Change.remove user key).make sc.world.store := by
  rw [run_removeStored, Store.Change.make]
  rcases sc.world.store.remove user key with _ | r
  · rfl
  · rfl

end Act

namespace Storing

/-- The changes that a visit can make of a store: one that writes is that of a node that sets the value. -/
def Brings (c : Storing) (s : Store) : Store.Change → Prop
  | .write p v => c.Writes s p v
  | .incr _ _ _ => True
  | .remove _ _ => True
  | .reopen => False

theorem result_cases_of_doShared {op : SharedOp} {key text : Text} {other : Value} {s₁ s₂ : Scene}
    (hsets : op = .set → c.sets = true) (hkey : (Act.render c.message c.key).run.run (c.sceneWith s) = (.ok key, s₁))
    (htext : (Act.render c.message c.value).run.run s₁ = (.ok text, s₂)) (hstore : s₂.world.store = s)
    (hdone : c.result s = ((Act.doShared op c.owner key text other).run.run s₂).2.world.store) :
    c.result s = s ∨ ∃ change, c.Brings s change ∧ c.result s = change.make s := by
  have hcases := Act.store_of_doShared op c.owner key text other s₂
  rw [hstore, ← hdone] at hcases
  rcases hcases with hsame | ⟨hop, v, hscalar, hwritten⟩ | ⟨amount, start, hadded⟩
  · exact .inl hsame
  · exact .inr ⟨.write (c.owner, key) v, ⟨hsets hop, key, text, s₁, s₂, hkey, htext, rfl, hscalar⟩, hwritten⟩
  · exact .inr ⟨.incr (c.owner, key) amount start, trivial, hadded⟩

/-- A visit makes one change of the store, or none. -/
theorem result_cases (c : Storing) (s : Store) :
    c.result s = s ∨ ∃ change, c.Brings s change ∧ c.result s = change.make s := by
  obtain ⟨node, m, scene⟩ := c
  cases node with
  | shared d =>
      rcases Act.store_of_storeWith d m (fun key text => Act.doShared d.op .shared key text d.other)
        (sceneWith ⟨.shared d, m, scene⟩ s) with hsame | ⟨key, text, s₁, s₂, hkey, htext, hstore, hdone⟩
      · exact .inl hsame
      · exact result_cases_of_doShared (c := ⟨.shared d, m, scene⟩) decide_eq_true hkey htext hstore hdone
  | user d =>
      rcases Act.store_of_storeWith d m (fun key text => Act.doUser d.op m.event.userId key text d.other)
        (sceneWith ⟨.user d, m, scene⟩ s) with hsame | ⟨key, text, s₁, s₂, hkey, htext, hstore, hdone⟩
      · exact .inl hsame
      · have hresult : result ⟨.user d, m, scene⟩ s =
            ((Act.doUser d.op m.event.userId key text d.other).run.run s₂).2.world.store := hdone
        rcases hop : d.op with op | _
        · rw [hop] at hresult
          have hsets : op = .set → sets ⟨.user d, m, scene⟩ = true := by
            rintro rfl
            exact decide_eq_true hop
          exact result_cases_of_doShared (c := ⟨.user d, m, scene⟩) hsets hkey htext hstore hresult
        · -- behind removing, a text is given back and nothing is done
          rw [hop, Act.doUser, Act.run_bind] at hresult
          have hremoved := Act.store_of_removeStored m.event.userId key s₂
          rw [hstore] at hremoved
          refine .inr ⟨.remove m.event.userId key, trivial, hresult.trans (Eq.trans ?_ hremoved)⟩
          rcases (Act.removeStored m.event.userId key).run.run s₂ with ⟨_ | _, s₃⟩
          · rfl
          · rfl

end Storing

/-! ## Some visits -/

/-- What a text stands for is a document, if it can be written. -/
theorem isDocument_of_scalar {t : Text} (ht : t.scalar = .ok v) (hfault : Json.fault? v = none) : v.IsDocument := by
  unfold Text.scalar at ht
  split at ht
  · split at ht
    · cases ht
      rw [Json.fault?] at hfault
      split at hfault
      · cases hfault
      · next hshort => exact .int (Bool.eq_false_iff.mpr hshort)
    · cases ht
  · split at ht
    · cases ht
      exact .float _
    · split at ht
      · cases ht
        exact .bool _
      · split at ht
        · cases ht
          exact .bool _
        · cases ht
          exact .text _

namespace Store

variable {t : Text}

/-- Without success, writing leaves the store as it is. -/
theorem write_cases (s : Store) (p : Place) (v : Value) :
    (s.write p.1 p.2 v).2 = s ∨
      p.isEncodable = true ∧ Json.fault? v = none ∧ (Json.text .line v).isWellFormed = true := by
  unfold write
  split
  · next text htext hfind =>
      split
      · next hencodable =>
          unfold Json.write at htext
          split at htext
          · cases htext
          · next hfault =>
              cases htext
              refine .inr ⟨?_, hfault, hencodable⟩
              by_contra hp
              rw [canFind_unencodable (Bool.eq_false_iff.mpr hp)] at hfind
              cases hfind
      · exact .inl rfl
  · exact .inl rfl

/-- What a text stands for is written, or nothing changes. -/
theorem make_write_of_scalar (s : Store) (p : Place) (ht : t.scalar = .ok v) :
    (Change.write p v).make s = s ∨ (Change.write p v).Writable := by
  rcases write_cases s p v with hsame | ⟨hp, hfault, hencodable⟩
  · exact .inl hsame
  · exact .inr ⟨hp, isDocument_of_scalar ht hfault, (Json.isWellFormed_textAt rfl 0 v).symm.trans hencodable⟩

theorem make_incr_of_place (s : Store) (p : Place) (amount start : Value) :
    (Change.incr p amount start).make s = s ∨ (Change.incr p amount start).Writable := by
  cases hp : p.isEncodable with
  | true => exact .inr hp
  | false =>
      rw [Change.make, incr, read, canFind_unencodable hp]
      exact .inl rfl

theorem make_remove_of_place (s : Store) (id key : Text) :
    (Change.remove id key).make s = s ∨ (Change.remove id key).Writable := by
  cases hp : Place.isEncodable (.user id, key) with
  | true => exact .inr hp
  | false =>
      have hfind : s.canFind (.user id) key = .error .unencodable := canFind_unencodable (p := (.user id, key)) hp
      rw [Change.make, remove, hfind]
      exact .inl rfl

/-- What a change makes of a place: it stays, or a value is written there, or a sum, or nothing is held any more. -/
theorem effect_cases (change : Change) (held : Contents) (p : Place) :
    change.effect held p = held p ∨ (∃ v, change = .write p v ∧ change.effect held p = some v) ∨
      (∃ x : Double, change.effect held p = some x.rounded) ∨ change.effect held p = none := by
  cases change with
  | write q v =>
      by_cases hq : p = q
      · subst hq
        exact .inr (.inl ⟨v, rfl, Function.update_self ..⟩)
      · exact .inl (Function.update_of_ne hq ..)
  | incr q amount start =>
      rw [Change.effect]
      rcases hsum : (held.valueOr q start).plus amount with _ | v
      · exact .inl rfl
      · obtain ⟨x, rfl⟩ := exists_rounded_of_plus hsum
        by_cases hq : p = q
        · subst hq
          exact .inr (.inr (.inl ⟨x, Function.update_self ..⟩))
        · exact .inl (Function.update_of_ne hq ..)
  | remove id key =>
      by_cases hq : p = (.user id, key)
      · subst hq
        exact .inr (.inr (.inr (Function.update_self ..)))
      · exact .inl (Function.update_of_ne hq ..)
  | reopen => exact .inl rfl

end Store

namespace Storing

/-- A visit makes one change of the store that can be written, or none. -/
theorem result_writable (c : Storing) (s : Store) :
    c.result s = s ∨ ∃ change, c.Brings s change ∧ Store.Change.Writable change ∧ c.result s = change.make s := by
  rcases c.result_cases s with hsame | ⟨change, hbrings, hdone⟩
  · exact .inl hsame
  · rw [hdone]
    have hcases : change.make s = s ∨ change.Writable := by
      cases change with
      | write p v =>
          obtain ⟨-, key, text, s₁, s₂, -, -, -, hscalar⟩ := hbrings
          exact Store.make_write_of_scalar s p hscalar
      | incr p amount start => exact Store.make_incr_of_place s p amount start
      | remove id key => exact Store.make_remove_of_place s id key
      | reopen => exact .inr trivial
    exact hcases.imp_right fun hwritable => ⟨change, hbrings, hwritable, rfl⟩

end Storing

variable {visits : List Storing}

theorem storedBy_concat (visits : List Storing) (c : Storing) :
    storedBy (visits ++ [c]) = c.result (storedBy visits) := List.foldl_concat ..

/-- Whatever is visited, everything that is stored is found again. -/
theorem holds_storedBy (visits : List Storing) : (storedBy visits).Holds (storedBy visits).contents := by
  induction visits using List.reverseRecOn with
  | nil => exact ⟨rfl, List.nodup_nil, by simp [storedBy, Store.empty], rfl⟩
  | append_singleton visits c ih =>
      rw [storedBy_concat]
      rcases c.result_writable (storedBy visits) with hsame | ⟨change, -, hwritable, hdone⟩
      · rw [hsame]
        exact ih
      · have hnext := ih.make hwritable
        rw [← hdone] at hnext
        rw [hnext.contents]
        exact hnext

/-- An integer beyond all doubles that is stored was written by a node that sets it. -/
theorem exists_writes {n : Int} (hn : Double.beyond ≤ n.natAbs) (h : (storedBy visits).contents p = some (.int n)) :
    ∃ before c later, visits = before ++ c :: later ∧ c.Writes (storedBy before) p (.int n) := by
  induction visits using List.reverseRecOn with
  | nil => cases h
  | append_singleton visits c ih =>
      have hearlier : (storedBy visits).contents p = some (.int n) →
          ∃ before c' later, visits ++ [c] = before ++ c' :: later ∧ c'.Writes (storedBy before) p (.int n) := by
        intro h
        obtain ⟨before, c', later, rfl, hwrites⟩ := ih h
        exact ⟨before, c', later ++ [c], by simp, hwrites⟩
      rw [storedBy_concat] at h
      rcases c.result_writable (storedBy visits) with hsame | ⟨change, hbrings, hwritable, hdone⟩
      · rw [hsame] at h
        exact hearlier h
      · rw [hdone, ((holds_storedBy visits).make hwritable).contents] at h
        rcases Store.effect_cases change (storedBy visits).contents p with
          hstays | ⟨v, rfl, hwritten⟩ | ⟨x, hsum⟩ | hnone
        · exact hearlier (hstays.symm.trans h)
        · cases hwritten.symm.trans h
          exact ⟨visits, c, [], rfl, hbrings⟩
        · -- a sum is the short form of a double, and not beyond all of them
          have hexact := Double.exact_of_rounded (Option.some_inj.mp (hsum.symm.trans h))
          exact absurd hexact.natAbs_lt_beyond (Nat.not_lt.mpr hn)
        · cases hnone.symm.trans h

/-! ## Asking for rankings -/

/-- The key that the node for rankings asks for. -/
def rankedKey (key : Text) : Text := if key.isEmpty then "score" else key

/-- What the node for rankings asks for is given. -/
def Answers (s : Store) (d : LeaderboardData) (id key : Text) : Prop :=
  match d.query with
  | .top => ∃ entries, s.leaderboard key d.limit d.ascending = .ok entries
  | .myRank => ∃ rank, s.rankOf id key d.ascending = .ok rank
  | .count => ∃ n, s.countHolders key = .ok n

/-- The node for rankings succeeds exactly if its key can be filled in and what it asks for is given. -/
theorem Act.run_leaderboard_iff (d : LeaderboardData) (m : Message) (sc : Scene) :
    ((leaderboard d m).run.run sc).1 = .ok () ↔
      ∃ key sc', (render m d.key).run.run sc = (.ok key, sc') ∧
        Answers sc.world.store d m.event.userId (rankedKey key) := by
  have hstore := store_of_render m d.key sc
  unfold leaderboard
  rw [run_bind]
  rcases hrender : (render m d.key).run.run sc with ⟨fault | key, sc'⟩
  · constructor
    · intro h
      cases h
    · rintro ⟨key, sc', h, -⟩
      cases h
  · rw [hrender] at hstore
    have honly : (∃ k s, ((.ok key, sc') : Except Fault Text × Scene) = (.ok k, s) ∧
        Answers sc.world.store d m.event.userId (rankedKey k)) ↔
          Answers sc.world.store d m.event.userId (rankedKey key) := by
      constructor
      · rintro ⟨k, s, h, hanswers⟩
        cases h
        exact hanswers
      · intro hanswers
        exact ⟨key, sc', rfl, hanswers⟩
    rw [honly, Answers, ← hstore, rankedKey]
    cases d.query with
    | top =>
        simp only [run_bind, run_world, run_lift]
        generalize (if key.isEmpty then ("score" : Text) else key) = asked
        rcases sc'.world.store.leaderboard asked d.limit d.ascending with fault | entries
        · simp
        · exact iff_of_true rfl ⟨entries, rfl⟩
    | myRank =>
        simp only [run_bind, run_world, run_lift]
        generalize (if key.isEmpty then ("score" : Text) else key) = asked
        rcases sc'.world.store.rankOf m.event.userId asked d.ascending with fault | rank
        · simp
        · exact iff_of_true rfl ⟨rank, rfl⟩
    | count =>
        simp only [run_bind, run_world, run_lift]
        generalize (if key.isEmpty then ("score" : Text) else key) = asked
        rcases sc'.world.store.countHolders asked with fault | n
        · simp
        · exact iff_of_true rfl ⟨n, rfl⟩

/-- What is asked for is given if there is a ranking; counting needs none. -/
theorem answers_iff (hintact : s.intact = true) (hnodup : s.places.Nodup) (d : LeaderboardData) (id key : Text) :
    Answers s d id key ↔ if d.query = .count then key.isWellFormed = true else s.Rankable key := by
  unfold Answers
  cases d.query with
  | top => exact (Store.exists_leaderboard_iff _).trans (Store.exists_ranking_iff hintact hnodup _)
  | myRank => exact (Store.exists_rankOf_iff id).trans (Store.exists_ranking_iff hintact hnodup _)
  | count => exact Store.exists_countHolders_iff hintact

/-- Whatever nodes for stored values are visited, by any users and in any scenes, in a store that was empty: there is
a ranking, a leaderboard and a rank of every user exactly for the keys that can be encoded and under which no user
holds an integer beyond all doubles. The node for rankings succeeds exactly if its key, filled in, is such a key, or
if it counts and the key can be encoded. And an integer beyond all doubles was written there by a node that sets it,
of the same user and with the same key, the value of which was filled in with its digits. -/
theorem ranked_unless_beyond (visits : List Storing) :
    let s := storedBy visits
    (∀ key ascending, (∃ ranked, s.ranking key ascending = .ok ranked) ↔ s.Rankable key) ∧
      (∀ key limit ascending, (∃ entries, s.leaderboard key limit ascending = .ok entries) ↔ s.Rankable key) ∧
      (∀ id key ascending, (∃ rank, s.rankOf id key ascending = .ok rank) ↔ s.Rankable key) ∧
      (∀ d m (sc : Scene), sc.world.store = s →
        (((Act.leaderboard d m).run.run sc).1 = .ok () ↔
          ∃ key sc', (Act.render m d.key).run.run sc = (.ok key, sc') ∧
            if d.query = .count then (rankedKey key).isWellFormed = true else s.Rankable (rankedKey key))) ∧
      ∀ id key n, s.contents (.user id, key) = some (.int n) → Double.beyond ≤ n.natAbs →
        ∃ before c later, visits = before ++ c :: later ∧ c.Writes (storedBy before) (.user id, key) (.int n) := by
  intro s
  have hholds := holds_storedBy visits
  have hranking : ∀ key ascending, (∃ ranked, s.ranking key ascending = .ok ranked) ↔ s.Rankable key :=
    fun key ascending => Store.exists_ranking_iff hholds.intact hholds.nodup ascending
  refine ⟨hranking, ?_, ?_, ?_, ?_⟩
  · intro key limit ascending
    exact (Store.exists_leaderboard_iff limit).trans (hranking key ascending)
  · intro id key ascending
    exact (Store.exists_rankOf_iff id).trans (hranking key ascending)
  · intro d m sc hstore
    rw [Act.run_leaderboard_iff, hstore]
    simp only [answers_iff (s := s) hholds.intact hholds.nodup]
  · intro id key n hheld hn
    exact exists_writes hn hheld

/-- A user sets their score. -/
def sampleSetting (id value : Text) : Storing :=
  ⟨.user { op := .shared .set, key := "score", value := value, resultVar := "r", other := .null, extra := [] },
    ⟨.ofUser id, []⟩, ⟨Runner.sampleWorld, .start []⟩⟩

theorem result_sampleSetting {value : Text} (s : Store) (id : Text) (hplain : value.contains '{' = false)
    (hscalar : value.scalar = .ok v) : (sampleSetting id value).result s = (s.write (.user id) "score" v).2 := by
  have hvalue : ∀ sc, (Act.render ⟨.ofUser id, []⟩ value).run.run sc = (.ok value, sc) := by
    intro sc
    rw [Act.render, if_neg (Bool.eq_false_iff.mp hplain)]
    rfl
  have hkey : ∀ sc, (Act.render ⟨.ofUser id, []⟩ "score").run.run sc = (.ok "score", sc) := fun _ => rfl
  have hnamed : List.isEmpty ("score" : Text) = false := rfl
  simp only [Storing.result, Storing.act, sampleSetting, Act.storeUser, Act.storeWith, Act.run_bind, hkey, hvalue, hnamed,
    Bool.false_eq_true, if_false, Act.doUser, Act.doShared, Act.run_lift, hscalar]
  rfl

theorem text_pow_ten (k : Nat) :
    Json.text .line (.int (10 ^ k : Nat)) = .scalar '1' :: List.replicate k (.scalar '0') := Text.ofNat_pow_ten k

/-- The digits of 10⁴⁰⁰. -/
def sampleDigits : Text := .scalar '1' :: List.replicate 400 (.scalar '0')

theorem scalar_sampleDigits : sampleDigits.scalar = .ok (.int (10 ^ 400 : Nat)) := by decide +kernel

/-- One user has a score of five. -/
def sampleFirst : Store := storedBy [sampleSetting "u" "5"]

/-- Then another user sets an integer beyond all doubles. -/
def sampleBoth : Store := storedBy [sampleSetting "u" "5", sampleSetting "v" sampleDigits]

theorem sampleFirst_eq : sampleFirst = (Store.empty.write (.user "u") "score" (.int 5)).2 :=
  result_sampleSetting .empty "u" (by decide +kernel) (by decide +kernel)

/-- The integer is stored like any other. -/
theorem sampleBoth_eq : sampleBoth = sampleFirst.put (.user "v") "score" sampleDigits := by
  have hwrites := result_sampleSetting sampleFirst "v" (by decide +kernel) scalar_sampleDigits
  have hresult : sampleBoth = (sampleSetting "v" sampleDigits).result sampleFirst :=
    storedBy_concat [sampleSetting "u" "5"] (sampleSetting "v" sampleDigits)
  have hdocument : (Value.int (10 ^ 400 : Nat)).IsDocument := .int (by decide +kernel)
  have hintact : sampleFirst.intact = true := by
    rw [sampleFirst_eq]
    decide +kernel
  have hwritten := Store.write_eq (p := (.user "v", "score")) hintact rfl hdocument rfl
  rw [hresult, hwrites, hwritten, text_pow_ten]
  rfl

/-- One user is the first of one. When the other one has set that integer, nobody is ranked any more. -/
theorem unranked_beside_large_integer :
    (∃ rank, sampleFirst.rankOf "u" "score" false = .ok rank ∧ rank.place = 1 ∧ rank.score = .int 5 ∧
        rank.total = 1) ∧
      (∀ ascending, sampleBoth.ranking "score" ascending = .error .integerTooLarge) ∧
      (∀ limit ascending, sampleBoth.leaderboard "score" limit ascending = .error .integerTooLarge) ∧
      (∀ id ascending, sampleBoth.rankOf id "score" ascending = .error .integerTooLarge) ∧
      ((Act.leaderboard ⟨.myRank, "score", 10, false, []⟩ ⟨.ofUser "u", []⟩).run.run
        ⟨{ Runner.sampleWorld with store := sampleBoth }, .start []⟩).1 = .error .integerTooLarge := by
  have hfive : sampleFirst.canFind .shared "score" = .ok () ∧
      Store.scores "score" sampleFirst.rows = .ok [("u", .int 5)] := by
    rw [sampleFirst_eq]
    decide +kernel
  have hlarge : sampleBoth.canFind .shared "score" = .ok () ∧
      Store.scores "score" sampleBoth.rows = .error .integerTooLarge := by
    rw [sampleBoth_eq, sampleFirst_eq]
    decide +kernel
  have hfirst : sampleFirst.ranking "score" false = .ok [("u", .int 5)] := by
    rw [Store.ranking, hfive.1, hfive.2]
    simp [bind, Except.bind]
  have hboth : ∀ ascending, sampleBoth.ranking "score" ascending = .error .integerTooLarge := by
    intro ascending
    rw [Store.ranking, hlarge.1, hlarge.2]
    rfl
  refine ⟨?_, hboth, ?_, ?_, ?_⟩
  · rw [Store.rankOf, hfirst]
    exact ⟨_, rfl, rfl, rfl, rfl⟩
  · intro limit ascending
    rw [Store.leaderboard, hboth]
    rfl
  · intro id ascending
    rw [Store.rankOf, hboth]
    rfl
  · rw [sampleBoth_eq, sampleFirst_eq]
    decide +kernel

end ChatFlow
