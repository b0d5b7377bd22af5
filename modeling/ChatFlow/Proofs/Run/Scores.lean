import ChatFlow.Proofs.Double.Places
import ChatFlow.Proofs.Run.Stored

/-!
# Scores as they are kept and shown

A number is kept as an integer if it is whole, and with two decimal places otherwise. Only whether it was whole before is
looked at: a number close to an integer is rounded to a whole double that stays a double. It would become an integer if it
was rounded again, and a ranking shows it with one place.

* `Text.IsScore`: a text without a point, or with two places behind it.
* `Value.roundNumber_rounded_iff`, `Act.isScore_scoreText_iff`: which numbers stay as they are, and are shown so.
* `Act.run_leaderboard`: what the node for rankings shows.
* `Act.scores_settled_unless_near_integer`: all of it.
-/

namespace ChatFlow

/-! ## Texts of scores -/

namespace Text

/-- A text is an integer, or a number with two places behind its point. -/
def IsScore (t : Text) : Prop :=
  (∃ negative ds, ds.IsNumeral ∧ t = integer negative ds) ∨ ∃ negative n, t.WritesHundredths negative n

/-- The places behind the point of a number are settled. -/
theorem places_of_fraction {negative other : Bool} {ds es places others : Text} (hds : ds.IsNumeral) (hes : es.IsNumeral)
    (h : fraction negative ds places = fraction other es others) : places = others := by
  have hpoint : ∀ (s : Bool) {ds : Text}, ds.IsNumeral → .scalar '.' ∉ minus s ++ ds := by
    intro s ds hds hmem
    rcases List.mem_append.mp hmem with hminus | hdigit
    · exact notMem_minus (by decide) s hminus
    · exact hds.notMem (by decide) hdigit
  have hparts := congrArg (partition '.') h
  rw [fraction, fraction, ← List.append_assoc, ← List.append_assoc, partition_append (hpoint _ hds),
    partition_append (hpoint _ hes)] at hparts
  exact Option.some.inj (Prod.mk.inj hparts).2

/-- A number with one place is none. -/
theorem not_isScore_onePlace (negative : Bool) {ds : Text} (hds : ds.IsNumeral) :
    ¬ (fraction negative ds "0").IsScore := by
  rintro (⟨other, es, hes, h⟩ | ⟨other, n, es, places, hes, -, htwo, -, h⟩)
  · exact fraction_ne_integer hes h
  · rw [← places_of_fraction hds hes h] at htwo
    cases htwo

theorem isScore_ofInt (n : Int) : (ofInt n).IsScore := by
  refine .inl ⟨decide (n < 0), ofNat n.natAbs, isNumeral_ofNat _, ?_⟩
  by_cases hn : n < 0
  · rw [ofInt, if_pos hn, integer, minus, decide_eq_true hn]
    rfl
  · rw [ofInt, if_neg hn, integer, minus, decide_eq_false hn]
    rfl

end Text

/-! ## Rounding again -/

variable {x : Double} {a : ℝ} {k : ℤ}

namespace Double

/-- A whole number is kept as its integer. -/
theorem rounded_of_eq (hx : x.value? = some (a : EReal)) (h : a = k) : x.rounded = .int k :=
  rounded_of_whole? ((whole?_iff_of_value? hx).mpr h)

/-- A number that is not whole is kept with two places. -/
theorem exists_rounded_places (hx : x.value? = some (a : EReal)) (h : ∀ k : ℤ, a ≠ k) :
    ∃ s m r, x = finite s m ∧ real s m = a ∧ Places s m r ∧ x.rounded = .float (finite s r) := by
  have hfraction : ¬ x.isIntegral = true := by
    rw [isIntegral_iff]
    rintro ⟨k, hk⟩
    exact h k ((whole?_iff_of_value? hx).mp hk)
  obtain ⟨s, m, rfl, rfl⟩ := exists_finite hx
  have hdvd : ¬ unit ∣ m.quanta := by
    rwa [isIntegral, beq_iff_eq, ← Nat.dvd_iff_mod_eq_zero] at hfraction
  obtain ⟨r, hr⟩ := exists_places s hdvd
  exact ⟨s, m, r, rfl, rfl, hr, by rw [rounded, if_neg hfraction, hr.rounded]⟩

variable {s : Bool} {m r : Magnitude}

/-- Two places that are those of no integer stay as they are when they are rounded again. -/
theorem Places.far (h : Places s m r) (hfar : ¬ ∃ k : ℤ, |real s m - k| ≤ 1 / 200) :
    (finite s r).isIntegral = false ∧ (finite s r).rounded = .float (finite s r) := by
  have hfraction : (finite s r).isIntegral = false := by
    rw [← Bool.not_eq_true, isIntegral_iff]
    simpa only [h.whole_iff] using hfar
  exact ⟨hfraction, by rw [Double.rounded, if_neg (Bool.eq_false_iff.mp hfraction), h.again]⟩

/-- Two places that are those of an integer are this integer when they are rounded again. -/
theorem Places.near (h : Places s m r) (hnear : |real s m - k| ≤ 1 / 200) :
    (finite s r).isIntegral = true ∧ (finite s r).rounded = .int k := by
  have hwhole := (h.whole_iff k).mpr hnear
  exact ⟨isIntegral_iff.mpr ⟨k, hwhole⟩, rounded_of_whole? hwhole⟩

/-- A whole double that was rounded is written with one place. -/
theorem Places.toText_near (h : Places s m r) (hnear : |real s m - k| ≤ 1 / 200) :
    (finite s r).toText = Text.fraction s (Text.ofNat k.natAbs) "0" := by
  have hwhole := (h.whole_iff k).mpr hnear
  rw [whole?_eq_some_iff, quanta?, Option.some.injEq] at hwhole
  have hquanta : r.quanta = k.natAbs * unit := by
    have hnatAbs := congrArg Int.natAbs hwhole
    rw [Int.natAbs_mul, Int.natAbs_natCast] at hnatAbs
    rw [← hnatAbs]
    cases s with
    | false => rfl
    | true => rw [if_pos rfl, Int.natAbs_neg, Int.natAbs_natCast]
  have hbits := h.bits
  rw [hquanta] at hbits
  exact toText_whole s hquanta (Nat.le_of_mul_le_mul_right hbits unit_pos)

end Double

namespace Value

theorem roundNumber_rounded_of_eq (hx : x.value? = some (a : EReal)) (h : a = k) :
    x.rounded.roundNumber = .ok x.rounded := by
  have hrounded := Double.rounded_of_eq hx h
  rw [hrounded, roundNumber, doubleOfInt_eq, if_pos (Double.exact_of_rounded hrounded).natAbs_lt_beyond]
  rfl

/-- Which numbers stay as they are when they are rounded again. -/
theorem roundNumber_rounded_iff (hx : x.value? = some (a : EReal)) :
    x.rounded.roundNumber = .ok x.rounded ↔ ∀ k : ℤ, |a - k| ≤ 1 / 200 → a = k := by
  by_cases hwhole : ∃ k : ℤ, a = k
  · obtain ⟨k, rfl⟩ := hwhole
    exact iff_of_true (roundNumber_rounded_of_eq hx rfl) fun j hclose => congrArg _ (Double.eq_of_close hclose)
  · obtain ⟨s, m, r, rfl, rfl, hr, hrounded⟩ := Double.exists_rounded_places hx (not_exists.mp hwhole)
    rw [hrounded]
    by_cases hnear : ∃ k : ℤ, |Double.real s m - k| ≤ 1 / 200
    · obtain ⟨k, hk⟩ := hnear
      refine iff_of_false ?_ fun hstays => hwhole ⟨k, hstays k hk⟩
      rw [roundNumber, (hr.near hk).2]
      nofun
    · rw [roundNumber, (hr.far hnear).2]
      exact iff_of_true rfl fun k hk => absurd ⟨k, hk⟩ hnear

end Value

namespace Act

variable {sc sc₁ : Scene} {m : Message} {d : LeaderboardData}

/-! ## Rankings -/

/-- Which numbers are shown as scores. -/
theorem isScore_scoreText_iff (hx : x.value? = some (a : EReal)) :
    (scoreText x.rounded).IsScore ↔ ∀ k : ℤ, |a - k| ≤ 1 / 200 → a = k := by
  by_cases hwhole : ∃ k : ℤ, a = k
  · obtain ⟨k, rfl⟩ := hwhole
    rw [Double.rounded_of_eq hx rfl]
    exact iff_of_true (Text.isScore_ofInt k) fun j hclose => congrArg _ (Double.eq_of_close hclose)
  · obtain ⟨s, m, r, rfl, rfl, hr, hrounded⟩ := Double.exists_rounded_places hx (not_exists.mp hwhole)
    rw [hrounded, scoreText]
    by_cases hnear : ∃ k : ℤ, |Double.real s m - k| ≤ 1 / 200
    · obtain ⟨k, hk⟩ := hnear
      refine iff_of_false ?_ fun hstays => hwhole ⟨k, hstays k hk⟩
      rw [if_pos (hr.near hk).1, hr.toText_near hk]
      exact Text.not_isScore_onePlace s (Text.isNumeral_ofNat _)
    · rw [if_neg (Bool.eq_false_iff.mp (hr.far hnear).1)]
      exact iff_of_true (.inr ⟨s, _, Double.writesHundredths_fixedText s r⟩) fun k hk => absurd ⟨k, hk⟩ hnear

/-- The node for rankings fills in its key and shows a line for each of the first users, with their scores. -/
theorem run_leaderboard {key : Text} {entries : List (Text × Value)} (htop : d.query = .top)
    (hkey : (render m d.key).run.run sc = (.ok key, sc₁))
    (hentries : sc₁.world.store.leaderboard (rankedKey key) d.limit d.ascending = .ok entries) :
    (leaderboard d m).run.run sc = (.ok (), { sc₁ with
      context := (sc₁.context.set "leaderboard" (.text (Text.join "\n" (rankingLines 0 entries)))).set
        "leaderboard_list" (.list (entries.map fun (id, v) => .list [.text id, v])) }) := by
  rw [rankedKey] at hentries
  unfold leaderboard
  rw [run_bind, hkey, htop]
  simp only [run_bind, run_world, run_lift, hentries]
  rfl

/-- What is ranked are numbers in their short form. -/
theorem rounded_of_leaderboard {store : Store} {key : Text} {limit : Int} {ascending : Bool}
    {entries : List (Text × Value)} (h : store.leaderboard key limit ascending = .ok entries) :
    ∀ entry ∈ entries, ∃ x : Double, x.isNaN = false ∧ entry.2 = x.rounded := by
  rintro ⟨id, v⟩ hmem
  rw [Store.leaderboard] at h
  cases hranking : store.ranking key ascending with
  | error fault =>
      rw [hranking] at h
      cases h
  | ok ranked =>
      rw [hranking] at h
      cases h
      obtain ⟨-, -, rfl⟩ := Store.ranking_eq_ok_iff.mp hranking
      have hheld := List.mem_mergeSort.mp (List.mem_of_mem_take hmem)
      obtain ⟨row, -, hrow⟩ := List.mem_filterMap.mp hheld
      obtain ⟨x, -, hnumber, hv⟩ := Store.score?_eq_some_iff.mp (Store.scored?_eq_some_iff.mp hrow).2
      exact ⟨x, hnumber, hv⟩

/-- A finite number is kept as an integer if it is whole, and otherwise as the nearest double to its nearest number of
hundredths. It stays so when it is rounded again, and a ranking shows it without a point or with two places, unless it is
close to an integer that it is not: up to half a hundredth away from one, it is kept as a double that is this integer,
becomes the integer when it is rounded again, and is shown with one place. A ranking shows such numbers only. -/
theorem scores_settled_unless_near_integer (hx : x.value? = some (a : EReal)) :
    (∀ k : ℤ, a = k → x.rounded = .int k) ∧
    ((∀ k : ℤ, a ≠ k) → ∃ r n, x.rounded = .float r ∧ Double.IsHundredths a n ∧ r.IsNearest (n / 100)) ∧
    (x.rounded.roundNumber = .ok x.rounded ↔ ∀ k : ℤ, |a - k| ≤ 1 / 200 → a = k) ∧
    ((scoreText x.rounded).IsScore ↔ ∀ k : ℤ, |a - k| ≤ 1 / 200 → a = k) ∧
    (∀ k : ℤ, |a - k| ≤ 1 / 200 → a ≠ k → ∃ r, x.rounded = .float r ∧ r.whole? = some k ∧
      x.rounded.roundNumber = .ok (.int k) ∧
      scoreText x.rounded = Text.fraction x.isNegative (Text.ofNat k.natAbs) "0") ∧
    ∀ (d : LeaderboardData) (m : Message) (sc sc₁ : Scene) (key : Text) (entries : List (Text × Value)),
      d.query = .top → (render m d.key).run.run sc = (.ok key, sc₁) →
      sc₁.world.store.leaderboard (rankedKey key) d.limit d.ascending = .ok entries →
      (leaderboard d m).run.run sc = (.ok (), { sc₁ with
        context := (sc₁.context.set "leaderboard" (.text (Text.join "\n" (rankingLines 0 entries)))).set
          "leaderboard_list" (.list (entries.map fun (id, v) => .list [.text id, v])) }) ∧
      ∀ entry ∈ entries, ∃ y : Double, y.isNaN = false ∧ entry.2 = y.rounded := by
  refine ⟨fun k => Double.rounded_of_eq hx, fun hnot => ?_, Value.roundNumber_rounded_iff hx,
    isScore_scoreText_iff hx, fun k hk hne => ?_, ?_⟩
  · obtain ⟨s, m, r, rfl, rfl, hr, hrounded⟩ := Double.exists_rounded_places hx hnot
    exact ⟨_, _, hrounded, Double.isHundredths_real s m, hr.nearest⟩
  · have hnot : ∀ j : ℤ, a ≠ j := by
      rintro j rfl
      exact hne (congrArg _ (Double.eq_of_close hk))
    obtain ⟨s, m, r, rfl, rfl, hr, hrounded⟩ := Double.exists_rounded_places hx hnot
    obtain ⟨hintegral, hagain⟩ := hr.near hk
    refine ⟨_, hrounded, (hr.whole_iff k).mpr hk, ?_, ?_⟩
    · rw [hrounded, Value.roundNumber, hagain]
    · rw [hrounded, scoreText, if_pos hintegral, hr.toText_near hk]
      rfl
  · intro d m sc sc₁ key entries htop hkey hentries
    exact ⟨run_leaderboard htop hkey hentries, rounded_of_leaderboard hentries⟩

/-- A user has a score of one and a half. -/
def sampleScore : Store := (Store.empty.write (.user "u") "score" (.float (.ofRatio 3 2))).2

/-- It is shown with two places. -/
theorem scores_settled_unless_near_integer_of_sample :
    let x : Double := .ofRatio 3 2
    let d : LeaderboardData := ⟨.top, "score", 10, false, []⟩
    let m : Message := ⟨.ofUser "u", []⟩
    let sc : Scene := ⟨sampleWorld sampleScore, .start []⟩
    (x.value? = some (((3 : ℤ) / (2 : ℤ) : ℝ) : EReal) ∧ (render m d.key).run.run sc = (.ok "score", sc) ∧
        sc.world.store.leaderboard (rankedKey "score") d.limit d.ascending = .ok [("u", .float x)]) ∧
      x.rounded.roundNumber = .ok x.rounded ∧ (scoreText x.rounded).IsScore ∧
      ((leaderboard d m).run.run sc).2.context.get "leaderboard" = .text "1. u... : 1.50" := by
  intro x d m sc
  have hquanta : x.quanta? = some (3 * 2 ^ 1073) ∧ (3 * 2 ^ 1073 : ℤ) * 2 = 3 * Double.unit := by decide +kernel
  have hx : x.value? = some (((3 : ℤ) / (2 : ℤ) : ℝ) : EReal) :=
    Double.value?_of_quanta hquanta.1 (by decide) hquanta.2
  have hkey : (render m d.key).run.run sc = (.ok "score", sc) := run_render_of_no_brace m sc (by decide)
  have hentries : sc.world.store.leaderboard (rankedKey "score") d.limit d.ascending = .ok [("u", .float x)] := by
    have hfind : sc.world.store.canFind .shared (rankedKey "score") = .ok () := by decide +kernel
    have hscores : Store.scores (rankedKey "score") sc.world.store.rows = .ok [("u", .float x)] := by decide +kernel
    rw [Store.leaderboard, Store.ranking, hfind, hscores]
    simp [bind, Except.bind, Except.map, d]
  have hfar : ∀ k : ℤ, |((3 : ℤ) / (2 : ℤ) : ℝ) - k| ≤ 1 / 200 → ((3 : ℤ) / (2 : ℤ) : ℝ) = k := by
    intro k hk
    rw [abs_le] at hk
    push_cast at hk
    have hless : (1 : ℝ) < k := by linarith
    have hmore : (k : ℝ) < 2 := by linarith
    have hless' : 1 < k := by exact_mod_cast hless
    have hmore' : k < 2 := by exact_mod_cast hmore
    omega
  obtain ⟨-, -, hagain, hshown, -, hnode⟩ := scores_settled_unless_near_integer hx
  obtain ⟨hrun, -⟩ := hnode d m sc sc "score" [("u", .float x)] rfl hkey hentries
  refine ⟨⟨hx, hkey, hentries⟩, hagain.mpr hfar, hshown.mpr hfar, ?_⟩
  rw [hrun]
  decide +kernel

/-- A little less than two is kept as the double that is two. It would become the integer, and is shown with one place. -/
theorem score_near_two :
    let x : Double := .ofRatio 1999 1000
    x.rounded = .float 2 ∧ x.rounded.roundNumber = .ok (.int 2) ∧ rankingLine 0 ("u", x.rounded) = "1. u... : 2.0" := by
  decide +kernel

end Act

end ChatFlow
