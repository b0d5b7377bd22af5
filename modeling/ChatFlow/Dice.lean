import ChatFlow.Double.Arithmetic
import ChatFlow.Fault

/-!
# Dice

All random choices come from one sequence of faces from 0 to 999, which is read over and over again.
A face chooses among `n` things in proportion: the face 500 chooses the middle one.

* `Dice.roll`: the next face.
* `Dice.below`, `Dice.between`, `Dice.pick`, `Dice.fraction`: choices, one face each.
-/

namespace ChatFlow

/-- A sequence of faces, and how many of them have been rolled. -/
structure Dice where
  faces : List (Fin 1000)
  rolled : Nat
deriving DecidableEq, Repr

namespace Dice

/-- Dice that have not been rolled yet, of faces that are given as numbers below 1000. -/
def ofNumbers (ns : List Nat) : Dice :=
  ⟨ns.map fun n => ⟨n % 1000, Nat.mod_lt n (by decide)⟩, 0⟩

/-- The face that is rolled next; without any faces it is the middle one. -/
def face (d : Dice) : Fin 1000 := (d.faces[d.rolled % d.faces.length]?).getD 500

/-- Rolls one face. -/
def roll (d : Dice) : Fin 1000 × Dice := (d.face, { d with rolled := d.rolled + 1 })

/-- A number from 0 to `n - 1`; nothing is rolled if there is none. -/
def below (n : Int) (d : Dice) : Except Fault (Int × Dice) :=
  if n ≤ 0 then .error .emptyRange
  else
    let (k, d) := d.roll
    .ok ((k.val : Int) * n / 1000, d)

/-- A number from `low` to `high`. -/
def between (low high : Int) (d : Dice) : Except Fault (Int × Dice) :=
  (d.below (high - low + 1)).map fun (n, d) => (low + n, d)

/-- One of the things of a list. -/
def pick {α : Type} (things : List α) (d : Dice) : Except Fault (α × Dice) := do
  let (n, d) ← d.below things.length
  match things[n.toNat]? with
  | some thing => .ok (thing, d)
  | none => .error .emptyRange

/-- A double from 0 to 0.999. -/
def fraction (d : Dice) : Double × Dice :=
  let (k, d) := d.roll
  (.ofRatio k.val 1000, d)

/-! ## Laws -/

/-- A number below `n` is one. -/
theorem below_lt {n m : Int} {d e : Dice} (h : d.below n = .ok (m, e)) : 0 ≤ m ∧ m < n := by
  unfold below at h
  split at h
  · cases h
  · next hn =>
      simp only [roll, Except.ok.injEq, Prod.mk.injEq] at h
      obtain ⟨rfl, -⟩ := h
      have hf := d.face.isLt
      have hk : (0 : Int) ≤ d.face.val := Int.natCast_nonneg _
      have hk' : ((d.face.val : Nat) : Int) < 1000 := by omega
      refine ⟨Int.ediv_nonneg (Int.mul_nonneg hk (by omega)) (by decide), ?_⟩
      apply Int.ediv_lt_of_lt_mul (by decide)
      have : ((d.face.val : Nat) : Int) * n < 1000 * n := Int.mul_lt_mul_of_pos_right hk' (by omega)
      omega

end Dice

end ChatFlow
