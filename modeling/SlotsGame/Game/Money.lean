/-
# SlotsGame.Game.Money -- 64-bit amounts that refuse to overflow

`safeAdd`, `safeMul` and `addOutcomeMoney` are the only ways the game package
combines amounts, and each is characterised by when it accepts.  `scaleWaysAward`
rounds a catalog award to the nearest minor unit and never to nothing.
-/
import Mathlib.Tactic.Ring
import Mathlib.Algebra.Order.Ring.Int
import SlotsGame.Theory.Effects

namespace SlotsGame.Game

open SlotsGame.Theory

set_option autoImplicit false

/-- `math.MaxInt64`, and `math.MaxInt` on the 64-bit targets the server builds for. -/
def maxInt64 : Int := 9223372036854775807

theorem maxInt64_pos : 0 < maxInt64 := by decide

/-- `fmt.Errorf("...%w", err)`: an error keeps its text behind a context. -/
def wrap {α : Type} (context : String) : Except String α → Except String α
  | .error text => .error (context ++ text)
  | .ok a => .ok a

@[simp] theorem wrap_ok {α : Type} {context : String} {checked : Except String α} {a : α} :
    wrap context checked = .ok a ↔ checked = .ok a := by
  cases checked <;> simp [wrap]

/-- An error replaced by another text. -/
def relabel {α : Type} (text : String) : Except String α → Except String α
  | .error _ => .error text
  | .ok a => .ok a

@[simp] theorem relabel_ok {α : Type} {text : String} {checked : Except String α} {a : α} :
    relabel text checked = .ok a ↔ checked = .ok a := by
  cases checked <;> simp [relabel]

def safeAdd (a b : Int) : Except String Int := do
  refuse (a < 0 ∨ b < 0) "negative money is not allowed"
  refuse (a > maxInt64 - b) "int64 overflow"
  pure (a + b)

def safeMul (a b : Int) : Except String Int := do
  refuse (a < 0 ∨ b < 0) "negative money is not allowed"
  refuse (a ≠ 0 ∧ b > maxInt64 / a) "int64 overflow"
  pure (a * b)

/-- The outcome validator's own addition, with one error for both failures. -/
def addOutcomeMoney (left right : Int) : Except String Int := do
  refuse (left < 0 ∨ right < 0 ∨ left > maxInt64 - right) "outcome: award total overflows int64"
  pure (left + right)

theorem safeAdd_ok {a b c : Int} :
    safeAdd a b = .ok c ↔ 0 ≤ a ∧ 0 ≤ b ∧ a + b ≤ maxInt64 ∧ c = a + b := by
  simp only [safeAdd, bind_ok, refuse_ok, exists_unit, pure_ok]
  omega

theorem addOutcomeMoney_ok {a b c : Int} :
    addOutcomeMoney a b = .ok c ↔ 0 ≤ a ∧ 0 ≤ b ∧ a + b ≤ maxInt64 ∧ c = a + b := by
  simp only [addOutcomeMoney, bind_ok, refuse_ok, exists_unit, pure_ok]
  omega

theorem safeMul_ok {a b c : Int} :
    safeMul a b = .ok c ↔ 0 ≤ a ∧ 0 ≤ b ∧ a * b ≤ maxInt64 ∧ c = a * b := by
  simp only [safeMul, bind_ok, refuse_ok, exists_unit, pure_ok, not_or, not_and, not_lt, gt_iff_lt]
  constructor
  · rintro ⟨⟨aNonneg, bNonneg⟩, fits, rfl⟩
    refine ⟨aNonneg, bNonneg, ?_, rfl⟩
    rcases aNonneg.eq_or_lt with rfl | positive
    · simpa using maxInt64_pos.le
    · have := (Int.le_ediv_iff_mul_le positive).mp (fits positive.ne')
      rwa [mul_comm]
  · rintro ⟨aNonneg, bNonneg, fits, rfl⟩
    refine ⟨⟨aNonneg, bNonneg⟩, fun nonzero => ?_, rfl⟩
    have positive : 0 < a := lt_of_le_of_ne aNonneg (Ne.symm nonzero)
    exact (Int.le_ediv_iff_mul_le positive).mpr (by rwa [mul_comm])

/-- Round `amount × bet / unit` half up, and pay a positive amount at least one
minor unit.  No operand is negative where it is called, so `/` and `%` are the
source's truncating operators. -/
def scaleWaysAward (amountMinor betMinor payUnitMinor : Int) : Except String Int := do
  let numerator ← safeMul amountMinor betMinor
  let quotient := numerator / payUnitMinor
  let remainder := numerator % payUnitMinor
  refuse (remainder ≥ payUnitMinor - remainder ∧ quotient = maxInt64) "int64 overflow"
  let quotient := if remainder ≥ payUnitMinor - remainder then quotient + 1 else quotient
  pure (if amountMinor > 0 ∧ quotient = 0 then 1 else quotient)

/-! ## What scaling computes -/

/-- `numerator / unit` rounded to the nearest integer, halves up. -/
def roundHalfUp (numerator unit : Int) : Int := (2 * numerator + unit) / (2 * unit)

def scaledAward (amountMinor betMinor payUnitMinor : Int) : Int :=
  if amountMinor > 0 ∧ roundHalfUp (amountMinor * betMinor) payUnitMinor = 0 then 1
  else roundHalfUp (amountMinor * betMinor) payUnitMinor

theorem roundHalfUp_eq {numerator unit : Int} (positive : 0 < unit) :
    roundHalfUp numerator unit =
      if numerator % unit ≥ unit - numerator % unit then numerator / unit + 1
      else numerator / unit := by
  have split := Int.mul_ediv_add_emod numerator unit
  have low := Int.emod_nonneg numerator positive.ne'
  have high := Int.emod_lt_of_pos numerator positive
  generalize numerator / unit = quotient at *
  generalize numerator % unit = remainder at *
  have regroup : 2 * numerator + unit = 2 * remainder + unit + 2 * unit * quotient := by
    rw [← split]; ring
  unfold roundHalfUp
  rw [regroup, Int.add_mul_ediv_left _ _ (by omega), add_comm]
  split
  · have once : (2 * remainder + unit) / (2 * unit) = 1 :=
      (Int.ediv_eq_iff_of_pos (by omega)).mpr (by omega)
    rw [once]
  · rw [Int.ediv_eq_zero_of_lt (by omega) (by omega), add_zero]

theorem roundHalfUp_mono {low high unit : Int} (positive : 0 < unit) (le : low ≤ high) :
    roundHalfUp low unit ≤ roundHalfUp high unit :=
  Int.ediv_le_ediv (by omega) (by omega)

theorem roundHalfUp_nonneg {numerator unit : Int} (positive : 0 < unit)
    (nonneg : 0 ≤ numerator) : 0 ≤ roundHalfUp numerator unit :=
  Int.ediv_nonneg (by omega) (by omega)

/-- Scaling fails only where the product leaves 64 bits: a quotient of
`maxInt64` never rounds up. -/
theorem scaleWaysAward_ok {amount bet unit scaled : Int} (positive : 0 < unit) :
    scaleWaysAward amount bet unit = .ok scaled ↔
      0 ≤ amount ∧ 0 ≤ bet ∧ amount * bet ≤ maxInt64 ∧ scaled = scaledAward amount bet unit := by
  have noOverflow : amount * bet ≤ maxInt64 →
      ¬ (amount * bet % unit ≥ unit - amount * bet % unit ∧ amount * bet / unit = maxInt64) := by
    rintro fits ⟨up, top⟩
    have split := Int.mul_ediv_add_emod (amount * bet) unit
    rw [top] at split
    have : maxInt64 ≤ unit * maxInt64 := le_mul_of_one_le_left maxInt64_pos.le positive
    omega
  simp only [scaleWaysAward, bind_ok, safeMul_ok, refuse_ok, pure_ok, ← roundHalfUp_eq positive]
  constructor
  · rintro ⟨_, ⟨amountNonneg, betNonneg, fits, rfl⟩, _, _, rfl⟩
    exact ⟨amountNonneg, betNonneg, fits, rfl⟩
  · rintro ⟨amountNonneg, betNonneg, fits, rfl⟩
    exact ⟨_, ⟨amountNonneg, betNonneg, fits, rfl⟩, (), noOverflow fits, rfl⟩

theorem scaledAward_pos {amount bet unit : Int} (positive : 0 < unit) (amountPos : 0 < amount)
    (betNonneg : 0 ≤ bet) : 0 < scaledAward amount bet unit := by
  have := roundHalfUp_nonneg positive (mul_nonneg amountPos.le betNonneg)
  unfold scaledAward
  split <;> omega

theorem scaledAward_mono {amount amount' bet bet' unit : Int} (positive : 0 < unit)
    (amountPos : 0 < amount) (betNonneg : 0 ≤ bet) (amountLe : amount ≤ amount')
    (betLe : bet ≤ bet') : scaledAward amount bet unit ≤ scaledAward amount' bet' unit := by
  have product : amount * bet ≤ amount' * bet' :=
    mul_le_mul amountLe betLe betNonneg (amountPos.le.trans amountLe)
  have := roundHalfUp_mono positive product
  have := roundHalfUp_nonneg positive (mul_nonneg amountPos.le betNonneg)
  unfold scaledAward
  split <;> split <;> omega

end SlotsGame.Game
