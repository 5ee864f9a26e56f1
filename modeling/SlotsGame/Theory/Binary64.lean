/-
# SlotsGame.Theory.Binary64 -- rounding to a double

`binary64` is the rounding of an operation in IEEE 754 binary64, to nearest with ties
to even, for values in the range of normal numbers: a significand of 53 bits and an
exponent that is not bounded.  `Rounding` is what an argument about such arithmetic needs
of it: it keeps the order of nonnegative values, and the integers that are doubles.
-/
import Mathlib.Data.Int.Log
import Mathlib.Data.Rat.Floor
import Mathlib.Tactic.Linarith
import Mathlib.Tactic.Positivity

namespace SlotsGame.Theory

set_option autoImplicit false

/-- The nearest integer, the even one of two. -/
def nearestEven (value : ℚ) : Int :=
  if Int.fract value < 1 / 2 ∨ (Int.fract value = 1 / 2 ∧ ⌊value⌋ % 2 = 0) then ⌊value⌋
  else ⌊value⌋ + 1

/-- The last place of a value: 53 bits from its first one. -/
def lastPlace (value : ℚ) : ℚ := 2 ^ (Int.log 2 |value| - 52)

def binary64 (value : ℚ) : ℚ := nearestEven (value / lastPlace value) * lastPlace value

/-- A rounding that keeps the order and the integers up to 2^53, where nothing is
negative. -/
structure Rounding (round : ℚ → ℚ) : Prop where
  mono : ∀ {least most : ℚ}, 0 ≤ least → least ≤ most → round least ≤ round most
  natural : ∀ {n : ℕ}, n ≤ 2 ^ 53 → round n = n

namespace Rounding

variable {round : ℚ → ℚ} (rounds : Rounding round) {value : ℚ}

theorem exact : Rounding fun value => value := ⟨fun _ ordered => ordered, fun _ => rfl⟩

include rounds

theorem nonneg (positive : 0 ≤ value) : 0 ≤ round value := by
  have zero : round 0 = 0 := by simpa using rounds.natural (Nat.zero_le (2 ^ 53))
  have := rounds.mono (le_refl 0) positive
  rwa [zero] at this

theorem at_most {bound : ℕ} (positive : 0 ≤ value) (small : value ≤ bound)
    (double : bound ≤ 2 ^ 53) : round value ≤ bound := by
  have := rounds.mono positive small
  rwa [rounds.natural double] at this

end Rounding

/-! ## Nearest integers -/

theorem nearestEven_int (n : ℤ) : nearestEven n = n := by
  unfold nearestEven
  rw [Int.fract_intCast, Int.floor_intCast, if_pos (Or.inl (by norm_num))]

theorem floor_le_nearestEven (value : ℚ) : ⌊value⌋ ≤ nearestEven value := by
  unfold nearestEven
  split <;> omega

theorem nearestEven_le_succ (value : ℚ) : nearestEven value ≤ ⌊value⌋ + 1 := by
  unfold nearestEven
  split <;> omega

theorem nearestEven_mono {least most : ℚ} (ordered : least ≤ most) :
    nearestEven least ≤ nearestEven most := by
  rcases (Int.floor_mono ordered).lt_or_eq with apart | same
  · have := nearestEven_le_succ least
    have := floor_le_nearestEven most
    omega
  · have fracts : Int.fract least ≤ Int.fract most := by
      rw [Int.fract, Int.fract, same]
      linarith
    unfold nearestEven
    rw [same]
    split_ifs with low high high
    · exact le_refl _
    · omega
    · refine absurd ?_ low
      rcases high with below | ⟨half, even⟩
      · exact Or.inl (lt_of_le_of_lt fracts below)
      · rcases fracts.lt_or_eq with below | equal
        · exact Or.inl (lt_of_lt_of_eq below half)
        · exact Or.inr ⟨equal.trans half, even⟩
    · exact le_refl _

/-! ## Doubles -/

theorem lastPlace_pos (value : ℚ) : 0 < lastPlace value :=
  zpow_pos (by norm_num) _

section Binade

variable {value : ℚ} (positive : 0 < value)
include positive

theorem least_of_binade : (2 : ℚ) ^ Int.log 2 value ≤ value := by
  exact_mod_cast Int.zpow_log_le_self (b := 2) (by norm_num) positive

omit positive in
theorem below_binade (value : ℚ) : value < (2 : ℚ) ^ (Int.log 2 value + 1) := by
  exact_mod_cast Int.lt_zpow_succ_log_self (b := 2) (by norm_num) value

/-- A power of two above the last place is a whole number of last places. -/
theorem power_of_places (bits : ℕ) :
    (2 : ℚ) ^ (Int.log 2 value - 52 + bits) = ((2 ^ bits : ℤ) : ℚ) * lastPlace value := by
  rw [lastPlace, abs_of_pos positive, zpow_add₀ (by norm_num), zpow_natCast, mul_comm,
    Int.cast_pow]
  rfl

/-- Rounding stays within the binade, or reaches the next one. -/
theorem binary64_le_binade : binary64 value ≤ (2 : ℚ) ^ (Int.log 2 value + 1) := by
  have unit := lastPlace_pos value
  have top : (2 : ℚ) ^ (Int.log 2 value + 1) = ((2 ^ 53 : ℤ) : ℚ) * lastPlace value := by
    rw [← power_of_places positive 53]
    congr 1
    omega
  have inside : value / lastPlace value ≤ (2 ^ 53 : ℤ) := by
    rw [div_le_iff₀ unit, ← top]
    exact le_of_lt (below_binade value)
  have rounded := nearestEven_mono inside
  rw [nearestEven_int] at rounded
  rw [top, binary64]
  exact mul_le_mul_of_nonneg_right (by exact_mod_cast rounded) (le_of_lt unit)

theorem binade_le_binary64 : (2 : ℚ) ^ Int.log 2 value ≤ binary64 value := by
  have unit := lastPlace_pos value
  have bottom : (2 : ℚ) ^ Int.log 2 value = ((2 ^ 52 : ℤ) : ℚ) * lastPlace value := by
    rw [← power_of_places positive 52]
    congr 1
    omega
  have inside : ((2 ^ 52 : ℤ) : ℚ) ≤ value / lastPlace value := by
    rw [le_div_iff₀ unit, ← bottom]
    exact least_of_binade positive
  have rounded := nearestEven_mono inside
  rw [nearestEven_int] at rounded
  rw [bottom, binary64]
  exact mul_le_mul_of_nonneg_right (by exact_mod_cast rounded) (le_of_lt unit)

end Binade

theorem binary64_zero : binary64 0 = 0 := by
  have : nearestEven 0 = 0 := by exact_mod_cast nearestEven_int 0
  rw [binary64, zero_div, this]
  simp

theorem binary64_mono {least most : ℚ} (nonneg : 0 ≤ least) (ordered : least ≤ most) :
    binary64 least ≤ binary64 most := by
  rcases nonneg.eq_or_lt with rfl | positive
  · rw [binary64_zero]
    rcases ordered.eq_or_lt with rfl | positive
    · rw [binary64_zero]
    · exact le_trans (le_of_lt (zpow_pos (by norm_num) _)) (binade_le_binary64 positive)
  have greater := lt_of_lt_of_le positive ordered
  rcases (Int.log_mono_right (b := 2) positive ordered).lt_or_eq with apart | same
  · calc binary64 least ≤ (2 : ℚ) ^ (Int.log 2 least + 1) := binary64_le_binade positive
      _ ≤ (2 : ℚ) ^ Int.log 2 most := zpow_le_zpow_right₀ (by norm_num) (by omega)
      _ ≤ binary64 most := binade_le_binary64 greater
  · have place : lastPlace least = lastPlace most := by
      rw [lastPlace, lastPlace, abs_of_pos positive, abs_of_pos greater, same]
    have unit := le_of_lt (lastPlace_pos most)
    have rounded := nearestEven_mono (div_le_div_of_nonneg_right ordered unit)
    rw [binary64, binary64, place]
    exact mul_le_mul_of_nonneg_right (by exact_mod_cast rounded) unit

theorem binary64_natural {n : ℕ} (double : n ≤ 2 ^ 53) : binary64 n = n := by
  rcases Nat.eq_zero_or_pos n with rfl | positive
  · exact_mod_cast binary64_zero
  have positive : (0 : ℚ) < n := by exact_mod_cast positive
  have unit := lastPlace_pos (n : ℚ)
  -- below 2^53 the last place divides one, and 2^53 is even
  have whole : ∃ places : ℤ, (n : ℚ) / lastPlace n = places := by
    rcases double.eq_or_lt with rfl | below
    · refine ⟨2 ^ 52, ?_⟩
      have place : lastPlace ((2 ^ 53 : ℕ) : ℚ) = 2 := by
        have binade : Int.log 2 ((2 ^ 53 : ℕ) : ℚ) = 53 := by
          rw [Int.log_natCast, Nat.log_pow (by norm_num)]
          rfl
        rw [lastPlace, abs_of_pos positive, binade]
        norm_num
      rw [place]
      norm_num
    · have binade : Int.log 2 (n : ℚ) ≤ 52 := by
        rw [Int.log_natCast]
        have := Nat.log_lt_of_lt_pow (by exact_mod_cast positive.ne') below
        omega
      obtain ⟨spare, spared⟩ : ∃ spare : ℕ, (spare : ℤ) = 52 - Int.log 2 (n : ℚ) :=
        ⟨(52 - Int.log 2 (n : ℚ)).toNat, Int.toNat_of_nonneg (by omega)⟩
      refine ⟨n * 2 ^ spare, ?_⟩
      have place : lastPlace (n : ℚ) = (2 ^ spare)⁻¹ := by
        rw [lastPlace, abs_of_pos positive, show Int.log 2 (n : ℚ) - 52 = -(spare : ℤ) by omega,
          zpow_neg, zpow_natCast]
      rw [place, div_inv_eq_mul]
      push_cast
      ring
  obtain ⟨places, whole⟩ := whole
  rw [binary64, whole, nearestEven_int, ← whole]
  exact div_mul_cancel₀ _ unit.ne'

theorem binary64_rounds : Rounding binary64 := ⟨binary64_mono, binary64_natural⟩

end SlotsGame.Theory
