/-
# SlotsGame.Outbox.Backoff -- the two back-offs, in the arithmetic of `int64`

The recovery worker and the outbox both double a delay until a maximum.  Here their loops run in
the wrapping arithmetic of `time.Duration`.  A delay is only doubled when it is at most half the
maximum (`toInt_double`), so nothing wraps around and both are
`min maximum (base * 2 ^ (attempt - 1))`, for every number of attempts (`backoffs_exact`).
-/
import SlotsGame.Outbox.Dispatcher
import SlotsGame.Rgs.Coordinator

namespace SlotsGame.Outbox

open SlotsGame.Rgs

set_option autoImplicit false

/-! ## The loops -/

/-- The loop of `backoffUpperBound`, with the exponents that are left. -/
def upperBoundLoop (maximum : Int64) : Nat → Int64 → Int64
  | 0, upperBound => if upperBound > maximum then maximum else upperBound
  | exponents + 1, upperBound =>
      if upperBound < maximum then
        if upperBound > maximum / 2 then maximum
        else upperBoundLoop maximum exponents (upperBound * 2)
      else if upperBound > maximum then maximum
      else upperBound

/-- `backoffUpperBound`, for the number of attempts that it reads from the record. -/
def backoffUpperBoundInt64 (attempts initial maximum : Int64) : Int64 :=
  let attempts := if attempts < 1 then 1 else attempts
  upperBoundLoop maximum (attempts.toInt - 1).toNat initial

/-- The loop of `RetryDelay`, with the steps that are left. -/
def retryLoopInt64 (maximum : Int64) : Nat → Int64 → Int64
  | 0, delay => if delay > maximum then maximum else delay
  | steps + 1, delay =>
      if delay ≥ maximum ∨ delay > maximum / 2 then maximum
      else retryLoopInt64 maximum steps (delay * 2)

/-- `RetryDelay` -/
def retryDelayInt64 (attempt base maximum : Int64) : Int64 :=
  if base ≤ 0 ∨ maximum < base then 0
  else
    let attempt := if attempt < 1 then 1 else attempt
    retryLoopInt64 maximum (attempt.toInt - 1).toNat base

/-- The delays that either loop doubles. -/
def doubled (maximum : Int64) : Nat → Int64 → List Int64
  | 0, _ => []
  | steps + 1, delay =>
      if delay ≥ maximum ∨ delay > maximum / 2 then []
      else delay :: doubled maximum steps (delay * 2)

/-! ## One doubling -/

section Doubling

variable {delay maximum : Int64}

theorem toInt_half (positive : 0 < maximum) : (maximum / 2).toInt = maximum.toInt / 2 := by
  have least : 0 < maximum.toInt := Int64.lt_iff_toInt_lt.mp positive
  have two : (2 : Int64).toInt = 2 := rfl
  rw [Int64.toInt_div_of_ne_right _ _ (by decide), two, Int.tdiv_eq_ediv_of_nonneg least.le]

/-- A delay of at most half a maximum is doubled without overflow. -/
theorem toInt_double (positive : 0 < delay) (half : delay.toInt ≤ maximum.toInt / 2) :
    (delay * 2).toInt = delay.toInt * 2 := by
  have least : 0 < delay.toInt := Int64.lt_iff_toInt_lt.mp positive
  have most : maximum.toInt < 2 ^ 63 := Int64.toInt_lt maximum
  have two : (2 : Int64).toInt = 2 := rfl
  rw [Int64.toInt_mul, two]
  apply Int.bmod_eq_of_le <;> omega

theorem stops_iff (positive : 0 < maximum) :
    (delay ≥ maximum ∨ delay > maximum / 2) ↔
      delay.toInt ≥ maximum.toInt ∨ delay.toInt > maximum.toInt / 2 := by
  rw [← toInt_half positive]
  exact or_congr Int64.le_iff_toInt_le Int64.lt_iff_toInt_lt

/-- Where a loop stops the next doubling would pass the maximum. -/
theorem min_stopped {delay maximum : Int} (positive : 0 < delay) (below : delay ≤ maximum)
    (stops : delay ≥ maximum ∨ delay > maximum / 2) (steps : Nat) :
    min maximum (delay * 2 ^ (steps + 1)) = maximum := by
  have power : (1 : Int) ≤ 2 ^ steps := one_le_pow₀ (by decide)
  have grows : delay * 2 ≤ delay * 2 ^ (steps + 1) := by
    rw [pow_succ, mul_comm ((2 : Int) ^ steps)]
    nlinarith
  have passes : maximum ≤ delay * 2 := by omega
  exact min_eq_left (passes.trans grows)

/-- What a doubling keeps. -/
theorem double_facts (positive : 0 < delay)
    (goes : ¬ (delay.toInt ≥ maximum.toInt ∨ delay.toInt > maximum.toInt / 2)) :
    (delay * 2).toInt = delay.toInt * 2 ∧ 0 < delay * 2 ∧ delay * 2 ≤ maximum := by
  have least : 0 < delay.toInt := Int64.lt_iff_toInt_lt.mp positive
  have exact := @toInt_double delay maximum positive (by omega)
  refine ⟨exact, ?_, ?_⟩
  · rw [Int64.lt_iff_toInt_lt, exact]
    show 0 < delay.toInt * 2
    omega
  · rw [Int64.le_iff_toInt_le, exact]
    omega

end Doubling

/-! ## The loops are exact -/

section Exact

variable {delay maximum : Int64}

theorem retryLoopInt64_exact (steps : Nat) (positive : 0 < delay) (below : delay ≤ maximum) :
    (retryLoopInt64 maximum steps delay).toInt = min maximum.toInt (delay.toInt * 2 ^ steps) := by
  induction steps generalizing delay with
  | zero =>
      rw [retryLoopInt64, if_neg (Int64.not_lt.mpr below), pow_zero, mul_one]
      exact (min_eq_right (Int64.le_iff_toInt_le.mp below)).symm
  | succ steps ih =>
      have least : 0 < delay.toInt := Int64.lt_iff_toInt_lt.mp positive
      have most : delay.toInt ≤ maximum.toInt := Int64.le_iff_toInt_le.mp below
      have stops := @stops_iff delay maximum (Int64.lt_of_lt_of_le positive below)
      rw [retryLoopInt64]
      split
      next stopped => rw [min_stopped least most (stops.mp stopped)]
      next goes =>
        obtain ⟨twice, positive, below⟩ := double_facts positive fun stopped =>
          goes (stops.mpr stopped)
        rw [ih positive below, twice, pow_succ, mul_comm ((2 : Int) ^ steps), mul_assoc]

/-- The loop of the recovery worker computes the same. -/
theorem upperBoundLoop_eq (steps : Nat) (positive : 0 < delay) (below : delay ≤ maximum) :
    upperBoundLoop maximum steps delay = retryLoopInt64 maximum steps delay := by
  induction steps generalizing delay with
  | zero => rfl
  | succ steps ih =>
      have stops := @stops_iff delay maximum (Int64.lt_of_lt_of_le positive below)
      rw [upperBoundLoop, retryLoopInt64]
      by_cases small : delay < maximum
      · rw [if_pos small]
        by_cases large : delay > maximum / 2
        · rw [if_pos large, if_pos (.inr large)]
        · have goes : ¬ (delay ≥ maximum ∨ delay > maximum / 2) :=
            not_or.mpr ⟨Int64.not_le.mpr small, large⟩
          obtain ⟨_, positive, below⟩ := double_facts positive fun stopped =>
            goes (stops.mpr stopped)
          rw [if_neg large, if_neg goes, ih positive below]
      · have same : delay = maximum := Int64.le_antisymm below (Int64.not_lt.mp small)
        rw [if_neg small, if_neg (Int64.not_lt.mpr below), if_pos (.inl (Int64.not_lt.mp small)),
          same]

theorem doubled_exact (steps : Nat) (positive : 0 < delay) (below : delay ≤ maximum) :
    ∀ value ∈ doubled maximum steps delay, (value * 2).toInt = value.toInt * 2 := by
  induction steps generalizing delay with
  | zero => exact fun _ absurd => by cases absurd
  | succ steps ih =>
      have stops := @stops_iff delay maximum (Int64.lt_of_lt_of_le positive below)
      rw [doubled]
      split
      · exact fun _ absurd => by cases absurd
      next goes =>
        obtain ⟨twice, positive, below⟩ := double_facts positive fun stopped =>
          goes (stops.mpr stopped)
        exact List.forall_mem_cons.mpr ⟨twice, ih positive below⟩

end Exact

/-! ## Both back-offs -/

section Backoffs

variable {base maximum : Int64}

/-- The doublings before an attempt; the first attempt is preceded by none. -/
theorem doublings_eq (attempts : Int64) :
    ((if attempts < 1 then 1 else attempts).toInt - 1).toNat = (max attempts.toInt 1 - 1).toNat := by
  have one : (1 : Int64).toInt = 1 := rfl
  split
  next none =>
    have below : attempts.toInt < 1 := Int64.lt_iff_toInt_lt.mp none
    rw [one, max_eq_right below.le]
  next some =>
    have above : 1 ≤ attempts.toInt := Int64.le_iff_toInt_le.mp (Int64.not_lt.mp some)
    rw [max_eq_left above]

theorem retryDelayInt64_exact (positive : 0 < base) (ordered : base ≤ maximum) (attempt : Int64) :
    (retryDelayInt64 attempt base maximum).toInt =
      min maximum.toInt (base.toInt * 2 ^ (max attempt.toInt 1 - 1).toNat) := by
  have accepted : ¬ (base ≤ 0 ∨ maximum < base) :=
    not_or.mpr ⟨Int64.not_le.mpr positive, Int64.not_lt.mpr ordered⟩
  rw [retryDelayInt64, if_neg accepted]
  dsimp only
  rw [doublings_eq, retryLoopInt64_exact _ positive ordered]

theorem backoffUpperBoundInt64_exact (positive : 0 < base) (ordered : base ≤ maximum)
    (attempts : Int64) :
    (backoffUpperBoundInt64 attempts base maximum).toInt =
      min maximum.toInt (base.toInt * 2 ^ (max attempts.toInt 1 - 1).toNat) := by
  rw [backoffUpperBoundInt64, doublings_eq, upperBoundLoop_eq _ positive ordered, retryLoopInt64_exact _ positive ordered]

theorem exact_mono {base : Int} (positive : 0 < base) (maximum : Int) {fewer more : Int}
    (ordered : fewer ≤ more) :
    min maximum (base * 2 ^ (max fewer 1 - 1).toNat) ≤
      min maximum (base * 2 ^ (max more 1 - 1).toNat) := by
  have steps : (max fewer 1 - 1).toNat ≤ (max more 1 - 1).toNat := by omega
  have powers : (2 : Int) ^ (max fewer 1 - 1).toNat ≤ 2 ^ (max more 1 - 1).toNat :=
    pow_le_pow_right₀ (by decide) steps
  exact min_le_min_left maximum (mul_le_mul_of_nonneg_left powers positive.le)

/-- **Both back-offs are the exact one.**  They are the doubled base, cut at the maximum, for
every number of attempts; no doubling overflows; and more attempts never wait for less. -/
theorem backoffs_exact (positive : 0 < base) (ordered : base ≤ maximum) :
    (∀ attempts : Int64,
      (backoffUpperBoundInt64 attempts base maximum).toInt =
          min maximum.toInt (base.toInt * 2 ^ (max attempts.toInt 1 - 1).toNat) ∧
        (retryDelayInt64 attempts base maximum).toInt =
          min maximum.toInt (base.toInt * 2 ^ (max attempts.toInt 1 - 1).toNat) ∧
        ∀ value ∈ doubled maximum (max attempts.toInt 1 - 1).toNat base,
          (value * 2).toInt = value.toInt * 2) ∧
    ∀ fewer more : Int64, fewer ≤ more →
      backoffUpperBoundInt64 fewer base maximum ≤ backoffUpperBoundInt64 more base maximum ∧
        retryDelayInt64 fewer base maximum ≤ retryDelayInt64 more base maximum := by
  constructor
  · intro attempts
    exact ⟨backoffUpperBoundInt64_exact positive ordered attempts,
      retryDelayInt64_exact positive ordered attempts, doubled_exact _ positive ordered⟩
  · intro fewer more less
    have grows := exact_mono (Int64.lt_iff_toInt_lt.mp positive) maximum.toInt
      (Int64.le_iff_toInt_le.mp less)
    rw [Int64.le_iff_toInt_le, Int64.le_iff_toInt_le, backoffUpperBoundInt64_exact positive ordered,
      backoffUpperBoundInt64_exact positive ordered, retryDelayInt64_exact positive ordered,
      retryDelayInt64_exact positive ordered]
    exact ⟨grows, grows⟩

theorem largest_backoff_exact :
    (retryDelayInt64 Int64.maxValue 1 Int64.maxValue).toInt =
      min Int64.maxValue.toInt (1 * 2 ^ (max Int64.maxValue.toInt 1 - 1).toNat) :=
  ((backoffs_exact (by decide) (by decide)).1 Int64.maxValue).2.1

end Backoffs

/-! ## The delays of the models -/

section Refinement

end Refinement

end SlotsGame.Outbox
