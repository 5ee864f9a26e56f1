/-
# SlotsGame.Admission.Buckets -- the buckets of the scripts in exact arithmetic

A script that refills for the time since an instant, clipped to the fill time, finds
what the ideal bucket has available (`Policy.refill_available`), and a bucket whose
fill time is over is full.  `Policy.Stored` reads a key as the level of its bucket at
its last admission, whatever form the entry has.
-/
import SlotsGame.Admission.Replies

namespace SlotsGame.Admission

open SlotsGame.Theory

set_option autoImplicit false

/-- Exact rational arithmetic. -/
def exactly : ℚ → ℚ := fun value => value

@[simp] theorem exactly_eq (value : ℚ) : exactly value = value := rfl

theorem exactly_rounds : Rounding exactly := Rounding.exact

theorem clipElapsed_forward {elapsed fill : ℚ} (forward : 0 ≤ elapsed) :
    clipElapsed elapsed fill = min elapsed fill := by
  unfold clipElapsed
  dsimp only
  rw [if_neg (not_lt.mpr forward), min_def]
  split_ifs with long short short
  · exact le_antisymm (le_of_lt long) short
  · rfl
  · rfl
  · exact absurd (not_lt.mp long) short

namespace Policy

variable {policy : Policy} (valid : policy.Valid)

include valid in
/-- A bucket is full after the fill time. -/
theorem capacity_le_fill :
    (policy.capacityMilli : ℚ) ≤ policy.fillTime exactly * (policy.rateMilli / 1000) := by
  have rate := (rate_bounds valid).1
  have positive : (0 : ℚ) < policy.rateMilli := by linarith
  have rounded : (policy.capacityMilli * 1000 : ℚ) / policy.rateMilli ≤ policy.fillTime exactly :=
    Int.le_ceil _
  rw [div_le_iff₀ positive] at rounded
  linarith

variable {now later : Nat} {state : TokenLevel ℚ}

include valid in
/-- A bucket whose fill time is over is full. -/
theorem full_of_elapsed (positive : 0 ≤ state.level)
    (elapsed : (policy.fillTime exactly : ℚ) ≤ now - state.last) :
    (policy.bucket valid).available state now = policy.capacityMilli := by
  refine (policy.bucket valid).available_full positive ?_
  have rate := (policy.bucket valid).rate_nonneg
  exact le_trans (capacity_le_fill valid) (mul_le_mul_of_nonneg_right elapsed rate)

include valid in
/-- Tokens refilled for the time since an instant are what the bucket has available. -/
theorem refill_available (positive : 0 ≤ state.level) (within : state.level ≤ policy.capacityMilli)
    (past : state.last ≤ now) :
    refill exactly policy.capacityMilli policy.rateMilli (min policy.capacityMilli state.level)
        (clipElapsed (exactly (now - state.last)) (policy.fillTime exactly)) =
      (policy.bucket valid).available state now := by
  have forward : 0 ≤ (now : ℚ) - state.last := by linarith
  rw [min_eq_right within, exactly_eq, clipElapsed_forward forward, refill]
  simp only [exactly_eq]
  rcases le_total (policy.fillTime exactly : ℚ) (now - state.last) with long | short
  · have filled := capacity_le_fill valid
    rw [full_of_elapsed valid positive long, min_eq_right long, mul_div_assoc]
    exact min_eq_left (by linarith)
  · rw [min_eq_left short, mul_div_assoc]
    rfl

/-! ## One key -/

/-- What a key holds, as the level of its bucket at the last admission. -/
inductive Stored (policy : Policy) (form : ℚ → Nat → Packed) (keys : Keyspace) (key : String)
    (now : Nat) : TokenLevel ℚ → Prop
  | unused (missing : keys key = none) : Stored policy form keys key now ⟨policy.capacityMilli, 0⟩
  | held (tokens : ℚ) (last : Nat)
      (found : keys key = some
        { value := form tokens last
          expireAt := last + (ttlBase (policy.fillTime exactly)).toNat })
      (past : last ≤ now) (positive : 0 ≤ tokens) (within : tokens ≤ policy.capacityMilli) :
      Stored policy form keys key now ⟨tokens, last⟩

variable {form : ℚ → Nat → Packed} {keys : Keyspace} {key : String}

theorem Stored.at_later (stored : Stored policy form keys key now state) (ordered : now ≤ later) :
    Stored policy form keys key later state := by
  cases stored with
  | unused missing => exact .unused missing
  | held tokens last found past positive within =>
      exact .held tokens last found (Nat.le_trans past ordered) positive within

include valid in
/-- The level is within the bucket, and of no later instant. -/
theorem Stored.level (stored : Stored policy form keys key now state) :
    0 ≤ state.level ∧ state.level ≤ policy.capacityMilli ∧ state.last ≤ now := by
  cases stored with
  | unused missing =>
      have := (capacity_bounds valid).1
      exact ⟨by show (0 : ℚ) ≤ _; linarith, le_refl _, Nat.cast_nonneg now⟩
  | held tokens last found past positive within =>
      exact ⟨positive, within, Nat.cast_le.mpr past⟩

theorem Stored.of_other (stored : Stored policy form keys key now state) {changed : Keyspace}
    (same : changed key = keys key) : Stored policy form changed key now state := by
  cases stored with
  | unused missing => exact .unused (same.trans missing)
  | held tokens last found past positive within =>
      exact .held tokens last (same.trans found) past positive within

include valid in
/-- An admission leaves the bucket after its charge. -/
theorem stored_charged (form : ℚ → Nat → Packed) {cost : ℚ} (positive : 0 ≤ cost)
    (covered : cost ≤ (policy.bucket valid).available state now)
    (found : keys key = some
      { value := form ((policy.bucket valid).available state now - cost) now
        expireAt := now + (ttlBase (policy.fillTime exactly)).toNat }) :
    Stored policy form keys key now ((policy.bucket valid).charge state now cost) := by
  have full := (policy.bucket valid).available_le_capacity state now
  refine .held _ now found (Nat.le_refl now) (sub_nonneg.mpr covered) ?_
  show (policy.bucket valid).available state now - cost ≤ (policy.bucket valid).capacity
  linarith

include valid in
/-- A key is read as an entry within its time to live, or it is gone and its bucket
full. -/
theorem Stored.read (stored : Stored policy form keys key now state) :
    (keys.get now key = none ∧ (policy.bucket valid).available state now = policy.capacityMilli) ∨
      ∃ (entry : Entry) (last : Nat), keys.get now key = some entry ∧
        entry.value = form state.level last ∧ state.last = last ∧ last ≤ now ∧
        ((Keyspace.pttl now entry : ℕ) : ℤ) =
          last + ttlBase (policy.fillTime exactly) - now := by
  have base := ttlBase_fill valid exactly_rounds
  have bounds := fill_bounds valid exactly_rounds
  cases stored with
  | unused missing =>
      have flow : 0 ≤ ((now : ℚ) - 0) * (policy.bucket valid).rate :=
        mul_nonneg (by simp) (policy.bucket valid).rate_nonneg
      refine .inl ⟨by rw [Keyspace.get, missing]; rfl, ?_⟩
      exact min_eq_left (le_add_of_nonneg_right flow)
  | held tokens last found past positive within =>
      by_cases live : now ≤ last + (ttlBase (policy.fillTime exactly)).toNat
      · refine .inr ⟨_, last, by rw [Keyspace.get, found, Option.filter_some,
          if_pos (by simpa using live)], rfl, rfl, past, ?_⟩
        unfold Keyspace.pttl
        dsimp only
        omega
      · have elapsed : (policy.fillTime exactly : ℚ) ≤ now - last := by
          have : policy.fillTime exactly ≤ (now : ℤ) - last := by omega
          exact_mod_cast this
        refine .inl ⟨?_, full_of_elapsed valid positive elapsed⟩
        rw [Keyspace.get, found, Option.filter_some, if_neg (by simpa using live)]

end Policy

end SlotsGame.Admission
