/-
# SlotsGame.Theory.TokenBucket -- the ideal token bucket

A bucket of a capacity and a rate refills continuously and never holds more than its
capacity.  `available_later` is the law that makes an implementation free to refill
when it likes: refilling twice is refilling once for the sum of the times.  `window`
is the bound that a bucket is for: what is charged within a window of time is at most
the capacity and what flows in meanwhile, whoever decides which charges are made.
-/
import Mathlib.Algebra.Order.Field.Basic
import Mathlib.Tactic.Linarith
import Mathlib.Tactic.Ring

namespace SlotsGame.Theory

set_option autoImplicit false

universe u

/-- A capacity, and what flows in for each unit of time. -/
structure TokenBucket (K : Type u) [Field K] [LinearOrder K] where
  capacity : K
  rate : K
  capacity_nonneg : 0 ≤ capacity
  rate_nonneg : 0 ≤ rate

/-- What a bucket held at an instant. -/
structure TokenLevel (K : Type u) where
  level : K
  last : K

namespace TokenBucket

variable {K : Type u} [Field K] [LinearOrder K] [IsStrictOrderedRing K]
variable (bucket : TokenBucket K) {state : TokenLevel K} {now later : K}

def available (state : TokenLevel K) (now : K) : K :=
  min bucket.capacity (state.level + (now - state.last) * bucket.rate)

omit [IsStrictOrderedRing K] in
theorem available_le_capacity (state : TokenLevel K) (now : K) :
    bucket.available state now ≤ bucket.capacity :=
  min_le_left _ _

omit [IsStrictOrderedRing K] in
theorem available_le_flow (state : TokenLevel K) (now : K) :
    bucket.available state now ≤ state.level + (now - state.last) * bucket.rate :=
  min_le_right _ _

/-- Refilling up to an instant and from there on is refilling once. -/
theorem available_later (ordered : now ≤ later) :
    bucket.available ⟨bucket.available state now, now⟩ later = bucket.available state later := by
  have flow : 0 ≤ (later - now) * bucket.rate :=
    mul_nonneg (sub_nonneg.mpr ordered) bucket.rate_nonneg
  unfold available
  rw [min_add, ← min_assoc, min_eq_left (le_add_of_nonneg_right flow)]
  congr 1
  ring

/-- What is available never falls while nothing is charged. -/
theorem available_mono (ordered : now ≤ later) :
    bucket.available state now ≤ bucket.available state later := by
  apply min_le_min_left
  have flow : (now - state.last) * bucket.rate ≤ (later - state.last) * bucket.rate :=
    mul_le_mul_of_nonneg_right (sub_le_sub_right ordered _) bucket.rate_nonneg
  linarith

/-- A bucket is full once its capacity has flowed in. -/
theorem available_full (held : 0 ≤ state.level)
    (flowed : bucket.capacity ≤ (now - state.last) * bucket.rate) :
    bucket.available state now = bucket.capacity :=
  min_eq_left (by linarith)

theorem available_nonneg (held : 0 ≤ state.level) (ordered : state.last ≤ now) :
    0 ≤ bucket.available state now := by
  have flow : 0 ≤ (now - state.last) * bucket.rate :=
    mul_nonneg (sub_nonneg.mpr ordered) bucket.rate_nonneg
  exact le_min bucket.capacity_nonneg (by linarith)

/-- A cost is available after the time in which what is missing flows in. -/
theorem available_after (cost wait : K) (fits : cost ≤ bucket.capacity)
    (enough : cost - bucket.available state now ≤ wait * bucket.rate) (ordered : 0 ≤ wait) :
    cost ≤ bucket.available state (now + wait) := by
  rw [← bucket.available_later (le_add_of_nonneg_right ordered)]
  refine le_min fits ?_
  have elapsed : now + wait - now = wait := by ring
  rw [elapsed]
  linarith

/-- The bucket after a charge at an instant. -/
def charge (state : TokenLevel K) (now cost : K) : TokenLevel K :=
  ⟨bucket.available state now - cost, now⟩

/-! ## Charges within a window -/

/-- Charges at instants that do not fall, each of them covered when it is made. -/
def Affords : TokenLevel K → List (K × K) → Prop
  | _, [] => True
  | state, (now, cost) :: rest =>
      state.last ≤ now ∧ 0 ≤ cost ∧ cost ≤ bucket.available state now ∧
        Affords (bucket.charge state now cost) rest

/-- What is charged from one instant to another, both included. -/
def charged (first last : K) (charges : List (K × K)) : K :=
  (charges.map fun charge => if first ≤ charge.1 ∧ charge.1 ≤ last then charge.2 else 0).sum

omit [IsStrictOrderedRing K] in
theorem charged_cons (first last now cost : K) (rest : List (K × K)) :
    charged first last ((now, cost) :: rest) =
      (if first ≤ now ∧ now ≤ last then cost else 0) + charged first last rest := by
  rw [charged, List.map_cons, List.sum_cons]
  rfl

variable {bucket}

omit [IsStrictOrderedRing K] in
/-- Charges after the window do not count. -/
theorem Affords.after {first last : K} {charges : List (K × K)}
    (affords : bucket.Affords state charges) (past : last < state.last) :
    charged first last charges = 0 := by
  induction charges generalizing state with
  | nil => rfl
  | cons charge rest ih =>
      obtain ⟨now, cost⟩ := charge
      obtain ⟨ordered, _, _, affords⟩ := affords
      have beyond : last < now := lt_of_lt_of_le past ordered
      rw [charged_cons, if_neg fun inside => absurd inside.2 (not_le.mpr beyond), zero_add]
      exact ih affords beyond

/-- Within the window, charges come out of the level and what flows in. -/
theorem Affords.within {first last : K} {charges : List (K × K)}
    (affords : bucket.Affords state charges) (held : 0 ≤ state.level) (inside : state.last ≤ last) :
    charged first last charges ≤ state.level + (last - state.last) * bucket.rate := by
  induction charges generalizing state with
  | nil =>
      have flow : 0 ≤ (last - state.last) * bucket.rate :=
        mul_nonneg (sub_nonneg.mpr inside) bucket.rate_nonneg
      show (0 : K) ≤ _
      linarith
  | cons charge rest ih =>
      obtain ⟨now, cost⟩ := charge
      obtain ⟨ordered, positive, covered, affords⟩ := affords
      rw [charged_cons]
      rcases le_or_gt now last with before | after
      · have flowed := bucket.available_le_flow state now
        have rest := ih affords (sub_nonneg.mpr covered) before
        have counted : (if first ≤ now ∧ now ≤ last then cost else 0) ≤ cost := by
          split
          · exact le_refl cost
          · exact positive
        simp only [TokenBucket.charge] at rest
        calc (if first ≤ now ∧ now ≤ last then cost else 0) + charged first last _
            ≤ cost + (bucket.available state now - cost + (last - now) * bucket.rate) :=
              add_le_add counted rest
          _ ≤ state.level + (last - state.last) * bucket.rate := by linarith
      · have flow : 0 ≤ (last - state.last) * bucket.rate :=
          mul_nonneg (sub_nonneg.mpr inside) bucket.rate_nonneg
        rw [if_neg fun within => absurd within.2 (not_le.mpr after), affords.after after]
        linarith

/-- The bound of the bucket over any window. -/
theorem Affords.window {first last : K} {charges : List (K × K)}
    (affords : bucket.Affords state charges) (ordered : first ≤ last) :
    charged first last charges ≤ bucket.capacity + (last - first) * bucket.rate := by
  have room : 0 ≤ (last - first) * bucket.rate :=
    mul_nonneg (sub_nonneg.mpr ordered) bucket.rate_nonneg
  induction charges generalizing state with
  | nil =>
      have := bucket.capacity_nonneg
      show (0 : K) ≤ _
      linarith
  | cons charge rest ih =>
      obtain ⟨now, cost⟩ := charge
      obtain ⟨_, _, covered, affords⟩ := affords
      rw [charged_cons]
      by_cases inside : first ≤ now ∧ now ≤ last
      · rw [if_pos inside]
        have full := bucket.available_le_capacity state now
        have rest : charged first last rest ≤ _ :=
          affords.within (sub_nonneg.mpr covered) inside.2
        simp only [TokenBucket.charge] at rest
        have earlier : (last - now) * bucket.rate ≤ (last - first) * bucket.rate :=
          mul_le_mul_of_nonneg_right (sub_le_sub_left inside.1 _) bucket.rate_nonneg
        linarith
      · rw [if_neg inside, zero_add]
        exact ih affords

end TokenBucket

end SlotsGame.Theory
