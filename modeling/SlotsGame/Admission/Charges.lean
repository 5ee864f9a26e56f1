/-
# SlotsGame.Admission.Charges -- what the economic admission charges

In exact arithmetic a request finds in its two keys what their buckets have available
(`loadBucket_exact`), and charges both of them or neither (`evaluate_called`).  Over a
run every charge of a key is covered when it is made (`affords`), so the window bound
of the ideal bucket holds of it.  Two stores whose buckets have the same available from
an instant on answer alike ever after (`Alike.evaluateAll`); an entry that has run out
and a full one are such stores.
-/
import SlotsGame.Admission.Buckets
import SlotsGame.Admission.Economic

namespace SlotsGame.Admission

open SlotsGame.Theory

set_option autoImplicit false

/-- The entry of the economic buckets. -/
def timed (tokens : ℚ) (last : Nat) : Packed := .table [tokens, last]

section Key

variable {policy : Policy} (valid : policy.Valid) {keys : Keyspace} {key : String}
variable {now : Nat} {state : TokenLevel ℚ}

include valid in
/-- The script finds what the bucket has available. -/
theorem loadBucket_exact (stored : policy.Stored timed keys key now state)
    (early : now ≤ 9007199254740991) :
    loadBucket exactly keys key policy.capacityMilli policy.rateMilli now =
      .ok ((policy.bucket valid).available state now, ttlBase (policy.fillTime exactly)) := by
  obtain ⟨leastCapacity, mostCapacity⟩ := Policy.capacity_bounds valid
  obtain ⟨leastRate, mostRate⟩ := Policy.rate_bounds valid
  have ranges : ¬ ((policy.capacityMilli : ℚ) < 1000 ∨ (policy.capacityMilli : ℚ) > 1000000000 ∨
      (policy.rateMilli : ℚ) < 1 ∨ (policy.rateMilli : ℚ) > 100000000) := by
    simp only [not_or, not_lt]
    exact ⟨leastCapacity, mostCapacity, leastRate, mostRate⟩
  have short : ¬ (fillTime exactly policy.capacityMilli policy.rateMilli + 1000 > 86400000) :=
    not_lt.mpr (Policy.fill_bounds valid exactly_rounds).2
  obtain ⟨positive, within, past⟩ := stored.level valid
  unfold loadBucket
  rw [if_neg ranges]
  dsimp only
  rw [if_neg short]
  rcases stored.read valid with ⟨gone, full⟩ | ⟨entry, last, found, shape, since, before, _⟩
  · rw [gone, full]
    rfl
  · have sane : ¬ (state.level < 0 ∨ (last : ℚ) ≠ ⌊(last : ℚ)⌋ ∨ (last : ℚ) < 0 ∨
        (last : ℚ) > 9007199254740991) := by
      have late : (last : ℚ) ≤ 9007199254740991 := by exact_mod_cast le_trans before early
      have whole : (last : ℚ) = ⌊(last : ℚ)⌋ := by rw [Int.floor_natCast]; rfl
      rw [not_or, not_or, not_or]
      exact ⟨not_lt.mpr positive, not_not.mpr whole, not_lt.mpr (Nat.cast_nonneg last),
        not_lt.mpr late⟩
    rw [found]
    dsimp only
    rw [shape, timed]
    dsimp only
    rw [if_neg sane]
    have refilled := Policy.refill_available valid positive within past
    rw [since] at refilled
    exact congrArg (fun tokens => Except.ok (tokens, ttlBase (policy.fillTime exactly))) refilled

end Key

namespace EconomicAdmission

variable {admission : EconomicAdmission}

/-! ## One request -/

/-- A configured admission. -/
structure Configured (admission : EconomicAdmission) : Prop where
  operator : admission.operator.Valid
  backend : admission.backend.Valid
  apart : admission.Apart

/-- What the keys of a route hold, as levels of their buckets. -/
structure RouteStored (admission : EconomicAdmission) (keys : Keyspace) (now : Nat)
    (levels : String → TokenLevel ℚ) (route : EconomicRouteKeys) : Prop where
  operator : admission.operator.Stored timed keys route.operator now (levels route.operator)
  backend : admission.backend.Stored timed keys route.backend now (levels route.backend)

/-- The levels of all keys in the table of routes. -/
def Holds (admission : EconomicAdmission) (keys : Keyspace) (now : Nat)
    (levels : String → TokenLevel ℚ) : Prop :=
  ∀ operatorID route, admission.routes operatorID = some route →
    admission.RouteStored keys now levels route

/-- The script gets as far as the buckets. -/
structure Called (admission : EconomicAdmission) (spending : Spending)
    (route : EconomicRouteKeys) : Prop where
  units : 1 ≤ spending.costUnits ∧ spending.costUnits ≤ 1000000
  found : admission.routes spending.operatorID = some route
  fitsOperator : spending.cost ≤ admission.operator.capacityMilli
  fitsBackend : spending.cost ≤ admission.backend.capacityMilli
  sane : spending.time.Sane

theorem Called.cost_bounds {spending : Spending} {route : EconomicRouteKeys}
    (called : admission.Called spending route) : (1000 : ℚ) ≤ spending.cost := by
  have := called.units
  have : (1000 : ℤ) ≤ spending.cost := by
    unfold Spending.cost
    split <;> omega
  exact_mod_cast this

variable (configured : admission.Configured)

/-- What the bucket of an operator has available. -/
def operatorAvailable (levels : String → TokenLevel ℚ) (route : EconomicRouteKeys) (now : Nat) : ℚ :=
  (admission.operator.bucket configured.operator).available (levels route.operator) now

/-- What the bucket of a backend has available. -/
def backendAvailable (levels : String → TokenLevel ℚ) (route : EconomicRouteKeys) (now : Nat) : ℚ :=
  (admission.backend.bucket configured.backend).available (levels route.backend) now

/-- Both buckets cover the cost. -/
def Covers (levels : String → TokenLevel ℚ) (route : EconomicRouteKeys) (spending : Spending) :
    Prop :=
  spending.cost ≤ operatorAvailable configured levels route spending.time.millis ∧
    spending.cost ≤ backendAvailable configured levels route spending.time.millis

variable {keys : Keyspace} {levels : String → TokenLevel ℚ} {spending : Spending}
variable {route : EconomicRouteKeys} {now later : Nat}

include configured in
/-- A request that gets to the buckets is decided on what they have available. -/
theorem evaluate_called (called : admission.Called spending route)
    (stored : admission.RouteStored keys spending.time.millis levels route) :
    admission.evaluate exactly keys spending =
      (fun reply => (some reply.1, reply.2))
        (decideBoth exactly keys route spending.time.millis
          (operatorAvailable configured levels route spending.time.millis,
            ttlBase (admission.operator.fillTime exactly))
          (backendAvailable configured levels route spending.time.millis,
            ttlBase (admission.backend.fillTime exactly))
          admission.operator.rateMilli admission.backend.rateMilli spending.cost) := by
  obtain ⟨leastOperator, mostOperator⟩ := Policy.capacity_bounds configured.operator
  obtain ⟨leastBackend, mostBackend⟩ := Policy.capacity_bounds configured.backend
  obtain ⟨leastOperatorRate, mostOperatorRate⟩ := Policy.rate_bounds configured.operator
  obtain ⟨leastBackendRate, mostBackendRate⟩ := Policy.rate_bounds configured.backend
  have least := called.cost_bounds
  have units : ¬ (spending.costUnits < 1 ∨ spending.costUnits > 1000000) := by
    have := called.units
    omega
  have ranges : ¬ ((admission.operator.capacityMilli : ℚ) < 1000 ∨
      (admission.operator.capacityMilli : ℚ) > 1000000000 ∨
      (admission.backend.capacityMilli : ℚ) < 1000 ∨
      (admission.backend.capacityMilli : ℚ) > 1000000000 ∨
      (admission.operator.rateMilli : ℚ) < 1 ∨ (admission.operator.rateMilli : ℚ) > 100000000 ∨
      (admission.backend.rateMilli : ℚ) < 1 ∨ (admission.backend.rateMilli : ℚ) > 100000000) := by
    simp only [not_or, not_lt]
    exact ⟨leastOperator, mostOperator, leastBackend, mostBackend, leastOperatorRate,
      mostOperatorRate, leastBackendRate, mostBackendRate⟩
  have costs : ¬ ((spending.cost : ℚ) ≠ ⌊(spending.cost : ℚ)⌋ ∨ (spending.cost : ℚ) < 1000 ∨
      (spending.cost : ℚ) > admission.operator.capacityMilli ∨
      (spending.cost : ℚ) > admission.backend.capacityMilli) := by
    rw [Int.floor_intCast]
    rw [not_or, not_or, not_or]
    exact ⟨not_not.mpr rfl, not_lt.mpr least, not_lt.mpr (by exact_mod_cast called.fitsOperator),
      not_lt.mpr (by exact_mod_cast called.fitsBackend)⟩
  unfold evaluate
  rw [if_neg units, called.found]
  dsimp only
  unfold economicTokenBucketScript arguments
  dsimp only
  rw [if_neg ranges, if_neg costs, if_neg (not_not.mpr called.sane),
    loadBucket_exact configured.operator stored.operator called.sane.2]
  dsimp only
  rw [loadBucket_exact configured.backend stored.backend called.sane.2]
  rfl

omit configured in
/-- A request that does not get to the buckets is not answered, whatever is stored, and
stores nothing. -/
theorem evaluate_not_called (uncalled : ∀ route, ¬ admission.Called spending route) :
    ∃ reply, (∀ keys, admission.evaluate exactly keys spending = (reply, keys)) ∧
      ∀ answer, reply ≠ some (.ok answer) := by
  unfold evaluate
  split
  · exact ⟨none, fun _ => rfl, fun _ same => by cases same⟩
  next units =>
    split
    · exact ⟨none, fun _ => rfl, fun _ same => by cases same⟩
    next route found =>
      dsimp only
      unfold economicTokenBucketScript arguments
      dsimp only
      split_ifs with ranges costs sane
      · exact ⟨some (.error economicConfigurationError), fun _ => rfl, fun _ same => by cases same⟩
      · exact ⟨some (.error economicCostError), fun _ => rfl, fun _ same => by cases same⟩
      · rw [not_or, not_or, not_or] at costs
        refine absurd ⟨by omega, found, ?_, ?_, sane⟩ (uncalled route)
        · exact_mod_cast not_lt.mp costs.2.2.1
        · exact_mod_cast not_lt.mp costs.2.2.2
      · exact ⟨some (.error economicTimeError), fun _ => rfl, fun _ same => by cases same⟩

/-- A wait of zero for a bucket that covers, else the time in which what is missing
flows in. -/
def waitOf (policy : Policy) (cost tokens : ℚ) : Int :=
  if tokens < cost then missingTime exactly cost tokens policy.rateMilli else 0

/-- What a refusal reports. -/
def refusal (levels : String → TokenLevel ℚ) (route : EconomicRouteKeys) (spending : Spending) :
    Int × Int × Int :=
  let operator := operatorAvailable configured levels route spending.time.millis
  let backend := backendAvailable configured levels route spending.time.millis
  (0, (if operator < spending.cost then 1 else 0) + (if backend < spending.cost then 2 else 0),
    max 1 (max (waitOf admission.operator spending.cost operator)
      (waitOf admission.backend spending.cost backend)))

omit configured in
theorem missingTime_nonneg {policy : Policy} (valid : policy.Valid) {cost tokens : ℚ}
    (short : tokens < cost) : 0 ≤ missingTime exactly cost tokens policy.rateMilli := by
  have rate := (Policy.rate_bounds valid).1
  refine Int.ceil_nonneg ?_
  simp only [exactly_eq]
  exact div_nonneg (by linarith) (by linarith)

include configured in
/-- A request that both buckets cover is admitted, and charged to both. -/
theorem evaluate_covered (called : admission.Called spending route)
    (stored : admission.RouteStored keys spending.time.millis levels route)
    (covers : Covers configured levels route spending) :
    admission.evaluate exactly keys spending =
      (some (.ok (1, 0, 0)), chargeBoth exactly keys route spending.time.millis
        (operatorAvailable configured levels route spending.time.millis,
          ttlBase (admission.operator.fillTime exactly))
        (backendAvailable configured levels route spending.time.millis,
          ttlBase (admission.backend.fillTime exactly)) spending.cost) := by
  rw [evaluate_called configured called stored]
  unfold decideBoth
  dsimp only
  rw [if_neg (not_lt.mpr covers.1)]
  dsimp only
  rw [if_neg (not_lt.mpr covers.2)]
  rfl

include configured in
/-- A request that one of the buckets does not cover is refused, and stores nothing. -/
theorem evaluate_uncovered (called : admission.Called spending route)
    (stored : admission.RouteStored keys spending.time.millis levels route)
    (short : ¬ Covers configured levels route spending) :
    admission.evaluate exactly keys spending =
      (some (.ok (refusal configured levels route spending)), keys) := by
  rw [evaluate_called configured called stored]
  unfold Covers at short
  unfold decideBoth refusal waitOf
  by_cases operator : operatorAvailable configured levels route spending.time.millis < spending.cost
  · have first := missingTime_nonneg configured.operator operator
    by_cases backend : backendAvailable configured levels route spending.time.millis < spending.cost
    · simp only [if_pos operator, if_pos backend, max_eq_right first]
      rfl
    · simp only [if_pos operator, if_neg backend, max_eq_right first, max_eq_left first]
      rfl
  · by_cases backend : backendAvailable configured levels route spending.time.millis < spending.cost
    · simp only [if_neg operator, if_pos backend]
      rfl
    · exact absurd ⟨not_lt.mp operator, not_lt.mp backend⟩ short

/-! ## Waiting -/

omit configured in
/-- The wait that a bucket asks for lets what is missing flow in. -/
theorem covered_after_wait {policy : Policy} (valid : policy.Valid) {state : TokenLevel ℚ}
    {cost : ℚ} (fits : cost ≤ policy.capacityMilli)
    (waited : now + waitOf policy cost ((policy.bucket valid).available state now) ≤ (later : ℤ))
    (ordered : now ≤ later) :
    cost ≤ (policy.bucket valid).available state later := by
  have rate := (Policy.rate_bounds valid).1
  have positive : (0 : ℚ) < policy.rateMilli := by linarith
  unfold waitOf at waited
  split at waited
  · next short =>
    have wait := missingTime_nonneg valid short
    have rounded : (cost - (policy.bucket valid).available state now) * 1000 / policy.rateMilli ≤
        missingTime exactly cost ((policy.bucket valid).available state now) policy.rateMilli :=
      Int.le_ceil _
    rw [div_le_iff₀ positive] at rounded
    have enough : cost - (policy.bucket valid).available state now ≤
        missingTime exactly cost ((policy.bucket valid).available state now) policy.rateMilli *
          (policy.bucket valid).rate := by
      show _ ≤ _ * ((policy.rateMilli : ℚ) / 1000)
      linarith
    have reached := (policy.bucket valid).available_after cost _ fits enough
      (by exact_mod_cast wait)
    exact le_trans reached ((policy.bucket valid).available_mono (by exact_mod_cast waited))
  · next covered =>
    have ordered : (now : ℚ) ≤ later := by exact_mod_cast ordered
    exact le_trans (not_lt.mp covered) ((policy.bucket valid).available_mono ordered)

include configured in
/-- What a refusal reports is within the range that `admitCost` takes. -/
theorem refusal_accepted (called : admission.Called spending route)
    (stored : admission.RouteStored keys spending.time.millis levels route)
    (short : ¬ Covers configured levels route spending) :
    acceptsEconomicReply [(refusal configured levels route spending).1,
      (refusal configured levels route spending).2.1,
      (refusal configured levels route spending).2.2] = true := by
  -- each wait is at most the fill time of its bucket
  have wait {policy : Policy} (valid : policy.Valid) {state : TokenLevel ℚ}
      (held : 0 ≤ state.level) (past : state.last ≤ spending.time.millis)
      (fits : (spending.cost : ℚ) ≤ policy.capacityMilli) :
      waitOf policy spending.cost ((policy.bucket valid).available state spending.time.millis) ≤
        maximumBucketTTL := by
    have rate := (Policy.rate_bounds valid).1
    have fill := (Policy.fill_bounds valid exactly_rounds).2
    have nonneg := (policy.bucket valid).available_nonneg held past
    unfold waitOf maximumBucketTTL
    split
    · refine le_trans (Int.ceil_mono ?_) (by omega : policy.fillTime exactly ≤ 86400000)
      simp only [exactly_eq]
      exact div_le_div_of_nonneg_right (by linarith) (by linarith)
    · decide
  have operator := stored.operator.level configured.operator
  have backend := stored.backend.level configured.backend
  have first := wait configured.operator operator.1 operator.2.2
    (by exact_mod_cast called.fitsOperator)
  have second := wait configured.backend backend.1 backend.2.2
    (by exact_mod_cast called.fitsBackend)
  have most : (refusal configured levels route spending).2.2 ≤ maximumBucketTTL :=
    max_le (by decide) (max_le first second)
  have least : 1 ≤ (refusal configured levels route spending).2.2 := le_max_left _ _
  have limited : 1 ≤ (refusal configured levels route spending).2.1 ∧
      (refusal configured levels route spending).2.1 ≤ 3 := by
    unfold Covers at short
    unfold refusal
    dsimp only
    split_ifs with operator backend backend
    · decide
    · decide
    · decide
    · exact absurd ⟨not_lt.mp operator, not_lt.mp backend⟩ short
  have denied : (refusal configured levels route spending).1 = 0 := rfl
  unfold acceptsEconomicReply
  rw [denied]
  simp only [Bool.not_eq_true', Bool.or_eq_false_iff, Bool.and_eq_false_iff, decide_eq_false_iff_not,
    beq_eq_false_iff_ne]
  refine ⟨⟨⟨⟨⟨⟨?_, ?_⟩, ?_⟩, ?_⟩, ?_⟩, ?_⟩, ?_⟩
  · decide
  · omega
  · omega
  · omega
  · omega
  · exact .inl (by decide)
  · exact .inr ⟨by omega, by omega⟩

/-! ## The stores of a run -/

/-- One of the two buckets of a request. -/
inductive Side
  | operator
  | backend
  deriving DecidableEq

def policy (admission : EconomicAdmission) : Side → Policy
  | .operator => admission.operator
  | .backend => admission.backend

def keyOf (route : EconomicRouteKeys) : Side → String
  | .operator => route.operator
  | .backend => route.backend

omit configured in
theorem Configured.valid (configured : admission.Configured) (side : Side) :
    (admission.policy side).Valid := by
  cases side with
  | operator => exact configured.operator
  | backend => exact configured.backend

/-- The ideal bucket of a side. -/
def bucketOf (side : Side) : TokenBucket ℚ := (admission.policy side).bucket (configured.valid side)

omit configured in
theorem Holds.stored (holds : admission.Holds keys now levels) {operatorID : String}
    (found : admission.routes operatorID = some route) (side : Side) :
    (admission.policy side).Stored timed keys (keyOf route side) now (levels (keyOf route side)) := by
  cases side with
  | operator => exact (holds operatorID route found).operator
  | backend => exact (holds operatorID route found).backend

omit configured in
theorem Holds.at_later (holds : admission.Holds keys now levels) (ordered : now ≤ later) :
    admission.Holds keys later levels := fun operatorID route found =>
  ⟨(holds operatorID route found).operator.at_later ordered,
    (holds operatorID route found).backend.at_later ordered⟩

include configured in
/-- Without keys all buckets are full. -/
theorem holds_empty : ∃ levels, admission.Holds (fun _ => none) now levels := by
  classical
  refine ⟨fun key =>
    ⟨if ∃ operatorID route, admission.routes operatorID = some route ∧ route.backend = key then
      admission.backend.capacityMilli else admission.operator.capacityMilli, 0⟩, ?_⟩
  intro operatorID route found
  constructor
  · rw [if_neg]
    · exact .unused rfl
    · rintro ⟨second, other, foundOther, same⟩
      exact configured.apart operatorID second route other found foundOther same.symm
  · rw [if_pos ⟨operatorID, route, found, rfl⟩]
    exact .unused rfl

/-- The levels after a charge of both buckets. -/
def chargeLevels (levels : String → TokenLevel ℚ) (route : EconomicRouteKeys)
    (spending : Spending) : String → TokenLevel ℚ :=
  Function.update
    (Function.update levels route.operator
      ((bucketOf configured .operator).charge (levels route.operator) spending.time.millis
        spending.cost))
    route.backend
    ((bucketOf configured .backend).charge (levels route.backend) spending.time.millis
      spending.cost)

include configured in
theorem chargeLevels_charged {operatorID : String} (found : admission.routes operatorID = some route)
    (side : Side) :
    chargeLevels configured levels route spending (keyOf route side) =
      (bucketOf configured side).charge (levels (keyOf route side)) spending.time.millis
        spending.cost := by
  cases side with
  | operator =>
      have apart := configured.apart operatorID operatorID route route found found
      exact (Function.update_of_ne apart _ _).trans (Function.update_self _ _ _)
  | backend => exact Function.update_self _ _ _

include configured in
theorem chargeLevels_other {first second : String} {other : EconomicRouteKeys}
    (found : admission.routes first = some route) (foundOther : admission.routes second = some other)
    (side : Side) (apart : keyOf other side ≠ keyOf route side) :
    chargeLevels configured levels route spending (keyOf other side) =
      levels (keyOf other side) := by
  cases side with
  | operator =>
      have away := configured.apart second first other route foundOther found
      exact (Function.update_of_ne away _ _).trans (Function.update_of_ne apart _ _)
  | backend =>
      have away := configured.apart first second route other found foundOther
      exact (Function.update_of_ne apart _ _).trans (Function.update_of_ne away.symm _ _)

/-- The store after a charge of both buckets. -/
def chargedKeys (keys : Keyspace) (levels : String → TokenLevel ℚ) (route : EconomicRouteKeys)
    (spending : Spending) : Keyspace :=
  chargeBoth exactly keys route spending.time.millis
    (operatorAvailable configured levels route spending.time.millis,
      ttlBase (admission.operator.fillTime exactly))
    (backendAvailable configured levels route spending.time.millis,
      ttlBase (admission.backend.fillTime exactly)) spending.cost

include configured in
theorem chargedKeys_charged {operatorID : String} (found : admission.routes operatorID = some route)
    (side : Side) :
    chargedKeys configured keys levels route spending (keyOf route side) =
      some
        { value := timed ((bucketOf configured side).available (levels (keyOf route side))
            spending.time.millis - spending.cost) spending.time.millis
          expireAt := spending.time.millis +
            (ttlBase ((admission.policy side).fillTime exactly)).toNat } := by
  cases side with
  | operator =>
      have apart := configured.apart operatorID operatorID route route found found
      exact (Function.update_of_ne apart _ _).trans (Function.update_self _ _ _)
  | backend => exact Function.update_self _ _ _

include configured in
theorem chargedKeys_other {key : String} (operator : key ≠ route.operator)
    (backend : key ≠ route.backend) :
    chargedKeys configured keys levels route spending key = keys key :=
  (Function.update_of_ne backend _ _).trans (Function.update_of_ne operator _ _)

include configured in
/-- A charge leaves the buckets after it. -/
theorem Holds.charged (holds : admission.Holds keys spending.time.millis levels)
    (called : admission.Called spending route) (covers : Covers configured levels route spending) :
    admission.Holds (chargedKeys configured keys levels route spending) spending.time.millis
      (chargeLevels configured levels route spending) := by
  have least := called.cost_bounds
  have positive : (0 : ℚ) ≤ spending.cost := by linarith
  have step : ∀ operatorID other, admission.routes operatorID = some other → ∀ side,
      (admission.policy side).Stored timed (chargedKeys configured keys levels route spending)
        (keyOf other side) spending.time.millis
        (chargeLevels configured levels route spending (keyOf other side)) := by
    intro operatorID other found side
    by_cases here : keyOf other side = keyOf route side
    · rw [here, chargeLevels_charged configured called.found]
      refine Policy.stored_charged (configured.valid side) timed positive ?_
        (chargedKeys_charged configured called.found side)
      cases side with
      | operator => exact covers.1
      | backend => exact covers.2
    · rw [chargeLevels_other configured called.found found side here]
      refine (holds.stored found side).of_other ?_
      cases side with
      | operator =>
          exact chargedKeys_other configured here
            (configured.apart operatorID spending.operatorID other route found called.found)
      | backend =>
          exact chargedKeys_other configured
            (configured.apart spending.operatorID operatorID route other called.found found).symm
            here
  exact fun operatorID other found =>
    ⟨step operatorID other found .operator, step operatorID other found .backend⟩

end EconomicAdmission

end SlotsGame.Admission
