/-
# SlotsGame.Admission.Limiter -- the shared rate limiter

The script of the basic limiter keeps the tokens of its last admission and reads the
time since then off the time the key has left; a key that is gone stands for a full
bucket.  Lua's numbers are binary64, so the script takes the rounding of each
operation as a parameter: `exactly` for exact rational arithmetic, and
`Theory.binary64` for what the server computes.
-/
import SlotsGame.Admission.Valkey

namespace SlotsGame.Admission

open SlotsGame.Theory

set_option autoImplicit false

/-! ## Configuration -/

/-- What `newLimiter` makes of a rate and a burst: whole millitokens for a second. -/
structure Policy where
  rateMilli : Int
  burst : Int
  deriving DecidableEq

namespace Policy

def capacityMilli (policy : Policy) : Int := policy.burst * 1000

/-- The checks of `newLimiter` and of `economicPolicyArguments`. -/
def validate (policy : Policy) : Except String Unit :=
  if policy.burst < 1 ∨ policy.burst > 1000000 then .error "invalid shared admission bounds"
  else if policy.rateMilli < 1 ∨ policy.rateMilli > 100000000 then
    .error "shared admission rate must be exactly representable in millitokens"
  else if ⌈(policy.capacityMilli * 1000 : ℚ) / policy.rateMilli⌉ + 1000 > maximumBucketTTL then
    .error "shared admission full-refill TTL exceeds 24 hours"
  else .ok ()

/-- The bucket that a policy describes, in millitokens and milliseconds. -/
def Valid (policy : Policy) : Prop :=
  (1 ≤ policy.burst ∧ policy.burst ≤ 1000000) ∧
    (1 ≤ policy.rateMilli ∧ policy.rateMilli ≤ 100000000) ∧
    ⌈(policy.capacityMilli * 1000 : ℚ) / policy.rateMilli⌉ + 1000 ≤ maximumBucketTTL

theorem validate_ok (policy : Policy) : policy.validate = .ok () ↔ policy.Valid := by
  unfold validate Valid
  split_ifs with burst rate fill <;> simp only [false_iff, true_iff] <;> omega

end Policy

/-! ## The script -/

section Script

variable (round : ℚ → ℚ)

/-- `math.ceil(capacity * 1000 / rate)` -/
def fillTime (capacity rate : ℚ) : Int := ⌈round (round (capacity * 1000) / rate)⌉

/-- `math.max(1000, fill_time + 1000)` -/
def ttlBase (fill : Int) : Int := max 1000 (fill + 1000)

/-- `math.min(capacity, tokens + elapsed * rate / 1000)` -/
def refill (capacity rate tokens elapsed : ℚ) : ℚ :=
  min capacity (round (tokens + round (round (elapsed * rate) / 1000)))

/-- `if elapsed < 0 … if elapsed > fill_time …` -/
def clipElapsed (elapsed fill : ℚ) : ℚ :=
  let elapsed := if elapsed < 0 then 0 else elapsed
  if elapsed > fill then fill else elapsed

def invalidState : String := "invalid token bucket state"
def invalidConfiguration : String := "invalid token bucket configuration"

/-- The tokens at an instant. -/
def loadTokens (capacity rate : ℚ) (keys : Keyspace) (now : Nat) (key : String) :
    Except String ℚ :=
  let fill := fillTime round capacity rate
  match keys.get now key with
  | none => .ok (refill round capacity rate capacity 0)
  | some entry =>
      let ttl := Keyspace.pttl now entry
      match entry.value with
      | .table [tokens, base] =>
          if tokens < 0 ∨ base ≠ ⌊base⌋ ∨ base < 1000 ∨ base > 86400000 ∨ base < ttl then
            .error invalidState
          else
            .ok (refill round capacity rate (min capacity tokens)
              (clipElapsed (round (base - ttl)) fill))
      | _ => .error invalidState

/-- `tokenBucketScriptBody`: the reply, and the keys after it. -/
def tokenBucketScript (capacity rate : Option ℚ) (keys : Keyspace) (now : Nat) (key : String) :
    Except String (Int × Int) × Keyspace :=
  match capacity, rate with
  | some capacity, some rate =>
      if capacity < 1000 ∨ capacity > 1000000000 ∨ rate < 1 ∨ rate > 100000000 then
        (.error invalidConfiguration, keys)
      else if fillTime round capacity rate + 1000 > 86400000 then
        (.error invalidConfiguration, keys)
      else
        match loadTokens round capacity rate keys now key with
        | .error message => (.error message, keys)
        | .ok tokens =>
            if tokens ≥ 1000 then
              let base := ttlBase (fillTime round capacity rate)
              (.ok (1, 0), keys.set now key (.table [round (tokens - 1000), base]) base.toNat)
            else
              (.ok (0, max 1 ⌈round (round (round (1000 - tokens) * 1000) / rate)⌉), keys)
  | _, _ => (.error invalidConfiguration, keys)

end Script

/-! ## The limiter -/

/-- A request for an identity, at a millisecond of the server. -/
structure Asking where
  now : Nat
  key : String
  deriving DecidableEq

/-- `Evaluate` with the arguments of the policy. -/
def Policy.serve (policy : Policy) (round : ℚ → ℚ) (keys : Keyspace) (asking : Asking) :
    Except String (Int × Int) × Keyspace :=
  tokenBucketScript round (some policy.capacityMilli) (some policy.rateMilli) keys asking.now
    asking.key

/-- The replies to a sequence of requests, and the keys after it. -/
def Policy.serveAll (policy : Policy) (round : ℚ → ℚ) :
    Keyspace → List Asking → List (Except String (Int × Int)) × Keyspace
  | keys, [] => ([], keys)
  | keys, asking :: rest =>
      let reply := policy.serve round keys asking
      let later := policy.serveAll round reply.2 rest
      (reply.1 :: later.1, later.2)

/-- `Admit` takes the reply of the script. -/
def acceptsReply (result : List Int) : Bool :=
  match result with
  | [allowed, retry] =>
      (allowed == 0 || allowed == 1) && decide (0 ≤ retry) && decide (retry ≤ maximumBucketTTL)
  | _ => false

/-- `AdmissionResult` of a reply; nothing where `Admit` answers that the backend is
unavailable. -/
inductive AdmissionDecision
  | allowed
  | rateLimited (retryAfterMs : Int)
  deriving DecidableEq

/-- What `Admit` decides on a reply. -/
def decideReply (reply : Except String (Int × Int)) : Option AdmissionDecision :=
  match reply with
  | .error _ => none
  | .ok (allowed, retry) =>
      if acceptsReply [allowed, retry] = false then none
      else if allowed = 0 then some (.rateLimited retry)
      else some .allowed

/-! ## The ideal -/

/-- The ideal bucket of a policy. -/
def Policy.bucket (policy : Policy) (valid : policy.Valid) : TokenBucket ℚ where
  capacity := policy.capacityMilli
  rate := policy.rateMilli / 1000
  capacity_nonneg := by
    have burst : (0 : ℤ) ≤ policy.capacityMilli := by
      have := valid.1.1
      unfold capacityMilli
      omega
    exact_mod_cast burst
  rate_nonneg := by
    have rate : (0 : ℤ) ≤ policy.rateMilli := by
      have := valid.2.1.1
      omega
    have rate : (0 : ℚ) ≤ policy.rateMilli := by exact_mod_cast rate
    positivity

/-- One request to the ideal buckets, one for each key: a token if there is one. -/
def Policy.ideal (policy : Policy) (valid : policy.Valid) (levels : String → TokenLevel ℚ)
    (asking : Asking) : Bool × (String → TokenLevel ℚ) :=
  let bucket := policy.bucket valid
  let admits := decide (1000 ≤ bucket.available (levels asking.key) asking.now)
  (admits, Function.update levels asking.key
    (bucket.charge (levels asking.key) asking.now (if admits then 1000 else 0)))

def Policy.idealAll (policy : Policy) (valid : policy.Valid) :
    (String → TokenLevel ℚ) → List Asking → List Bool
  | _, [] => []
  | levels, asking :: rest =>
      let reply := policy.ideal valid levels asking
      reply.1 :: policy.idealAll valid reply.2 rest

/-- Full buckets. -/
def Policy.full (policy : Policy) : String → TokenLevel ℚ :=
  fun _ => ⟨policy.capacityMilli, 0⟩

end SlotsGame.Admission
