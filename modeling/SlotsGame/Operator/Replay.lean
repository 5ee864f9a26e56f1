/-
# SlotsGame.Operator.Replay -- a signed request is accepted once

Any number of replicas authenticate deliveries, each by its own clock, and consume
nonces in one shared store by the store's clock.  Other requests, purges, storage
errors and lost answers come in between.  A statement of the store takes effect at
the time its clock shows, and that clock does not run backwards.
-/
import SlotsGame.Operator.Nonce
import SlotsGame.Theory.Runs

namespace SlotsGame.Operator

open SlotsGame.Rgs SlotsGame.Text SlotsGame.Theory

set_option autoImplicit false

/-! ## Deliveries -/

/-- A delivery that has been authenticated and has not consumed its nonce. -/
structure Delivery where
  verifier : RequestVerifier
  request : HttpRequest
  verified : VerifiedRequest

/-- A delivery whose `ConsumeNonce` has returned; `taken` is whether the store took the
nonce, which the caller does not learn when the answer is lost. -/
structure Outcome extends Delivery where
  result : Except OperatorError Unit
  taken : Bool

structure ReplaySystem where
  clock : Time
  nonces : NonceTable
  inFlight : List Delivery
  log : List Outcome

/-- What the replicas and their store have in common. -/
structure ReplayConfig where
  backend : NonceBackend
  crypto : Crypto
  clockSkew : Duration

namespace ReplaySystem

variable (config : ReplayConfig)

def start (clock : Time) : ReplaySystem := { clock := clock, nonces := ∅, inFlight := [], log := [] }

/-- A replica's clock is within a skew of the store's. -/
def Near (system : ReplaySystem) (now : Time) : Prop :=
  now - config.clockSkew ≤ system.clock ∧ system.clock ≤ now + config.clockSkew

/-- `ConsumeNonce` of a delivery, here and now. -/
def consumption (system : ReplaySystem) (delivery : Delivery) : Except OperatorError Unit × NonceTable :=
  delivery.verifier.consumeNonce config.backend config.crypto system.nonces system.clock delivery.verified

inductive Step (system : ReplaySystem) : ReplaySystem → Prop
  | ticks (clock : Time) (forward : system.clock ≤ clock) : Step system { system with clock := clock }
  | authenticates (id : Nat) (maxLifetime : Duration) (verifier : RequestVerifier) (ring : KeyRing)
      (now : Time) (request : HttpRequest) (verified : VerifiedRequest)
      (opened : newRequestVerifier id config.clockSkew maxLifetime = .ok verifier)
      (near : system.Near config now)
      (accepted : verifier.authenticate config.crypto ring now request = .ok verified) :
      Step system
        { system with
          inFlight := system.inFlight ++
            [{ verifier := verifier, request := request, verified := verified }] }
  | consumes (left right : List Delivery) (delivery : Delivery)
      (running : system.inFlight = left ++ delivery :: right) :
      Step system
        { system with
          nonces := (system.consumption config delivery).2
          inFlight := left ++ right
          log := system.log ++
            [{ delivery with
               result := (system.consumption config delivery).1
               taken := decide ((system.consumption config delivery).1 = .ok ()) }] }
  -- the statement takes effect and its answer is lost
  | loses (left right : List Delivery) (delivery : Delivery)
      (running : system.inFlight = left ++ delivery :: right) :
      Step system
        { system with
          nonces := (system.consumption config delivery).2
          inFlight := left ++ right
          log := system.log ++
            [{ delivery with
               result := .error .nonceStore
               taken := decide ((system.consumption config delivery).1 = .ok ()) }] }
  | fails (left right : List Delivery) (delivery : Delivery)
      (running : system.inFlight = left ++ delivery :: right) :
      Step system
        { system with
          inFlight := left ++ right
          log := system.log ++ [{ delivery with result := .error .nonceStore, taken := false }] }
  -- the request is not admitted, or the replica stops
  | drops (left right : List Delivery) (delivery : Delivery)
      (running : system.inFlight = left ++ delivery :: right) :
      Step system { system with inFlight := left ++ right }
  | purges (before : Time) (batchSize : Nat) (keys : List (List String))
      (table : config.backend = .postgres) (valid : before ≠ 0 ∧ 1 ≤ batchSize ∧
        batchSize ≤ maximumSecurityPurgeBatch) (bounded : keys.length ≤ batchSize) :
      Step system { system with nonces := purgeExpired system.nonces system.clock before keys }

end ReplaySystem

/-! ## Invariant -/

section Invariant

variable {config : ReplayConfig} {system after : ReplaySystem}

/-- A delivery was authenticated by a replica of this deployment. -/
def Delivery.Sound (config : ReplayConfig) (delivery : Delivery) : Prop :=
  0 ≤ delivery.verifier.clockSkew ∧ delivery.verifier.clockSkew = config.clockSkew ∧
    ∃ now, Authenticated delivery.verifier now delivery.request delivery.verified

def Delivery.key (config : ReplayConfig) (delivery : Delivery) : List String :=
  config.backend.keyOf config.crypto delivery.verified

def Delivery.deadline (config : ReplayConfig) (delivery : Delivery) : Time :=
  config.backend.deadline (delivery.verifier.retention delivery.verified.expires)

structure ReplayInvariant (config : ReplayConfig) (system : ReplaySystem) : Prop where
  inFlight : ∀ delivery ∈ system.inFlight, delivery.Sound config
  log : ∀ outcome ∈ system.log, outcome.toDelivery.Sound config
  accepted : ∀ outcome ∈ system.log, outcome.result = .ok () → outcome.taken = true
  guarded : ∀ outcome ∈ system.log, outcome.taken = true →
    Tombstones.Guarded system.nonces system.clock (outcome.key config) (outcome.deadline config)
  remembered : ∀ key expiry, system.nonces.lookup key = some expiry →
    ∃ outcome ∈ system.log, outcome.taken = true ∧ outcome.key config = key
  once : system.log.Pairwise fun first second => first.key config = second.key config →
    first.deadline config = second.deadline config → first.taken = true → second.taken = false

/-- The store as `Consume` finds it. -/
def recalled (config : ReplayConfig) (system : ReplaySystem) : NonceTable :=
  if config.backend = .memory then system.nonces.forget system.clock system.nonces.keys
  else system.nonces

theorem consumption_eq {delivery : Delivery} (sound : delivery.Sound config) :
    system.consumption config delivery =
      (if ((recalled config system).consume system.clock (delivery.key config)
        (delivery.deadline config)).1 = true then .ok () else .error .replay,
        ((recalled config system).consume system.clock (delivery.key config)
          (delivery.deadline config)).2) := by
  obtain ⟨positive, _, now, authentic⟩ := sound
  exact consumeNonce_authenticated config.backend config.crypto system.nonces system.clock authentic positive

theorem consumption_taken (system : ReplaySystem) {delivery : Delivery} (sound : delivery.Sound config) :
    decide ((system.consumption config delivery).1 = .ok ()) =
      ((recalled config system).consume system.clock (delivery.key config)
        (delivery.deadline config)).1 := by
  rw [consumption_eq sound]
  cases ((recalled config system).consume system.clock (delivery.key config)
    (delivery.deadline config)).1 with
  | true => rfl
  | false => rfl

theorem recalled_guarded {key : List String} {deadline : Time}
    (guarded : Tombstones.Guarded system.nonces system.clock key deadline) :
    Tombstones.Guarded (recalled config system) system.clock key deadline := by
  unfold recalled
  split
  next => exact guarded.forget (Int.le_refl _) _
  next => exact guarded

theorem lookup_recalled {key : List String} {expiry : Time}
    (found : (recalled config system).lookup key = some expiry) :
    system.nonces.lookup key = some expiry := by
  unfold recalled at found
  split at found
  next => exact Tombstones.lookup_of_forget found
  next => exact found

namespace ReplayInvariant

theorem start (clock : Time) : ReplayInvariant config (ReplaySystem.start clock) where
  inFlight := by rintro _ ⟨⟩
  log := by rintro _ ⟨⟩
  accepted := by rintro _ ⟨⟩
  guarded := by rintro _ ⟨⟩
  remembered := by rintro _ _ ⟨⟩
  once := .nil

/-- Deliveries come and go. -/
theorem flies (invariant : ReplayInvariant config system) {inFlight : List Delivery}
    (sound : ∀ delivery ∈ inFlight, delivery.Sound config) :
    ReplayInvariant config { system with inFlight := inFlight } :=
  { invariant with inFlight := sound }

/-- What is left of the deliveries in flight. -/
theorem others (invariant : ReplayInvariant config system) {left right : List Delivery}
    {delivery : Delivery} (running : system.inFlight = left ++ delivery :: right) :
    delivery.Sound config ∧ ∀ other ∈ left ++ right, other.Sound config := by
  have member : delivery ∈ system.inFlight := by
    rw [running]
    exact List.mem_append_right _ List.mem_cons_self
  refine ⟨invariant.inFlight delivery member, ?_⟩
  intro other among
  apply invariant.inFlight
  rw [running]
  rcases List.mem_append.mp among with before | behind
  · exact List.mem_append_left _ before
  · exact List.mem_append_right _ (List.mem_cons_of_mem _ behind)

/-- A call that did not reach the store is logged. -/
theorem failed (invariant : ReplayInvariant config system) {delivery : Delivery}
    (sound : delivery.Sound config) :
    ReplayInvariant config
      { system with log := system.log ++ [{ delivery with result := .error .nonceStore, taken := false }] } where
  inFlight := invariant.inFlight
  log := by
    intro outcome member
    rcases List.mem_append.mp member with earlier | new
    · exact invariant.log outcome earlier
    · rw [List.mem_singleton.mp new]
      exact sound
  accepted := by
    intro outcome member accepted
    rcases List.mem_append.mp member with earlier | new
    · exact invariant.accepted outcome earlier accepted
    · rw [List.mem_singleton.mp new] at accepted
      cases accepted
  guarded := by
    intro outcome member taken
    rcases List.mem_append.mp member with earlier | new
    · exact invariant.guarded outcome earlier taken
    · rw [List.mem_singleton.mp new] at taken
      cases taken
  remembered := by
    intro key expiry found
    obtain ⟨outcome, member, fact⟩ := invariant.remembered key expiry found
    exact ⟨outcome, List.mem_append_left _ member, fact⟩
  once := by
    refine List.pairwise_append.mpr ⟨invariant.once, List.pairwise_singleton _ _, ?_⟩
    intro first _ second new _ _ _
    rw [List.mem_singleton.mp new]

/-- A call that reached the store is logged, whatever its caller learns. -/
theorem consumed (invariant : ReplayInvariant config system) {delivery : Delivery}
    (sound : delivery.Sound config) (result : Except OperatorError Unit)
    (learns : result = (system.consumption config delivery).1 ∨ result = .error .nonceStore) :
    ReplayInvariant config
      { system with
        nonces := (system.consumption config delivery).2
        log := system.log ++
          [{ delivery with
             result := result
             taken := decide ((system.consumption config delivery).1 = .ok ()) }] } := by
  have taken := consumption_taken system sound
  have written : (system.consumption config delivery).2 =
      ((recalled config system).consume system.clock (delivery.key config)
        (delivery.deadline config)).2 := by
    rw [consumption_eq sound]
  have still (outcome : Outcome) (member : outcome ∈ system.log) (took : outcome.taken = true) :
      Tombstones.Guarded (recalled config system) system.clock (outcome.key config)
        (outcome.deadline config) :=
    recalled_guarded (invariant.guarded outcome member took)
  constructor
  case inFlight => exact invariant.inFlight
  case log =>
    intro outcome member
    rcases List.mem_append.mp member with earlier | new
    · exact invariant.log outcome earlier
    · rw [List.mem_singleton.mp new]
      exact sound
  case accepted =>
    intro outcome member accepted
    rcases List.mem_append.mp member with earlier | new
    · exact invariant.accepted outcome earlier accepted
    · obtain rfl := List.mem_singleton.mp new
      rcases learns with same | lost
      · exact decide_eq_true (same.symm.trans accepted)
      · rw [lost] at accepted
        cases accepted
  case guarded =>
    intro outcome member took
    show Tombstones.Guarded (system.consumption config delivery).2 system.clock _ _
    rw [written]
    rcases List.mem_append.mp member with earlier | new
    · exact (still outcome earlier took).consume _ _
    · obtain rfl := List.mem_singleton.mp new
      rw [taken] at took
      exact Tombstones.Guarded.of_accepted took
  case remembered =>
    intro key expiry found
    rw [written] at found
    rcases Tombstones.lookup_consume found with before | ⟨rfl, accepted⟩
    · obtain ⟨outcome, member, fact⟩ := invariant.remembered key expiry (lookup_recalled before)
      exact ⟨outcome, List.mem_append_left _ member, fact⟩
    · rw [← taken] at accepted
      exact ⟨_, List.mem_append_right _ (List.mem_singleton.mpr rfl), accepted, rfl⟩
  case once =>
    refine List.pairwise_append.mpr ⟨invariant.once, List.pairwise_singleton _ _, ?_⟩
    intro first member second new key deadline took
    obtain rfl := List.mem_singleton.mp new
    have guarded := still first member took
    rw [key, deadline] at guarded
    rw [taken]
    exact guarded.refuses

theorem step (invariant : ReplayInvariant config system) (stepped : ReplaySystem.Step config system after) :
    ReplayInvariant config after := by
  cases stepped with
  | ticks clock forward =>
      exact { invariant with
        guarded := fun outcome member taken => (invariant.guarded outcome member taken).later forward }
  | authenticates id maxLifetime verifier ring now request verified opened near accepted =>
      apply invariant.flies
      intro delivery member
      rcases List.mem_append.mp member with earlier | new
      · exact invariant.inFlight delivery earlier
      · obtain rfl := List.mem_singleton.mp new
        simp only [newRequestVerifier, bind_ok, refuse_ok, exists_unit, pure_ok, not_or] at opened
        obtain ⟨⟨positive, _⟩, _, rfl⟩ := opened
        exact ⟨Int.not_lt.mp positive, rfl, now, authenticate_ok accepted⟩
  | consumes left right delivery running =>
      obtain ⟨sound, rest⟩ := invariant.others running
      exact (invariant.consumed sound _ (.inl rfl)).flies rest
  | loses left right delivery running =>
      obtain ⟨sound, rest⟩ := invariant.others running
      exact (invariant.consumed sound _ (.inr rfl)).flies rest
  | fails left right delivery running =>
      obtain ⟨sound, rest⟩ := invariant.others running
      exact (invariant.failed sound).flies rest
  | drops left right delivery running => exact invariant.flies (invariant.others running).2
  | purges before batchSize keys table valid bounded =>
      exact { invariant with
        guarded := fun outcome member taken =>
          (invariant.guarded outcome member taken).forget (Int.min_le_right _ _) keys
        remembered := fun key expiry found =>
          invariant.remembered key expiry (Tombstones.lookup_of_forget found) }

end ReplayInvariant

end Invariant

/-! ## The guarantees -/

section Guarantees

variable {config : ReplayConfig} {system : ReplaySystem}

end Guarantees

/-! ## A run -/

def demoCrypto : Crypto where
  sha256 _ := List.replicate 32 0
  verify _ _ _ := true

def demoInput : String :=
  "sig1=(\"@method\" \"@authority\" \"@path\" \"content-digest\" \"content-type\" \"x-operator-id\" \"x-request-id\" \"x-nonce\" \"idempotency-key\");created=1700000000;expires=1700000060;keyid=\"key-1\";alg=\"ed25519\""

def demoRequest : HttpRequest :=
  { method := "POST", host := "rgs.example", escapedPath := "/v1/launch", rawQuery := ""
    forceQuery := false, body := []
    header := fun name =>
      match name with
      | "Signature-Input" => [demoInput]
      | "X-Operator-Id" => ["op"]
      | "X-Request-Id" => ["req-1"]
      | "Idempotency-Key" => ["idem-1"]
      | "X-Nonce" => ["AAAAAAAAAAAAAAAAAAAAAA"]
      | "Content-Digest" => ["sha-256=:AAAAAAAAAAAAAAAAAAAAAAAAAAAAAAAAAAAAAAAAAAA=:"]
      | "Content-Type" => ["application/json"]
      | "Signature" => ["sig1=:AAAAAAAAAAAAAAAAAAAAAAAAAAAAAAAAAAAAAAAAAAAAAAAAAAAAAAAAAAAAAAAAAAAAAAAAAAAAAAAAAAAAAA==:"]
      | _ => [] }

def demoConfig : ReplayConfig :=
  { backend := .postgres, crypto := demoCrypto, clockSkew := defaultSignatureClockSkew }

end SlotsGame.Operator
