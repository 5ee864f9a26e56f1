/-
# SlotsGame.Outbox.Dispatcher -- one pass of a dispatcher

A pass draws a lease token, claims a batch and delivers every event of it on its own:
the publisher is called, and its answer decides which statement completes the
claim.  `NewDispatcher` fills in the defaults and checks the bounds that keep every
call to the store well formed (`claimRequest_valid`, `completion_valid`,
`failure_valid`).
-/
import Mathlib.Data.List.OfFn
import Mathlib.Tactic.Linarith
import SlotsGame.Outbox.Store

namespace SlotsGame.Outbox

open SlotsGame.Rgs SlotsGame.Text SlotsGame.Theory

set_option autoImplicit false

/-! ## Lease tokens -/

/-- Sixteen bytes of the system's random source. -/
abbrev Entropy := Fin 16 → Fin 256

def newLeaseToken (entropy : Entropy) : String :=
  "lease_" ++ String.ofList (hexEncode (List.ofFn entropy))

theorem digitChar_identifier : ∀ digit : Fin 16, identifierChar (Nat.digitChar digit.val) = true := by
  decide

theorem newLeaseToken_injective : Function.Injective newLeaseToken := by
  intro left right same
  have same := congrArg String.toList same
  rw [newLeaseToken, newLeaseToken, String.toList_append, String.toList_append] at same
  have digits := List.append_cancel_left same
  rw [String.toList_ofList, String.toList_ofList] at digits
  exact List.ofFn_injective (hexEncode_injective digits)

theorem newLeaseToken_identifier (entropy : Entropy) :
    identifierPattern (newLeaseToken entropy) = true := by
  have long (bytes : List (Fin 256)) : (hexEncode bytes).length = 2 * bytes.length := by
    induction bytes with
    | nil => rfl
    | cons byte rest ih =>
        rw [hexEncode, List.flatMap_cons, ← hexEncode, List.length_append, ih, List.length_cons]
        show 2 + _ = _
        omega
  have digits (bytes : List (Fin 256)) : (hexEncode bytes).all identifierChar = true := by
    rw [hexEncode, List.all_flatMap, List.all_eq_true]
    intro byte _
    have high := digitChar_identifier ⟨byte.val / 16, by omega⟩
    have low := digitChar_identifier ⟨byte.val % 16, by omega⟩
    simp only [hexByte, List.all_cons, List.all_nil, high, low, Bool.and_self]
  have length := long (List.ofFn entropy)
  rw [List.length_ofFn] at length
  have written : (newLeaseToken entropy).toList =
      'l' :: (['e', 'a', 's', 'e', '_'] ++ hexEncode (List.ofFn entropy)) := by
    have label : "lease_".toList = 'l' :: ['e', 'a', 's', 'e', '_'] := rfl
    rw [newLeaseToken, String.toList_append, label, String.toList_ofList, List.cons_append]
  rw [identifierPattern, matchesPattern, written]
  simp only [List.all_append, digits, List.length_append, length]
  decide

/-! ## Configuration -/

structure DispatcherConfig where
  owner : String
  interval : Duration
  leaseDuration : Duration
  publishTimeout : Duration
  batchSize : Nat
  maxParallel : Nat
  initialBackoff : Duration
  maximumBackoff : Duration
  deriving DecidableEq

def DispatcherConfig.withDefaults (config : DispatcherConfig) : DispatcherConfig :=
  { owner := config.owner
    interval := if config.interval = 0 then Duration.second else config.interval
    leaseDuration := if config.leaseDuration = 0 then 3 * Duration.minute else config.leaseDuration
    publishTimeout := if config.publishTimeout = 0 then 10 * Duration.second else config.publishTimeout
    batchSize := if config.batchSize = 0 then 100 else config.batchSize
    maxParallel := if config.maxParallel = 0 then 8 else config.maxParallel
    initialBackoff := if config.initialBackoff = 0 then Duration.second else config.initialBackoff
    maximumBackoff := if config.maximumBackoff = 0 then 5 * Duration.minute else config.maximumBackoff }

/-- `NewDispatcher` -/
def newDispatcher (given : DispatcherConfig) : Except OutboxError DispatcherConfig := do
  let config := given.withDefaults
  refuse (identifierPattern config.owner = false ∨
    config.interval < 10 * millisecond ∨ config.interval > Duration.hour ∨
    config.publishTimeout < 10 * millisecond ∨ config.publishTimeout > Duration.hour ∨
    config.leaseDuration < 10 * millisecond ∨ config.leaseDuration > 2 * Duration.hour ∨
    config.batchSize < 1 ∨ config.batchSize > 1000 ∨
    config.maxParallel < 1 ∨ config.maxParallel > 256 ∨
    config.initialBackoff < millisecond ∨
    config.maximumBackoff < config.initialBackoff ∨ config.maximumBackoff > 24 * Duration.hour)
    OutboxError.invalidInput
  let publishWaves : Nat := (config.batchSize + config.maxParallel - 1) / config.maxParallel
  refuse (config.publishTimeout > 2 * Duration.hour / publishWaves ∨
    config.leaseDuration ≤ config.publishTimeout * publishWaves) OutboxError.invalidInput
  pure config

/-- A dispatcher is what `NewDispatcher` lets through. -/
structure Dispatcher where
  config : DispatcherConfig
  opened : ∃ given, newDispatcher given = .ok config

/-! ## Backoff -/

def retryLoop (maximum : Duration) : Nat → Duration → Duration
  | 0, delay => if delay > maximum then maximum else delay
  | steps + 1, delay =>
      if delay ≥ maximum ∨ delay > maximum / 2 then maximum else retryLoop maximum steps (delay * 2)

/-- `RetryDelay` -/
def retryDelay (attempt : Nat) (base maximum : Duration) : Duration :=
  if base ≤ 0 ∨ maximum < base then 0 else retryLoop maximum (max attempt 1 - 1) base

theorem retryLoop_bounds (maximum : Duration) (steps : Nat) (delay : Duration) (positive : 0 < delay)
    (below : delay ≤ maximum) :
    delay ≤ retryLoop maximum steps delay ∧ retryLoop maximum steps delay ≤ maximum := by
  induction steps generalizing delay with
  | zero =>
      rw [retryLoop, if_neg (not_lt.mpr below)]
      exact ⟨le_refl delay, below⟩
  | succ steps ih =>
      unfold retryLoop
      split
      next => exact ⟨below, le_refl maximum⟩
      next small =>
        have bounds := ih (delay * 2) (by linarith) (by grind)
        exact ⟨by linarith [bounds.1], bounds.2⟩

theorem retryDelay_bounds (attempt : Nat) {base maximum : Duration} (positive : 0 < base)
    (below : base ≤ maximum) :
    base ≤ retryDelay attempt base maximum ∧ retryDelay attempt base maximum ≤ maximum := by
  rw [retryDelay, if_neg (not_or.mpr ⟨not_le.mpr positive, not_lt.mpr below⟩)]
  exact retryLoop_bounds maximum _ base positive below

/-! ## The calls of a pass -/

def publishFailureCode : String := "PUBLISH_FAILED"

namespace Dispatcher

variable (dispatcher : Dispatcher)

/-- The claim of `RunOnce`. -/
def claimRequest (leaseToken : String) : ClaimRequest :=
  { owner := dispatcher.config.owner, leaseToken := leaseToken
    leaseDuration := dispatcher.config.leaseDuration, limit := dispatcher.config.batchSize }

/-- The acknowledgement of `deliver`. -/
def completion (leaseToken : String) (event : Event) : Completion :=
  { eventID := event.id, leaseToken := leaseToken }

/-- The deferral of `deliver`. -/
def failure (leaseToken : String) (event : Event) : Failure :=
  { eventID := event.id, leaseToken := leaseToken
    retryAfter :=
      retryDelay event.attempts dispatcher.config.initialBackoff dispatcher.config.maximumBackoff
    code := publishFailureCode }

/-- What `NewDispatcher` checked. -/
theorem checked : identifierPattern dispatcher.config.owner = true ∧
    10 * millisecond ≤ dispatcher.config.leaseDuration ∧
    dispatcher.config.leaseDuration ≤ 2 * Duration.hour ∧
    1 ≤ dispatcher.config.batchSize ∧ dispatcher.config.batchSize ≤ 1000 ∧
    millisecond ≤ dispatcher.config.initialBackoff ∧
    dispatcher.config.initialBackoff ≤ dispatcher.config.maximumBackoff ∧
    dispatcher.config.maximumBackoff ≤ 24 * Duration.hour := by
  obtain ⟨given, opened⟩ := dispatcher.opened
  simp only [newDispatcher, bind_ok, refuse_ok, exists_unit, pure_ok, not_or, not_lt,
    Bool.not_eq_false] at opened
  obtain ⟨⟨owner, _, _, _, _, lease, leaseMost, batch, batchMost, _, _, backoff, backoffMost, most⟩,
    _, same⟩ := opened
  rw [← same]
  exact ⟨owner, lease, leaseMost, batch, batchMost, backoff, backoffMost, most⟩

theorem claimRequest_valid (entropy : Entropy) :
    (dispatcher.claimRequest (newLeaseToken entropy)).Valid := by
  obtain ⟨owner, lease, leaseMost, batch, batchMost, _⟩ := dispatcher.checked
  refine ⟨owner, newLeaseToken_identifier entropy, ?_, leaseMost, batch, batchMost⟩
  have positive : (0 : Int) < millisecond := by decide
  show millisecond ≤ dispatcher.config.leaseDuration
  linarith

theorem completion_valid (entropy : Entropy) {event : Event} (positive : 0 < event.id) :
    (completion (newLeaseToken entropy) event).Valid :=
  ⟨positive, newLeaseToken_identifier entropy⟩

theorem failure_valid (entropy : Entropy) {event : Event} (positive : 0 < event.id) :
    (dispatcher.failure (newLeaseToken entropy) event).Valid := by
  obtain ⟨_, _, _, _, _, backoff, backoffMost, most⟩ := dispatcher.checked
  have millisecond_pos : (0 : Int) < millisecond := by decide
  have bounds := retryDelay_bounds event.attempts (lt_of_lt_of_le millisecond_pos backoff) backoffMost
  refine ⟨positive, newLeaseToken_identifier entropy, le_trans backoff bounds.1,
    le_trans bounds.2 most, ?_⟩
  show outboxFailurePattern publishFailureCode = true
  decide

end Dispatcher

end SlotsGame.Outbox
