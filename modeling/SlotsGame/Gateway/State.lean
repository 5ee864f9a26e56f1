/-
# SlotsGame.Gateway.State -- what the gateway of the browser client keeps

One round is pending at a time.  While it is, the gateway has requests in flight for it: the
submission of the spin, polls of its status and, once its result has been delivered, the
acknowledgement.  A request suspends the code that sent it, so the state lists every
suspended call with the place that it continues from; `log` and `acknowledgementLog`
record what was sent and what was learned, the latest first.

Times are milliseconds of the session clock, which never runs behind the timers.
-/
import SlotsGame.Client.Messages
import SlotsGame.Theory.Effects
import SlotsGame.Theory.TimerSlots

namespace SlotsGame.Gateway

open SlotsGame.Client (FeatureState)
open SlotsGame.Theory

set_option autoImplicit false

abbrev Millis := ℚ

/-! ## Failures -/

/-- `MAX_ADMISSION_RETRY_AFTER_MS` -/
def maxAdmissionRetryAfterMs : Nat := 1000000

/-- `MAX_TIMER_DELAY_MS` -/
def maxTimerDelayMs : Nat := 2147483647

/-- A delay that `safeRetryAfterMs` reads from a header. -/
structure RetryAfter where
  ms : Nat
  least : 1000 ≤ ms
  most : ms ≤ maxAdmissionRetryAfterMs
  deriving DecidableEq

/-- What a call of the gateway fails with; `protocol` is every other error. -/
inductive RgsError
  | http (status : Nat) (code : String) (retryAfter : Option RetryAfter)
  | network
  | delivery
  | protocol
  deriving DecidableEq

/-- `retryableHttp` -/
def retryableHttp (status : Nat) : Bool := status == 202 || status == 429 || decide (status ≥ 500)

/-- `provablyPreTransaction` -/
def provablyPreTransaction (status : Nat) (code : String) : Bool :=
  status == 429 && code == "RATE_LIMITED" ||
    status == 503 && (code == "ADMISSION_UNAVAILABLE" || code == "WALLET_UNAVAILABLE" ||
      code == "CAPACITY_UNAVAILABLE")

/-- The statuses that end an authorization: `unrecoverableRefreshAuthorization`. -/
def unrecoverableAuthorization (status : Nat) : Bool :=
  status == 401 || status == 403 || status == 410 || status == 423

namespace RgsError

/-- `error instanceof RgsNetworkError || error instanceof RgsHttpError && retryableHttp(error)` -/
def retryable : RgsError → Bool
  | http status _ _ => retryableHttp status
  | network => true
  | _ => false

def retryAfterMs : RgsError → Option Nat
  | http _ _ retryAfter => retryAfter.map RetryAfter.ms
  | _ => none

def code : RgsError → Option String
  | http _ code _ => some code
  | _ => none

def status : RgsError → Option Nat
  | http status _ _ => some status
  | _ => none

end RgsError

/-- Why a gateway has ended. -/
inductive Termination
  | error (error : RgsError)
  | sessionTimeout
  | roundRecoveryExhausted
  | acknowledgementRecoveryRequired
  | manualReview
  | elsewhere
  deriving DecidableEq

/-! ## The session and the pending round -/

/-- `ValidatedConfig` -/
structure Config where
  pollDelayMs : Nat := 250
  maxPollAttempts : Nat := 24
  acknowledgementRetryBaseDelayMs : Nat := 500
  acknowledgementRetryMaxDelayMs : Nat := 30000
  acknowledgementMaxAttempts : Nat := 8
  acknowledgementRetryWindowMs : Nat := 120000
  sessionStatusProbeEnabled : Bool := true
  pollDelay : 10 ≤ pollDelayMs ∧ pollDelayMs ≤ 60000 := by decide
  pollAttempts : 1 ≤ maxPollAttempts ∧ maxPollAttempts ≤ 100 := by decide
  baseDelay : 100 ≤ acknowledgementRetryBaseDelayMs ∧ acknowledgementRetryBaseDelayMs ≤ 10000 := by
    decide
  maxDelay : acknowledgementRetryBaseDelayMs ≤ acknowledgementRetryMaxDelayMs ∧
    acknowledgementRetryMaxDelayMs ≤ 60000 := by decide
  maxAttempts : 1 ≤ acknowledgementMaxAttempts ∧ acknowledgementMaxAttempts ≤ 20 := by decide
  window : acknowledgementRetryMaxDelayMs ≤ acknowledgementRetryWindowMs ∧
    1000 ≤ acknowledgementRetryWindowMs ∧ acknowledgementRetryWindowMs ≤ 600000 := by decide

structure RgsSession where
  balanceMinor : Int
  revision : Nat
  sequence : Nat
  featureState : FeatureState
  expiresAt : Millis
  idleDisconnectAt : Millis
  deriving DecidableEq

inductive RoundKind
  | base | freeSpin
  deriving DecidableEq

/-- The fields of a pending round whose names begin with `acknowledgement`. -/
structure Acknowledgement where
  inFlight : Bool := false
  requestActive : Bool := false
  notBeforeAtMs : Option Millis := none
  attempts : Nat := 0
  startedAtMs : Option Millis := none
  exhausted : Bool := false
  deriving DecidableEq

/-- A pending round; `id` tells apart the objects that stand for rounds. -/
structure PendingRound where
  id : Nat
  roundId : String
  betMinor : Int
  startRevision : Nat
  roundKind : RoundKind
  pollAttempts : Nat := 0
  pollRequestActive : Bool := false
  resubmitOnNotFound : Bool := false
  blocked : Bool := false
  deliveredSequence : Option Nat := none
  deliveredResultHash : Option String := none
  acknowledgement : Acknowledgement := {}
  deriving DecidableEq

/-! ## Calls -/

/-- `DecodedRgsSpin`, with the outcomes of what is not decided by these fields: `bound` of the
comparison of the bindings, `originValid` of that with the origin of the round, and `taken` of
the callback that hands the result to the controller. -/
structure DecodedRgsSpin where
  bound : Bool
  roundId : String
  betMinor : Int
  chargedBetMinor : Int
  startRevision : Nat
  endRevision : Nat
  roundKind : RoundKind
  sequence : Nat
  balanceMinor : Int
  featureState : FeatureState
  resultHash : String
  idleDisconnectAt : Millis
  originValid : Bool
  taken : Bool
  deriving DecidableEq

inductive RoundStatus
  | committed (result : Option DecodedRgsSpin)
  | prepared
  | walletPending
  | rejected
  | manualReview
  deriving DecidableEq

/-- A decoded reply; `bound` says that it names the operator, the session and the round that
were asked for. -/
inductive RoundReply
  | spin (decoded : DecodedRgsSpin)
  | status (bound : Bool) (status : RoundStatus)
  deriving DecidableEq

inductive RoundRequest
  | submission | poll
  deriving DecidableEq

/-- Where a call of `authorizedPost` is suspended; `again` once it has been answered with 401.
A call that awaits the renewal of the access token is `awaiting` while the renewal lasts and
`settled` afterwards, until it is its turn. -/
inductive Stage
  | awaiting (again : Bool)
  | settled (again : Bool) (failure : Option RgsError)
  | sent (again : Bool)
  deriving DecidableEq

/-- A suspended call.  `round` is the pending round that it was made for, and `answer` what
the server has answered to it. -/
structure Call (κ ρ : Type) where
  round : Nat
  kind : κ
  stage : Stage
  answer : Option (Except RgsError ρ) := none
  deriving DecidableEq

inductive RoundEvent
  | sent (round : Nat) (request : RoundRequest)
  | delayed (round : Nat) (notBefore : Millis)
  deriving DecidableEq

inductive AcknowledgementEvent
  | started (round : Nat)
  | attempted (round : Nat)
  | sent (round : Nat)
  | deferred (round : Nat) (notBefore : Millis)
  | exhausted (round : Nat)
  deriving DecidableEq

/-! ## The gateway -/

structure RgsGateway where
  now : Millis
  session : RgsSession
  pending : Option PendingRound := none
  nextRound : Nat := 0
  lastAppliedSequence : Nat
  lastAppliedRoundId : Option String := none
  connected : Bool := true
  wageringBlocked : Bool := false
  closed : Bool := false
  terminated : Option Termination := none
  accessToken : Bool := true
  refreshPromise : Option RgsSession := none
  runtimeOnline : Bool := true
  runtimeVisible : Bool := true
  pollTimer : TimerSlot Nat := {}
  pollNotBeforeAtMs : Option Millis := none
  acknowledgementRetryTimer : TimerSlot Nat := {}
  acknowledgementDeadlineTimer : TimerSlot Nat := {}
  calls : List (Call RoundRequest RoundReply) := []
  acknowledgementCalls : List (Call Nat Unit) := []
  log : List (Millis × RoundEvent) := []
  acknowledgementLog : List (Millis × AcknowledgementEvent) := []
  deriving DecidableEq

namespace RgsGateway

variable (config : Config) (gateway : RgsGateway)

/-- The pending round, if `isPending` holds of the one with this identity. -/
def current (id : Nat) : Option PendingRound :=
  if gateway.closed then none else gateway.pending.filter fun pending => pending.id = id

/-- An assignment to fields of a round that a call refers to. -/
def assign (id : Nat) (change : PendingRound → PendingRound) : RgsGateway :=
  { gateway with
    pending := gateway.pending.map fun pending => if pending.id = id then change pending else pending }

/-- An assignment to the fields of a round that are about its acknowledgement. -/
def assignAcknowledgement (id : Nat) (change : Acknowledgement → Acknowledgement) : RgsGateway :=
  gateway.assign id fun pending => { pending with acknowledgement := change pending.acknowledgement }

def record (event : RoundEvent) : RgsGateway :=
  { gateway with log := (gateway.now, event) :: gateway.log }

def recordAcknowledgement (event : AcknowledgementEvent) : RgsGateway :=
  { gateway with acknowledgementLog := (gateway.now, event) :: gateway.acknowledgementLog }

def available : Bool := gateway.runtimeOnline && gateway.runtimeVisible

/-- `clearPollTimer` -/
def clearPollTimer (preserveSchedule : Bool) : RgsGateway :=
  { gateway with
    pollTimer := gateway.pollTimer.clear
    pollNotBeforeAtMs := if preserveSchedule then gateway.pollNotBeforeAtMs else none }

/-- `clearAcknowledgementRetryTimer` -/
def clearAcknowledgementRetryTimer (preserveSchedule : Bool) : RgsGateway :=
  { gateway with
    acknowledgementRetryTimer := gateway.acknowledgementRetryTimer.clear
    pending := if preserveSchedule then gateway.pending else gateway.pending.map fun pending =>
      { pending with acknowledgement := { pending.acknowledgement with notBeforeAtMs := none } } }

/-- `clearAcknowledgementDeadlineTimer` -/
def clearAcknowledgementDeadlineTimer : RgsGateway :=
  { gateway with acknowledgementDeadlineTimer := gateway.acknowledgementDeadlineTimer.clear }

/-- `clearPending` -/
def clearPending (id : Nat) : RgsGateway :=
  match gateway.current id with
  | none => gateway
  | some _ =>
      { (((gateway.clearPollTimer false).clearAcknowledgementRetryTimer
          false).clearAcknowledgementDeadlineTimer) with pending := none }

/-- What every end of a session does to the gateway: no timer is left, and every call is
aborted. -/
def shutDown (cause : Termination) : RgsGateway :=
  { gateway with
    pending := gateway.pending.map fun pending =>
      { pending with
        blocked := true
        pollRequestActive := false
        acknowledgement :=
          { pending.acknowledgement with
            inFlight := false, requestActive := false, notBeforeAtMs := none } }
    wageringBlocked := true
    closed := true
    terminated := some cause
    connected := false
    accessToken := false
    refreshPromise := none
    pollTimer := gateway.pollTimer.clear
    pollNotBeforeAtMs := none
    acknowledgementRetryTimer := gateway.acknowledgementRetryTimer.clear
    acknowledgementDeadlineTimer := gateway.acknowledgementDeadlineTimer.clear
    calls := []
    acknowledgementCalls := [] }

/-- `terminateForOperatorRelaunch` -/
def terminateForOperatorRelaunch (cause : Termination) : RgsGateway :=
  if gateway.closed then gateway else gateway.shutDown cause

/-- `terminateForSessionTimeout` -/
def terminateForSessionTimeout : RgsGateway :=
  if gateway.closed then gateway else gateway.shutDown .sessionTimeout

/-- `expireSessionAtAuthoritativeDeadline` -/
def expireSessionAtAuthoritativeDeadline : RgsGateway :=
  if config.sessionStatusProbeEnabled && !gateway.closed &&
      decide (gateway.session.idleDisconnectAt ≤ gateway.now) then
    gateway.terminateForSessionTimeout
  else gateway

/-- `armSessionTimeout`: a deadline that has passed ends the session at once. -/
def armSessionTimeout : RgsGateway := gateway.expireSessionAtAuthoritativeDeadline config

/-- `reportError`, but for the callbacks. -/
def reportError (error : RgsError) : RgsGateway :=
  if gateway.closed then gateway
  else
    match error with
    | .http status code _ =>
        if code = "SESSION_TIMEOUT" then gateway.terminateForSessionTimeout
        else if unrecoverableAuthorization status then
          { gateway with wageringBlocked := true, connected := false, accessToken := false }
        else gateway
    | _ => gateway

/-- `terminatePendingRecovery` -/
def terminatePendingRecovery (id : Nat) (cause : RgsError) : RgsGateway :=
  match gateway.current id with
  | none => gateway
  | some _ =>
      if cause.code = some "SESSION_TIMEOUT" then gateway.terminateForSessionTimeout
      else gateway.terminateForOperatorRelaunch (.error cause)

/-! ## Sending -/

/-- `refreshAccessToken`: without a token to renew, the renewal fails at once. -/
def refreshAccessToken : RgsGateway :=
  if gateway.refreshPromise.isSome then gateway
  else if gateway.accessToken then { gateway with refreshPromise := some gateway.session }
  else gateway.terminateForOperatorRelaunch (.error .protocol)

/-- `post`, within `authorizedPost`: a request that cannot be sent is a call that fails. -/
def post (call : Call RoundRequest RoundReply) (again : Bool) : RgsGateway :=
  if gateway.accessToken then
    { gateway.record (.sent call.round call.kind) with
      calls := { call with stage := .sent again, answer := none } :: gateway.calls }
  else
    { gateway with
      calls := { call with stage := .settled again (some .protocol), answer := none } ::
        gateway.calls }

/-- `authorizedPost` -/
def authorizedPost (round : Nat) (kind : RoundRequest) : RgsGateway :=
  let call : Call RoundRequest RoundReply :=
    { round := round, kind := kind, stage := .awaiting false }
  if gateway.refreshPromise.isSome then { gateway with calls := call :: gateway.calls }
  else gateway.post call false

end RgsGateway

end SlotsGame.Gateway
