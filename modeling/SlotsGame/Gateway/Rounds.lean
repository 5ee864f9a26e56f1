/-
# SlotsGame.Gateway.Rounds -- the submission of a round and the polls of its status

A spin is submitted once.  While its outcome is unknown the gateway polls, and a poll that
is told that the round does not exist may submit it again, if what went wrong before proves
that nothing was committed (`resubmitOnNotFound`).
-/
import SlotsGame.Gateway.State

namespace SlotsGame.Gateway

open SlotsGame.Theory

set_option autoImplicit false

/-- `distributedRetryDelayMs`; `sample` is what the source of jitter returns, if it returns a
number. -/
def distributedRetryDelayMs (exponentialDelayMs minimumDelayMs : Nat) (sample : Option ℚ) : Nat :=
  let floor := max exponentialDelayMs minimumDelayMs
  if floor = 0 then 0
  else
    let unit : ℚ :=
      match sample with
      | some candidate => min (1 - 1 / 2 ^ 52) (max 0 candidate)
      | none => 1 / 2
    let spread := min 1000 (max 1 floor)
    min maxTimerDelayMs (floor + (spread * unit).floor.toNat)

/-- Jitter only adds to a delay. -/
theorem distributedRetryDelayMs_least {exponentialDelayMs minimumDelayMs : Nat}
    (fits : minimumDelayMs ≤ maxTimerDelayMs) (sample : Option ℚ) :
    minimumDelayMs ≤ distributedRetryDelayMs exponentialDelayMs minimumDelayMs sample := by
  unfold distributedRetryDelayMs
  dsimp only
  split
  next none => omega
  next some => exact le_min fits (Nat.le_trans (Nat.le_max_right _ _) (Nat.le_add_right _ _))

inductive SpinResultDecision
  | accept | duplicate | reject
  deriving DecidableEq

namespace RgsGateway

variable (config : Config) (gateway : RgsGateway)

/-! ## The polls are scheduled -/

/-- `exhaustRoundRecovery` -/
def exhaustRoundRecovery (id : Nat) : RgsGateway :=
  match gateway.current id with
  | none => gateway
  | some pending =>
      if pending.blocked then gateway
      else
        (gateway.assign id fun pending =>
          { pending with resubmitOnNotFound := false }).terminateForOperatorRelaunch
            .roundRecoveryExhausted

/-- `armPollTimer` -/
def armPollTimer (id : Nat) (delay : Nat) : RgsGateway :=
  { gateway with pollTimer := gateway.pollTimer.arm (gateway.now + delay) id }

/-- `schedulePoll` -/
def schedulePoll (id : Nat) (minimumDelayMs : Option Nat) (sample : Option ℚ) : RgsGateway :=
  match gateway.current id with
  | none => gateway
  | some pending =>
      if pending.blocked || gateway.pollTimer.current.isSome then gateway
      else if config.maxPollAttempts ≤ pending.pollAttempts then gateway.exhaustRoundRecovery id
      else
        let exponentialDelayMs := min 8000 (config.pollDelayMs * 2 ^ min pending.pollAttempts 5)
        let delay :=
          if minimumDelayMs = some 0 then 0
          else distributedRetryDelayMs exponentialDelayMs (minimumDelayMs.getD 0) sample
        let scheduled := { gateway with pollNotBeforeAtMs := some (gateway.now + delay) }
        if gateway.available then scheduled.armPollTimer id delay else scheduled

/-- `resumeRoundRecovery` -/
def resumeRoundRecovery : RgsGateway :=
  match gateway.pending with
  | none => gateway
  | some pending =>
      if pending.blocked || pending.deliveredSequence.isSome || pending.pollRequestActive then gateway
      else
        match gateway.pollNotBeforeAtMs with
        | some notBefore => gateway.armPollTimer pending.id (notBefore - gateway.now).ceil.toNat
        | none => gateway.schedulePoll config pending.id (some 0) none

/-! ## A result is delivered -/

/-- `classifySpinResult`, for the session of the gateway and its pending round. -/
def classifySpinResult (pending : PendingRound) (decoded : DecodedRgsSpin) : SpinResultDecision :=
  if decoded.sequence < gateway.lastAppliedSequence then .reject
  else if decoded.sequence = gateway.lastAppliedSequence then
    if gateway.lastAppliedRoundId = some decoded.roundId then .duplicate else .reject
  else if decoded.roundId ≠ pending.roundId ∨ decoded.betMinor ≠ pending.betMinor then .reject
  else .accept

/-- What the delivery of a result leaves behind. -/
def deliver (id : Nat) (decoded : DecodedRgsSpin) : RgsGateway :=
  let applied :=
    { gateway with
      lastAppliedSequence := decoded.sequence
      lastAppliedRoundId := some decoded.roundId
      session :=
        { gateway.session with
          balanceMinor := decoded.balanceMinor
          revision := decoded.endRevision
          sequence := decoded.sequence
          featureState := decoded.featureState
          idleDisconnectAt := max gateway.session.idleDisconnectAt decoded.idleDisconnectAt } }
  ((applied.armSessionTimeout config).assign id fun pending =>
    { pending with
      deliveredSequence := some decoded.sequence
      deliveredResultHash := some decoded.resultHash
      acknowledgement :=
        { pending.acknowledgement with inFlight := false, requestActive := false } }).clearPollTimer
    false

/-- `acceptCommitted` -/
def acceptCommitted (id : Nat) (decoded : DecodedRgsSpin) : Except RgsError RgsGateway :=
  match gateway.current id with
  | none => .ok gateway
  | some pending =>
      if !gateway.available then .ok gateway
      else do
        refuse (decoded.bound = false ∨ decoded.roundId ≠ pending.roundId ∨
          decoded.betMinor ≠ pending.betMinor ∨ decoded.startRevision ≠ pending.startRevision ∨
          decoded.endRevision ≠ pending.startRevision + 1 ∨
          decoded.roundKind ≠ pending.roundKind ∨
          (pending.roundKind = .base ∧ decoded.chargedBetMinor ≠ pending.betMinor) ∨
          (pending.roundKind = .freeSpin ∧ decoded.chargedBetMinor ≠ 0)) RgsError.protocol
        match gateway.classifySpinResult pending decoded with
        | .reject => throw .protocol
        | .duplicate =>
            return if pending.deliveredSequence = some decoded.sequence then gateway
              else gateway.clearPending id
        | .accept => do
            refuse (decoded.originValid = false) RgsError.protocol
            refuse (decoded.idleDisconnectAt > gateway.session.expiresAt) RgsError.protocol
            refuse (decoded.taken = false) RgsError.delivery
            return gateway.deliver config id decoded

/-! ## The submission -/

/-- `submitPending`, up to its request. -/
def submitPending (id : Nat) : RgsGateway :=
  match gateway.current id with
  | none => gateway
  | some pending =>
      if pending.blocked then gateway
      else
        (gateway.assign id fun pending => { pending with resubmitOnNotFound := false }).authorizedPost
          id .submission

/-- The `catch` of `submitPending`. -/
def submissionFailed (id : Nat) (error : RgsError) (sample : Option ℚ) : RgsGateway :=
  match gateway.current id with
  | none => gateway
  | some _ =>
      if error.status = some 202 ∧ error.code = some "ROUND_PENDING" then
        gateway.schedulePoll config id error.retryAfterMs sample
      else if error.status = some 409 ∧ error.code = some "ROUND_REJECTED" then
        if gateway.available then gateway.clearPending id else gateway
      else if error.retryable then
        let permitted :=
          match error with
          | .http status code _ => provablyPreTransaction status code
          | _ => true
        ((gateway.assign id fun pending =>
          { pending with resubmitOnNotFound := permitted }).reportError error).schedulePoll config id
            error.retryAfterMs sample
      else if error = .delivery then
        (gateway.reportError error).schedulePoll config id none sample
      else gateway.terminatePendingRecovery id error

/-- `submitPending`, once its request has been answered. -/
def submissionAnswered (id : Nat) (result : Except RgsError RoundReply) (sample : Option ℚ) :
    RgsGateway :=
  match result with
  | .error error => gateway.submissionFailed config id error sample
  | .ok (.spin decoded) =>
      match gateway.acceptCommitted config id decoded with
      | .ok accepted => accepted
      | .error error => gateway.submissionFailed config id error sample
  | .ok (.status _ _) => gateway.submissionFailed config id .protocol sample

/-! ## The polls -/

/-- `pollPending`, up to its request. -/
def pollPending (id : Nat) : RgsGateway :=
  match gateway.current id with
  | none => gateway
  | some pending =>
      if pending.blocked || pending.pollRequestActive || !gateway.available then gateway
      else
        (gateway.assign id fun pending =>
          { pending with
            pollAttempts := pending.pollAttempts + 1, pollRequestActive := true }).authorizedPost
          id .poll

/-- The callback of the timer that `armPollTimer` arms. -/
def pollTimerFired (id : Nat) : RgsGateway :=
  { gateway with pollNotBeforeAtMs := none }.pollPending id

/-- The budget of a poll whose outcome is not shown is given back. -/
def returnPollAttempt (id : Nat) : RgsGateway :=
  gateway.assign id fun pending => { pending with pollAttempts := pending.pollAttempts - 1 }

/-- The `try` of `pollPending`, with the status that the server reports. -/
def applyStatus (id : Nat) (status : RoundStatus) (sample : Option ℚ) :
    Except RgsError RgsGateway :=
  match status with
  | .committed none => .error .protocol
  | .committed (some decoded) =>
      if gateway.available then gateway.acceptCommitted config id decoded
      else .ok (gateway.returnPollAttempt id)
  | .prepared | .walletPending => .ok (gateway.schedulePoll config id none sample)
  | .rejected =>
      .ok (if gateway.available then gateway.clearPending id else gateway.returnPollAttempt id)
  | .manualReview =>
      .ok (match gateway.current id with
        | none => gateway
        | some _ => gateway.terminateForOperatorRelaunch .manualReview)

/-- The `catch` of `pollPending`. -/
def pollFailed (id : Nat) (error : RgsError) (sample : Option ℚ) : RgsGateway :=
  match gateway.current id with
  | none => gateway
  | some pending =>
      if error.status = some 404 ∧ pending.resubmitOnNotFound ∧
          gateway.session.revision = pending.startRevision then
        if config.maxPollAttempts ≤ pending.pollAttempts then gateway.exhaustRoundRecovery id
        else gateway.submitPending id
      else if error.retryable then
        (gateway.reportError error).schedulePoll config id error.retryAfterMs sample
      else if error = .delivery then
        (gateway.reportError error).schedulePoll config id none sample
      else gateway.terminatePendingRecovery id error

/-- The `finally` of `pollPending`. -/
def pollEnded (id : Nat) : RgsGateway :=
  if gateway.closed then gateway
  else gateway.assign id fun pending => { pending with pollRequestActive := false }

/-- `pollPending`, once its request has been answered. -/
def pollAnswered (id : Nat) (result : Except RgsError RoundReply) (sample : Option ℚ) : RgsGateway :=
  let handled :=
    match result with
    | .error error => gateway.pollFailed config id error sample
    | .ok (.status true status) =>
        let observed := gateway.assign id fun pending => { pending with resubmitOnNotFound := false }
        match observed.applyStatus config id status sample with
        | .ok applied => applied
        | .error error => observed.pollFailed config id error sample
    | .ok _ => gateway.pollFailed config id .protocol sample
  handled.pollEnded id

/-! ## A round is requested -/

/-- `requestSpin`; `admitted` says that the bet, the origin and the ledger's storage let the
round begin. -/
def requestSpin (roundId : String) (betMinor : Int) (roundKind : RoundKind) (admitted : Bool) :
    RgsGateway :=
  let gateway := gateway.expireSessionAtAuthoritativeDeadline config
  if gateway.closed || gateway.wageringBlocked || !gateway.connected || !gateway.available ||
      gateway.pending.isSome || !gateway.accessToken || !admitted then gateway
  else
    let pending : PendingRound :=
      { id := gateway.nextRound, roundId := roundId, betMinor := betMinor
        startRevision := gateway.session.revision, roundKind := roundKind }
    { gateway with pending := some pending, nextRound := gateway.nextRound + 1 }.submitPending
      gateway.nextRound

end RgsGateway

end SlotsGame.Gateway
