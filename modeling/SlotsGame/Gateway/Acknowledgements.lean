/-
# SlotsGame.Gateway.Acknowledgements -- the acknowledgement of a delivered result

The controller acknowledges a result once it has shown it.  From then on the gateway tries
for a fixed window and a fixed number of attempts to tell the server, and asks the operator
for a new launch when it cannot.
-/
import SlotsGame.Gateway.Rounds

namespace SlotsGame.Gateway

open SlotsGame.Theory

set_option autoImplicit false

namespace RgsGateway

variable (config : Config) (gateway : RgsGateway)

/-! ## The window -/

/-- `acknowledgementWindowOpen` -/
def acknowledgementWindowOpen (acknowledgement : Acknowledgement) : Bool :=
  match acknowledgement.startedAtMs with
  | none => false
  | some startedAt => decide (gateway.now < startedAt + config.acknowledgementRetryWindowMs)

/-- `acknowledgementAttemptAllowed` -/
def acknowledgementAttemptAllowed (acknowledgement : Acknowledgement) : Bool :=
  gateway.acknowledgementWindowOpen config acknowledgement &&
    decide (acknowledgement.attempts < config.acknowledgementMaxAttempts) &&
    !acknowledgement.exhausted

/-- `assertAcknowledgementWindowOpen`, of a round that a call refers to: it does not throw. -/
def acknowledgementWindowAsserted (id : Nat) : Bool :=
  match gateway.current id with
  | none => false
  | some pending =>
      !pending.acknowledgement.exhausted &&
        gateway.acknowledgementWindowOpen config pending.acknowledgement

/-- `exhaustResultAcknowledgement` -/
def exhaustResultAcknowledgement (id : Nat) : RgsGateway :=
  match gateway.current id with
  | none => gateway
  | some pending =>
      if pending.acknowledgement.exhausted then gateway
      else
        ((gateway.recordAcknowledgement (.exhausted id)).assign id fun pending =>
          { pending with
            blocked := true
            acknowledgement :=
              { pending.acknowledgement with
                exhausted := true, inFlight := false } }).terminateForOperatorRelaunch
          .acknowledgementRecoveryRequired

/-! ## The request -/

/-- `post`, within `authorizedPost` and after `assertAcknowledgementWindowOpen`: a request that
is not sent is a call that fails. -/
def postAcknowledgement (call : Call Nat Unit) (again : Bool) : RgsGateway :=
  if gateway.acknowledgementWindowAsserted config call.round && gateway.accessToken then
    { gateway.recordAcknowledgement (.sent call.round) with
      acknowledgementCalls :=
        { call with stage := .sent again, answer := none } :: gateway.acknowledgementCalls }
  else
    { gateway with
      acknowledgementCalls :=
        { call with stage := .settled again (some .protocol), answer := none } ::
          gateway.acknowledgementCalls }

/-- `authorizedPost`, with `assertAcknowledgementWindowOpen` before each request. -/
def authorizedAcknowledgement (round sequence : Nat) : RgsGateway :=
  let call : Call Nat Unit := { round := round, kind := sequence, stage := .awaiting false }
  if gateway.refreshPromise.isSome then
    { gateway with acknowledgementCalls := call :: gateway.acknowledgementCalls }
  else gateway.postAcknowledgement config call false

/-- `submitResultAcknowledgement`, up to its request. -/
def submitResultAcknowledgement (id : Nat) : RgsGateway :=
  match gateway.current id with
  | none => gateway
  | some pending =>
      match pending.deliveredSequence, pending.deliveredResultHash with
      | some sequence, some _ =>
          if !gateway.runtimeOnline || pending.acknowledgement.requestActive then gateway
          else if !gateway.acknowledgementAttemptAllowed config pending.acknowledgement then
            gateway.exhaustResultAcknowledgement id
          else
            ((gateway.assignAcknowledgement id fun acknowledgement =>
              { acknowledgement with
                requestActive := true
                attempts := acknowledgement.attempts + 1 }).recordAcknowledgement
                  (.attempted id)).authorizedAcknowledgement config id sequence
      | _, _ => gateway

/-! ## The retries -/

/-- `armAcknowledgementRetry` -/
def armAcknowledgementRetry (id : Nat) (delay : Nat) : RgsGateway :=
  { gateway with
    acknowledgementRetryTimer := gateway.acknowledgementRetryTimer.arm (gateway.now + delay) id }

/-- The callback of the timer that `armAcknowledgementRetry` arms. -/
def acknowledgementRetryFired (id : Nat) : RgsGateway :=
  match gateway.current id with
  | none => gateway
  | some pending =>
      if pending.acknowledgement.exhausted then gateway
      else
        (gateway.assignAcknowledgement id fun acknowledgement =>
          { acknowledgement with notBeforeAtMs := none }).submitResultAcknowledgement config id

/-- `scheduleAcknowledgementRetry` -/
def scheduleAcknowledgementRetry (id : Nat) (error : RgsError) (sample : Option ℚ) : RgsGateway :=
  match gateway.current id with
  | none => gateway
  | some pending =>
      let acknowledgement := pending.acknowledgement
      if acknowledgement.exhausted then gateway
      else
        match acknowledgement.startedAtMs with
        | none => gateway.exhaustResultAcknowledgement id
        | some startedAt =>
            if config.acknowledgementMaxAttempts ≤ acknowledgement.attempts then
              gateway.exhaustResultAcknowledgement id
            else
              let exponentialDelay := min config.acknowledgementRetryMaxDelayMs
                (config.acknowledgementRetryBaseDelayMs * 2 ^ min (acknowledgement.attempts - 1) 10)
              let delay :=
                distributedRetryDelayMs exponentialDelay (error.retryAfterMs.getD 0) sample
              let deadline := startedAt + config.acknowledgementRetryWindowMs
              if deadline ≤ gateway.now ∨ deadline - gateway.now ≤ delay then
                gateway.exhaustResultAcknowledgement id
              else
                let deferred :=
                  ((gateway.clearAcknowledgementRetryTimer false).assignAcknowledgement id
                    fun acknowledgement =>
                      { acknowledgement with
                        notBeforeAtMs := some (gateway.now + delay) }).recordAcknowledgement
                          (.deferred id (gateway.now + delay))
                if gateway.runtimeOnline then deferred.armAcknowledgementRetry id delay else deferred

/-- `scheduleAcknowledgementDeadline` -/
def scheduleAcknowledgementDeadline (id : Nat) : RgsGateway :=
  match gateway.clearAcknowledgementDeadlineTimer.pending with
  | none => gateway.clearAcknowledgementDeadlineTimer
  | some pending =>
      match pending.acknowledgement.startedAtMs with
      | none => gateway.clearAcknowledgementDeadlineTimer
      | some startedAt =>
          let remaining := startedAt + config.acknowledgementRetryWindowMs - gateway.now
          { gateway.clearAcknowledgementDeadlineTimer with
            acknowledgementDeadlineTimer :=
              gateway.acknowledgementDeadlineTimer.clear.arm (gateway.now + remaining.ceil.toNat) id }

/-- The callback of the timer that `scheduleAcknowledgementDeadline` arms. -/
def acknowledgementDeadlineFired (id : Nat) : RgsGateway :=
  match gateway.current id with
  | none => gateway
  | some pending =>
      if pending.acknowledgement.exhausted then gateway
      else gateway.exhaustResultAcknowledgement id

/-- `resumeResultAcknowledgement` -/
def resumeResultAcknowledgement : RgsGateway :=
  match gateway.pending with
  | none => gateway
  | some pending =>
      let acknowledgement := pending.acknowledgement
      if pending.blocked || pending.deliveredSequence.isNone ||
          acknowledgement.startedAtMs.isNone || acknowledgement.exhausted ||
          acknowledgement.requestActive then gateway
      else if !gateway.acknowledgementAttemptAllowed config acknowledgement then
        gateway.exhaustResultAcknowledgement pending.id
      else
        let submits :=
          (gateway.assignAcknowledgement pending.id fun acknowledgement =>
            { acknowledgement with
              notBeforeAtMs := none, inFlight := true }).submitResultAcknowledgement config pending.id
        match acknowledgement.notBeforeAtMs with
        | some notBefore =>
            if gateway.now < notBefore then
              gateway.armAcknowledgementRetry pending.id (notBefore - gateway.now).ceil.toNat
            else submits
        | none => submits

/-! ## The replies -/

/-- The `catch` and the `finally` of `submitResultAcknowledgement`. -/
def acknowledgementFailed (id : Nat) (error : RgsError) (sample : Option ℚ) : RgsGateway :=
  match gateway.current id with
  | none => gateway
  | some pending =>
      let handled :=
        if !gateway.acknowledgementWindowOpen config pending.acknowledgement then
          gateway.exhaustResultAcknowledgement id
        else
          let reported := gateway.reportError error
          if error.retryable then reported.scheduleAcknowledgementRetry config id error sample
          else if !reported.accessToken || (error.status.any unrecoverableAuthorization) then
            reported.exhaustResultAcknowledgement id
          else
            reported.assignAcknowledgement id fun acknowledgement =>
              { acknowledgement with inFlight := false }
      if handled.closed then handled
      else
        handled.assignAcknowledgement id fun acknowledgement =>
          { acknowledgement with requestActive := false }

/-- `submitResultAcknowledgement`, once its request has been answered. -/
def acknowledgementAnswered (id : Nat) (result : Except RgsError Unit) (sample : Option ℚ) :
    RgsGateway :=
  match result with
  | .error error => gateway.acknowledgementFailed config id error sample
  | .ok () =>
      if gateway.acknowledgementWindowAsserted config id then gateway.clearPending id
      else gateway.acknowledgementFailed config id .protocol sample

/-! ## The controller and the page -/

/-- `acknowledgeSpinResult` -/
def acknowledgeSpinResult (roundId : String) (sequence : Nat) : RgsGateway :=
  match gateway.pending with
  | none => gateway
  | some pending =>
      if gateway.closed || pending.deliveredSequence != some sequence ||
          pending.deliveredResultHash.isNone || pending.roundId != roundId ||
          pending.acknowledgement.exhausted || pending.acknowledgement.inFlight then gateway
      else
        let begun :=
          if pending.acknowledgement.startedAtMs.isNone then
            ((gateway.assignAcknowledgement pending.id fun acknowledgement =>
              { acknowledgement with startedAtMs := some gateway.now }).recordAcknowledgement
                (.started pending.id)).scheduleAcknowledgementDeadline config pending.id
          else gateway
        let acknowledgement :=
          { pending.acknowledgement with
            startedAtMs := some (pending.acknowledgement.startedAtMs.getD gateway.now) }
        if !begun.acknowledgementAttemptAllowed config acknowledgement then
          begun.exhaustResultAcknowledgement pending.id
        else
          (begun.assignAcknowledgement pending.id fun acknowledgement =>
            { acknowledgement with inFlight := true }).submitResultAcknowledgement config pending.id

/-- The timers that `setRuntimeAvailability` stops while the page is away. -/
def stopUnavailable : RgsGateway :=
  let stopped :=
    if gateway.runtimeOnline then gateway else gateway.clearAcknowledgementRetryTimer true
  if stopped.available then stopped else stopped.clearPollTimer true

/-- What `setRuntimeAvailability` resumes when the page is back. -/
def resumeAvailable (wasOnline wasAvailable : Bool) : RgsGateway :=
  let resumed :=
    if !wasOnline && gateway.runtimeOnline then gateway.resumeResultAcknowledgement config
    else gateway
  if !wasAvailable && resumed.available then resumed.resumeRoundRecovery config else resumed

/-- `setRuntimeAvailability` -/
def setRuntimeAvailability (online visible : Bool) : RgsGateway :=
  let changed := { gateway with runtimeOnline := online, runtimeVisible := visible }
  if changed.closed then changed
  else
    let checked := changed.expireSessionAtAuthoritativeDeadline config
    if checked.closed then checked
    else checked.stopUnavailable.resumeAvailable config gateway.runtimeOnline gateway.available

end RgsGateway

end SlotsGame.Gateway
