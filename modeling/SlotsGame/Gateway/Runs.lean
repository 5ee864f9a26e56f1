/-
# SlotsGame.Gateway.Runs -- the gateway among the network, the timers and the page

`step` lets one thing happen at a time, in any order: a reply arrives, a timer that is due
fires, the page is hidden or shown, the controller asks for something.  A timer may fire
arbitrarily late, a reply may never come, and the server answers what it likes; what a claim
assumes of it is a condition on the actions (`honest`).
-/
import SlotsGame.Gateway.Acknowledgements
import SlotsGame.Theory.Runs

namespace SlotsGame.Gateway

open SlotsGame.Theory

set_option autoImplicit false

/-! ## The renewal of the access token -/

/-- A decoded reply to a renewal; `sameIdentity` says that the session is active and the one
that was to be renewed. -/
structure Renewal where
  sameIdentity : Bool
  session : RgsSession

namespace RgsGateway

variable (config : Config) (gateway : RgsGateway)

/-- `validateRefreshedSession`, where `requestBaseline` is the session when the renewal was
asked for. -/
def validateRefreshedSession (refreshed requestBaseline : RgsSession) :
    Except RgsError RgsSession :=
  let current := gateway.session
  if refreshed.revision = current.revision ∧ refreshed.sequence = current.sequence then do
    refuse (refreshed.balanceMinor ≠ current.balanceMinor ∨
      refreshed.featureState ≠ current.featureState) RgsError.protocol
    return { current with
      expiresAt := refreshed.expiresAt
      idleDisconnectAt := max current.idleDisconnectAt refreshed.idleDisconnectAt }
  else
    match gateway.pending with
    | none => throw .protocol
    | some pending =>
        let start := pending.startRevision
        if requestBaseline.revision = start ∧ refreshed.revision = start ∧
            current.revision = start + 1 ∧ requestBaseline.sequence = refreshed.sequence ∧
            current.sequence = requestBaseline.sequence + 1 ∧
            refreshed.balanceMinor = requestBaseline.balanceMinor ∧
            refreshed.featureState = requestBaseline.featureState then
          return { current with expiresAt := refreshed.expiresAt }
        else do
          refuse (refreshed.revision < start ∨ refreshed.revision > start + 1 ∨
            refreshed.revision < current.revision ∨ refreshed.revision > current.revision + 1 ∨
            refreshed.sequence ≠ current.sequence + (refreshed.revision - current.revision))
            RgsError.protocol
          return { refreshed with
            idleDisconnectAt := max current.idleDisconnectAt refreshed.idleDisconnectAt }

/-- A call that awaits the renewal goes on, when it is its turn. -/
def settleCall {κ ρ : Type} (failure : Option RgsError) (call : Call κ ρ) : Call κ ρ :=
  match call.stage with
  | .awaiting again => { call with stage := .settled again failure }
  | _ => call

/-- The end of the renewal, for the calls that await it. -/
def settleRenewal (failure : Option RgsError) : RgsGateway :=
  { gateway with
    refreshPromise := none
    calls := gateway.calls.map (settleCall failure)
    acknowledgementCalls := gateway.acknowledgementCalls.map (settleCall failure) }

/-- `refreshAccessToken`, once its request has been answered. -/
def renewalAnswered (requestBaseline : RgsSession) (outcome : Except RgsError Renewal) :
    RgsGateway :=
  let validated := do
    let renewal ← outcome
    refuse (renewal.sameIdentity = false) RgsError.protocol
    gateway.validateRefreshedSession renewal.session requestBaseline
  match validated with
  | .ok session =>
      ({ gateway with
        accessToken := true
        session := session
        wageringBlocked := false }.armSessionTimeout config).settleRenewal none
  | .error error =>
      if error = .protocol then gateway.terminateForOperatorRelaunch (.error error)
      else if error.code = some "SESSION_TIMEOUT" then gateway.terminateForSessionTimeout
      else if error.status.any unrecoverableAuthorization then
        gateway.terminateForOperatorRelaunch (.error error)
      else gateway.settleRenewal (some error)

/-! ## Calls go on -/

/-- A reply that carries a retry delay. -/
def hearDelay (round : Nat) (error : RgsError) : RgsGateway :=
  match error.retryAfterMs with
  | some delay => gateway.record (.delayed round (gateway.now + delay))
  | none => gateway

def roundAnswered (call : Call RoundRequest RoundReply) (result : Except RgsError RoundReply)
    (sample : Option ℚ) : RgsGateway :=
  match call.kind with
  | .submission => gateway.submissionAnswered config call.round result sample
  | .poll => gateway.pollAnswered config call.round result sample

/-- A first answer of 401: the call awaits `refreshAccessToken`. -/
def awaitRenewal (call : Call RoundRequest RoundReply) : RgsGateway :=
  let renewing := gateway.refreshAccessToken
  if renewing.closed then renewing
  else
    { renewing with
      calls := { call with stage := .awaiting true, answer := none } :: renewing.calls }

/-- The `catch` of `authorizedPost`. -/
def callAnswered (call : Call RoundRequest RoundReply) (result : Except RgsError RoundReply)
    (sample : Option ℚ) : RgsGateway :=
  match result with
  | .error error =>
      let heard := gateway.hearDelay call.round error
      if call.stage = .sent false ∧ error.status = some 401 then heard.awaitRenewal call
      else heard.roundAnswered config call (.error error) sample
  | .ok reply => gateway.roundAnswered config call (.ok reply) sample

/-- `awaitRenewal`, of an acknowledgement. -/
def awaitAcknowledgementRenewal (call : Call Nat Unit) : RgsGateway :=
  let renewing := gateway.refreshAccessToken
  if renewing.closed then renewing
  else
    { renewing with
      acknowledgementCalls :=
        { call with stage := .awaiting true, answer := none } :: renewing.acknowledgementCalls }

/-- `callAnswered`, of an acknowledgement. -/
def acknowledgementCallAnswered (call : Call Nat Unit) (result : Except RgsError Unit)
    (sample : Option ℚ) : RgsGateway :=
  match result with
  | .error error =>
      if call.stage = .sent false ∧ error.status = some 401 then
        gateway.awaitAcknowledgementRenewal call
      else gateway.acknowledgementAnswered config call.round (.error error) sample
  | .ok () => gateway.acknowledgementAnswered config call.round (.ok ()) sample

end RgsGateway

/-! ## One step -/

/-- The gateway, and the rounds that the server has persisted. -/
structure World where
  gateway : RgsGateway
  persisted : List Nat := []
  deriving DecidableEq

/-- What happens to a call: the server answers it, the answer arrives, the network fails, or it
goes on after a renewal. -/
inductive Exchange (ρ : Type)
  | serve (answer : Except RgsError ρ)
  | arrive
  | lose
  | resume

inductive Action
  | elapse (duration : Millis)
  | availability (online visible : Bool)
  | requestSpin (roundId : String) (betMinor : Int) (roundKind : RoundKind) (admitted : Bool)
  | acknowledgeSpinResult (roundId : String) (sequence : Nat)
  | persist (round : Nat)
  | call (place : Nat) (exchange : Exchange RoundReply) (sample : Option ℚ)
  | acknowledgementCall (place : Nat) (exchange : Exchange Unit) (sample : Option ℚ)
  | renew
  | renewed (outcome : Except RgsError Renewal)
  | probed (idleDisconnectAt : Millis)
  | pollTimer (place : Nat)
  | acknowledgementRetryTimer (place : Nat)
  | acknowledgementDeadlineTimer (place : Nat)
  | shutDown (cause : Termination)
  | close

namespace RgsGateway

variable (config : Config) (gateway : RgsGateway)

/-- What happens to the call at a place among those that are suspended. -/
def exchangeCall (place : Nat) (exchange : Exchange RoundReply) (sample : Option ℚ) :
    Option RgsGateway :=
  match gateway.calls[place]? with
  | none => none
  | some call =>
      let without := { gateway with calls := gateway.calls.eraseIdx place }
      match exchange, call.stage, call.answer with
      | .serve answer, .sent _, none =>
          some { gateway with calls := gateway.calls.set place { call with answer := some answer } }
      | .arrive, .sent _, some answer => some (without.callAnswered config call answer sample)
      | .lose, .sent _, _ => some (without.callAnswered config call (.error .network) sample)
      | .resume, .settled again none, _ => some (without.post call again)
      | .resume, .settled _ (some error), _ =>
          some (without.roundAnswered config call (.error error) sample)
      | _, _, _ => none

/-- What happens to the acknowledgement at a place among those that are suspended. -/
def exchangeAcknowledgement (place : Nat) (exchange : Exchange Unit) (sample : Option ℚ) :
    Option RgsGateway :=
  match gateway.acknowledgementCalls[place]? with
  | none => none
  | some call =>
      let without :=
        { gateway with acknowledgementCalls := gateway.acknowledgementCalls.eraseIdx place }
      match exchange, call.stage, call.answer with
      | .serve answer, .sent _, none =>
          some { gateway with
            acknowledgementCalls :=
              gateway.acknowledgementCalls.set place { call with answer := some answer } }
      | .arrive, .sent _, some answer =>
          some (without.acknowledgementCallAnswered config call answer sample)
      | .lose, .sent _, _ =>
          some (without.acknowledgementCallAnswered config call (.error .network) sample)
      | .resume, .settled again none, _ => some (without.postAcknowledgement config call again)
      | .resume, .settled _ (some error), _ =>
          some (without.acknowledgementAnswered config call.round (.error error) sample)
      | _, _, _ => none

/-- A timer that is due fires, and its callback is run. -/
def fireTimer (slot : TimerSlot Nat) (place : Nat) (callback : TimerSlot Nat → Nat → RgsGateway) :
    Option RgsGateway :=
  match slot.fire place with
  | none => none
  | some (timer, fired) => if timer.due ≤ gateway.now then some (callback fired timer.payload) else none

/-- What an action does to the gateway, if it can happen. -/
def act : Action → Option RgsGateway
  | .elapse duration =>
      if 0 ≤ duration then some { gateway with now := gateway.now + duration } else none
  | .availability online visible => some (gateway.setRuntimeAvailability config online visible)
  | .requestSpin roundId betMinor roundKind admitted =>
      some (gateway.requestSpin config roundId betMinor roundKind admitted)
  | .acknowledgeSpinResult roundId sequence =>
      some (gateway.acknowledgeSpinResult config roundId sequence)
  | .persist _ => some gateway
  | .call place exchange sample => gateway.exchangeCall config place exchange sample
  | .acknowledgementCall place exchange sample =>
      gateway.exchangeAcknowledgement config place exchange sample
  | .renew => if gateway.closed then none else some gateway.refreshAccessToken
  | .renewed outcome =>
      match gateway.refreshPromise with
      | none => none
      | some requestBaseline => some (gateway.renewalAnswered config requestBaseline outcome)
  | .probed idleDisconnectAt =>
      if gateway.closed then none
      else
        some ({ gateway with
          session :=
            { gateway.session with
              idleDisconnectAt :=
                max gateway.session.idleDisconnectAt idleDisconnectAt } }.armSessionTimeout config)
  | .pollTimer place =>
      gateway.fireTimer gateway.pollTimer place fun fired id =>
        { gateway with pollTimer := fired }.pollTimerFired id
  | .acknowledgementRetryTimer place =>
      gateway.fireTimer gateway.acknowledgementRetryTimer place fun fired id =>
        { gateway with acknowledgementRetryTimer := fired }.acknowledgementRetryFired config id
  | .acknowledgementDeadlineTimer place =>
      gateway.fireTimer gateway.acknowledgementDeadlineTimer place fun fired id =>
        { gateway with acknowledgementDeadlineTimer := fired }.acknowledgementDeadlineFired id
  | .shutDown cause => some (gateway.terminateForOperatorRelaunch cause)
  | .close =>
      if gateway.closed then some gateway
      else some { gateway.shutDown .elsewhere with pending := none }

end RgsGateway

/-- The rounds that the server has persisted after an action. -/
def World.persists (world : World) : Action → List Nat
  | .persist round => round :: world.persisted
  | _ => world.persisted

def step (config : Config) (world : World) (action : Action) : Option World :=
  (world.gateway.act config action).map fun gateway =>
    { gateway := gateway, persisted := world.persists action }

/-- One step of a run, where the actions are those that `permitted` admits. -/
def RunStep (config : Config) (permitted : World → Action → Prop) (world after : World) : Prop :=
  ∃ action, permitted world action ∧ step config world action = some after

def isNotFound : Except RgsError RoundReply → Bool
  | .error error => error.status == some 404
  | .ok _ => false

/-- The server answers a poll with 404 exactly when it has not persisted the round. -/
def honest (world : World) : Action → Bool
  | .call place (.serve answer) _ =>
      world.gateway.calls[place]?.all fun call =>
        call.kind != .poll || isNotFound answer == !world.persisted.contains call.round
  | _ => true

/-! ## The session begins -/

/-- The gateway after the exchange of its launch code. -/
def opened (now : Millis) (session : RgsSession) (online visible : Bool) : RgsGateway :=
  { now := now, session := session, lastAppliedSequence := session.sequence
    runtimeOnline := online, runtimeVisible := visible }

/-- How a session begins: without a round, with the one of a ledger that was kept, or with a
committed result that the server has not seen acknowledged. -/
inductive Opens (config : Config) : RgsGateway → Prop
  | fresh (now : Millis) (session : RgsSession) (online visible : Bool) :
      Opens config (opened now session online visible)
  | restored (now : Millis) (session : RgsSession) (online visible : Bool) (pending : PendingRound)
      (isNew : pending =
        { id := 0, roundId := pending.roundId, betMinor := pending.betMinor
          startRevision := pending.startRevision, roundKind := pending.roundKind
          resubmitOnNotFound := decide (session.revision = pending.startRevision) }) :
      Opens config
        ({ opened now session online visible with
            pending := some pending
            nextRound := 1
            lastAppliedSequence :=
              session.sequence - (session.revision - pending.startRevision) }.schedulePoll
          config 0 (some 0) none)
  | discovered (now : Millis) (session : RgsSession) (online visible : Bool)
      (pending : PendingRound) (decoded : DecodedRgsSpin) (sample : Option ℚ)
      (isNew : pending =
        { id := 0, roundId := pending.roundId, betMinor := pending.betMinor
          startRevision := pending.startRevision, roundKind := pending.roundKind })
      (gateway : RgsGateway)
      (begins : gateway =
        { opened now session online visible with
          pending := some pending
          nextRound := 1
          lastAppliedSequence := session.sequence - 1 }) :
      Opens config
        (match gateway.acceptCommitted config 0 decoded with
          | .ok accepted => accepted
          | .error .delivery => gateway.schedulePoll config 0 none sample
          | .error error => gateway.terminatePendingRecovery 0 error)

/-- A world in which the session has just begun. -/
def Begins (config : Config) (world : World) : Prop := Opens config world.gateway

/-- A run in which each of the actions is permitted, and happens. -/
def follow (config : Config) (permitted : World → Action → Prop) [DecidableRel permitted]
    (world : World) : List Action → Option World
  | [] => some world
  | action :: actions =>
      if permitted world action then
        (step config world action).bind fun next => follow config permitted next actions
      else none

theorem follow_reachable {config : Config} {permitted : World → Action → Prop}
    [DecidableRel permitted] {world last : World} {actions : List Action}
    (reachable : Reachable (Begins config) (RunStep config permitted) world)
    (followed : follow config permitted world actions = some last) :
    Reachable (Begins config) (RunStep config permitted) last := by
  induction actions generalizing world with
  | nil =>
      obtain rfl := Option.some.inj followed
      exact reachable
  | cons action actions ih =>
      unfold follow at followed
      split at followed
      next admitted =>
        obtain ⟨next, stepped, followed⟩ := Option.bind_eq_some_iff.mp followed
        exact ih (reachable.next ⟨action, admitted, stepped⟩) followed
      · cases followed

end SlotsGame.Gateway
