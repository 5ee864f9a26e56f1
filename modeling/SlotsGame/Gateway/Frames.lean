/-
# SlotsGame.Gateway.Frames -- the round, as the rest of the gateway leaves it

The round and the acknowledgement of its result share a gateway.  `View` is what the
gateway keeps for the round until its result is delivered; the acknowledgement leaves it as it
is, unless it ends the session or the round (`Spares`, `acknowledgementAnswered_cases`).
-/
import SlotsGame.Gateway.Runs

namespace SlotsGame.Gateway

open SlotsGame.Theory

set_option autoImplicit false

/-! ## The view -/

/-- A pending round, before its acknowledgement. -/
structure RoundState where
  id : Nat
  pollRequestActive : Bool
  blocked : Bool
  delivered : Bool

/-- What the gateway keeps for a round that has no result yet; of a call, the round that it is
for and what it asks. -/
structure View where
  now : Millis
  closed : Bool
  available : Bool
  nextRound : Nat
  pending : Option RoundState
  calls : List (Nat × RoundRequest)
  pollTimer : TimerSlot Nat
  pollNotBeforeAtMs : Option Millis
  log : List (Millis × RoundEvent)

namespace View

/-- The end of the session. -/
def ended (view : View) : View :=
  { view with
    closed := true
    pending := view.pending.map fun round => { round with blocked := true, pollRequestActive := false }
    calls := []
    pollTimer := view.pollTimer.clear
    pollNotBeforeAtMs := none }

/-- The end of the round. -/
def cleared (view : View) : View :=
  { view with pending := none, pollTimer := view.pollTimer.clear, pollNotBeforeAtMs := none }

@[simp] theorem ended_ended (view : View) : view.ended.ended = view.ended := by
  unfold ended
  cases view.pending <;> rfl

end View

def PendingRound.state (pending : PendingRound) : RoundState :=
  { id := pending.id, pollRequestActive := pending.pollRequestActive, blocked := pending.blocked
    delivered := pending.deliveredSequence.isSome }

namespace RgsGateway

variable {config : Config} {gateway after last : RgsGateway} {id : Nat} {sample : Option ℚ}

theorem current_some {pending : PendingRound} :
    gateway.current id = some pending ↔
      gateway.closed = false ∧ gateway.pending = some pending ∧ pending.id = id := by
  unfold current
  cases closed : gateway.closed with
  | true => simp
  | false => simp [Option.filter_eq_some_iff]

/-- The gateway, as the round sees it. -/
def view (gateway : RgsGateway) : View :=
  { now := gateway.now, closed := gateway.closed, available := gateway.available
    nextRound := gateway.nextRound, pending := gateway.pending.map PendingRound.state
    calls := gateway.calls.map fun call => (call.round, call.kind), pollTimer := gateway.pollTimer
    pollNotBeforeAtMs := gateway.pollNotBeforeAtMs, log := gateway.log }

theorem shutDown_view (cause : Termination) : (gateway.shutDown cause).view = gateway.view.ended := by
  unfold shutDown view View.ended
  cases gateway.pending <;> rfl

theorem clearPending_view {pending : PendingRound} (held : gateway.current id = some pending) :
    (gateway.clearPending id).view = gateway.view.cleared := by
  unfold clearPending
  rw [held]
  rfl

/-- What the acknowledgement does to the round: nothing, unless it ends the session. -/
inductive Spares (gateway after : RgsGateway) : Prop
  | kept (same : after.view = gateway.view)
  | ended (same : after.view = gateway.view.ended)

theorem assignAcknowledgement_view (change : Acknowledgement → Acknowledgement) :
    (gateway.assignAcknowledgement id change).view = gateway.view := by
  unfold assignAcknowledgement assign view
  cases gateway.pending with
  | none => rfl
  | some pending =>
      dsimp only [Option.map_some]
      split <;> rfl

theorem recordAcknowledgement_view (event : AcknowledgementEvent) :
    (gateway.recordAcknowledgement event).view = gateway.view := rfl

theorem clearAcknowledgementRetryTimer_view (preserveSchedule : Bool) :
    (gateway.clearAcknowledgementRetryTimer preserveSchedule).view = gateway.view := by
  unfold clearAcknowledgementRetryTimer view
  cases preserveSchedule with
  | true => rfl
  | false => cases gateway.pending <;> rfl

theorem armAcknowledgementRetry_view (delay : Nat) :
    (gateway.armAcknowledgementRetry id delay).view = gateway.view := rfl

namespace Spares

theorem refl (gateway : RgsGateway) : Spares gateway gateway := .kept rfl

theorem trans (first : Spares gateway after) (second : Spares after last) : Spares gateway last := by
  cases second with
  | kept unchanged =>
      cases first with
      | kept same => exact .kept (unchanged.trans same)
      | ended same => exact .ended (unchanged.trans same)
  | ended ending =>
      cases first with
      | kept same => exact .ended (by rw [ending, same])
      | ended same => exact .ended (by rw [ending, same, View.ended_ended])

end Spares

theorem terminateForOperatorRelaunch_spares (cause : Termination) :
    Spares gateway (gateway.terminateForOperatorRelaunch cause) := by
  unfold terminateForOperatorRelaunch
  split
  · exact .refl _
  · exact .ended (shutDown_view cause)

theorem terminateForSessionTimeout_spares : Spares gateway gateway.terminateForSessionTimeout := by
  unfold terminateForSessionTimeout
  split
  · exact .refl _
  · exact .ended (shutDown_view _)

theorem reportError_spares (error : RgsError) : Spares gateway (gateway.reportError error) := by
  unfold reportError
  split
  · exact .refl _
  · split
    · split
      · exact terminateForSessionTimeout_spares
      · split
        · exact .kept rfl
        · exact .refl _
    · exact .refl _

theorem exhaustResultAcknowledgement_spares :
    Spares gateway (gateway.exhaustResultAcknowledgement id) := by
  unfold exhaustResultAcknowledgement
  split
  · exact .refl _
  next pending current =>
    split
    · exact .refl _
    · obtain ⟨opened, held, same⟩ := current_some.mp current
      refine .ended ?_
      simp [terminateForOperatorRelaunch, assign, recordAcknowledgement, opened, shutDown, view,
        available, View.ended, PendingRound.state, held, same]

/-! ## The acknowledgement spares the round -/

theorem postAcknowledgement_spares (call : Call Nat Unit) (again : Bool) :
    Spares gateway (gateway.postAcknowledgement config call again) := by
  unfold postAcknowledgement
  split <;> exact .kept rfl

theorem authorizedAcknowledgement_spares (sequence : Nat) :
    Spares gateway (gateway.authorizedAcknowledgement config id sequence) := by
  unfold authorizedAcknowledgement
  dsimp only
  split
  · exact .kept rfl
  · exact postAcknowledgement_spares _ _

theorem submitResultAcknowledgement_spares :
    Spares gateway (gateway.submitResultAcknowledgement config id) := by
  unfold submitResultAcknowledgement
  split
  · exact .refl _
  · split
    · split
      · exact .refl _
      · split
        · exact exhaustResultAcknowledgement_spares
        · exact (Spares.kept (assignAcknowledgement_view _)).trans
            ((Spares.kept (recordAcknowledgement_view _)).trans
              (authorizedAcknowledgement_spares _))
    · exact .refl _

theorem acknowledgementRetryFired_spares :
    Spares gateway (gateway.acknowledgementRetryFired config id) := by
  unfold acknowledgementRetryFired
  split
  · exact .refl _
  · split
    · exact .refl _
    · exact (Spares.kept (assignAcknowledgement_view _)).trans submitResultAcknowledgement_spares

theorem scheduleAcknowledgementRetry_spares (error : RgsError) :
    Spares gateway (gateway.scheduleAcknowledgementRetry config id error sample) := by
  unfold scheduleAcknowledgementRetry
  split
  · exact .refl _
  · dsimp only
    split
    · exact .refl _
    · split
      · exact exhaustResultAcknowledgement_spares
      · split
        · exact exhaustResultAcknowledgement_spares
        · split
          · exact exhaustResultAcknowledgement_spares
          · have deferred (change : Acknowledgement → Acknowledgement) : Spares gateway
                ((gateway.clearAcknowledgementRetryTimer false).assignAcknowledgement id change) :=
              (Spares.kept (clearAcknowledgementRetryTimer_view false)).trans
                (.kept (assignAcknowledgement_view _))
            split
            · exact (deferred _).trans ((Spares.kept (recordAcknowledgement_view _)).trans
                (.kept (armAcknowledgementRetry_view _)))
            · exact (deferred _).trans (.kept (recordAcknowledgement_view _))

theorem scheduleAcknowledgementDeadline_spares :
    Spares gateway (gateway.scheduleAcknowledgementDeadline config id) := by
  unfold scheduleAcknowledgementDeadline
  split
  · exact .kept rfl
  · split <;> exact .kept rfl

theorem acknowledgementDeadlineFired_spares :
    Spares gateway (gateway.acknowledgementDeadlineFired id) := by
  unfold acknowledgementDeadlineFired
  split
  · exact .refl _
  · split
    · exact .refl _
    · exact exhaustResultAcknowledgement_spares

theorem resumeResultAcknowledgement_spares :
    Spares gateway (gateway.resumeResultAcknowledgement config) := by
  have submits (id : Nat) (change : Acknowledgement → Acknowledgement) : Spares gateway
      ((gateway.assignAcknowledgement id change).submitResultAcknowledgement config id) :=
    (Spares.kept (assignAcknowledgement_view _)).trans submitResultAcknowledgement_spares
  unfold resumeResultAcknowledgement
  split
  · exact .refl _
  · dsimp only
    split
    · exact .refl _
    · split
      · exact exhaustResultAcknowledgement_spares
      · split
        · split
          · exact .kept rfl
          · exact submits _ _
        · exact submits _ _

theorem acknowledgementFailed_spares (error : RgsError) :
    Spares gateway (gateway.acknowledgementFailed config id error sample) := by
  have ended (handled : RgsGateway) (spared : Spares gateway handled) : Spares gateway
      (if handled.closed then handled
        else handled.assignAcknowledgement id fun acknowledgement =>
          { acknowledgement with requestActive := false }) := by
    split
    · exact spared
    · exact spared.trans (.kept (assignAcknowledgement_view _))
  unfold acknowledgementFailed
  split
  · exact .refl _
  · apply ended
    have reported : Spares gateway (gateway.reportError error) := reportError_spares error
    split
    · exact exhaustResultAcknowledgement_spares
    · dsimp only
      split
      · exact reported.trans (scheduleAcknowledgementRetry_spares error)
      · split
        · exact reported.trans exhaustResultAcknowledgement_spares
        · exact reported.trans (.kept (assignAcknowledgement_view _))

theorem acknowledgeSpinResult_spares (roundId : String) (sequence : Nat) :
    Spares gateway (gateway.acknowledgeSpinResult config roundId sequence) := by
  unfold acknowledgeSpinResult
  split
  · exact .refl _
  next pending held =>
    split
    · exact .refl _
    · have goes (begun : RgsGateway) (spared : Spares gateway begun)
          (acknowledgement : Acknowledgement) (change : Acknowledgement → Acknowledgement) :
          Spares gateway
            (if !begun.acknowledgementAttemptAllowed config acknowledgement then
              begun.exhaustResultAcknowledgement pending.id
            else
              (begun.assignAcknowledgement pending.id change).submitResultAcknowledgement config
                pending.id) := by
        split
        · exact spared.trans exhaustResultAcknowledgement_spares
        · exact spared.trans ((Spares.kept (assignAcknowledgement_view _)).trans
            submitResultAcknowledgement_spares)
      refine goes _ ?_ _ _
      split
      · exact (Spares.kept (assignAcknowledgement_view _)).trans
          ((Spares.kept (recordAcknowledgement_view _)).trans
            scheduleAcknowledgementDeadline_spares)
      · exact .refl _

/-- An acknowledgement that is accepted ends the round, whose recovery has begun. -/
theorem acknowledgementAnswered_cases (result : Except RgsError Unit) :
    Spares gateway (gateway.acknowledgementAnswered config id result sample) ∨
      ∃ pending, gateway.current id = some pending ∧
        pending.acknowledgement.startedAtMs.isSome = true ∧ pending.acknowledgement.exhausted = false ∧
        result = .ok () ∧
        gateway.acknowledgementAnswered config id result sample = gateway.clearPending id := by
  unfold acknowledgementAnswered
  cases result with
  | error error => exact .inl (acknowledgementFailed_spares error)
  | ok =>
      dsimp only
      split
      next asserted =>
        unfold acknowledgementWindowAsserted at asserted
        cases held : gateway.current id with
        | none => rw [held] at asserted; cases asserted
        | some pending =>
            rw [held] at asserted
            simp only [Bool.and_eq_true, Bool.not_eq_true', acknowledgementWindowOpen] at asserted
            refine .inr ⟨pending, rfl, ?_, asserted.1, rfl, rfl⟩
            cases started : pending.acknowledgement.startedAtMs with
            | none => rw [started] at asserted; cases asserted.2
            | some => rfl
      · exact .inl (acknowledgementFailed_spares _)

end RgsGateway

end SlotsGame.Gateway
