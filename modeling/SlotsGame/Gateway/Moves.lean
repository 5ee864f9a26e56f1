/-
# SlotsGame.Gateway.Moves -- what the code of a round can do

Everything that the submission and the polls do is one of a few moves of the view of the
round: it ends the session or the round, it schedules the next poll, it delivers the result, or
it sends a request.  Each function has one lemma that says which of them it makes; the
invariants of runs are proved of the moves.
-/
import SlotsGame.Gateway.Frames

namespace SlotsGame.Gateway

open SlotsGame.Theory

set_option autoImplicit false

/-! ## The moves -/

namespace View

variable (view : View)

/-- The round is pending, and nothing keeps a poll of it from being scheduled. -/
def Free (id : Nat) : Prop :=
  view.closed = false ∧ (∃ round, view.pending = some round ∧ round.id = id ∧ round.blocked = false) ∧
    view.pollTimer.current = none

/-- A poll is scheduled, and its timer armed if the page is available. -/
def scheduled (id delay : Nat) : View :=
  { view with
    pollNotBeforeAtMs := some (view.now + delay)
    pollTimer := if view.available then view.pollTimer.arm (view.now + delay) id else view.pollTimer }

def delivered : View :=
  { view with
    pending := view.pending.map fun round => { round with delivered := true }
    pollTimer := view.pollTimer.clear
    pollNotBeforeAtMs := none }

/-- An assignment to `pollRequestActive`. -/
def polling (id : Nat) (active : Bool) : View :=
  { view with
    pending := view.pending.map fun round =>
      if round.id = id then { round with pollRequestActive := active } else round }

/-- A poll of the round has ended. -/
def polled (id : Nat) : View := if view.closed then view else view.polling id false

/-- A round begins. -/
def began : View :=
  { view with
    pending := some
      { id := view.nextRound, pollRequestActive := false, blocked := false, delivered := false }
    nextRound := view.nextRound + 1 }

/-- The timer of a poll is armed for a time that was kept. -/
def rearmed (id : Nat) (notBefore : Millis) : View :=
  { view with
    pollTimer := view.pollTimer.arm (view.now + (notBefore - view.now).ceil.toNat) id }

end View

/-- The session is over, and nothing was sent; an answer may have been heard. -/
structure Ended (view after : View) : Prop where
  closed : after.closed = true
  calls : after.calls = []
  nextRound : after.nextRound = view.nextRound
  log : ∃ heard, after.log = heard ++ view.log ∧
    ∀ entry ∈ heard, ∃ round notBefore, entry.2 = RoundEvent.delayed round notBefore
  timer : after.pollTimer.current = none
  tidy : after.pollTimer.lost = view.pollTimer.lost

/-- What is done without sending a request; `least` is the delay that was asked for. -/
inductive Moves (least id : Nat) (view : View) : View → Prop
  | kept (unheard : view.Free id → least = 0) : Moves least id view view
  | ended {after : View} (finished : Ended view after) : Moves least id view after
  | cleared : Moves least id view view.cleared
  | scheduled {delay : Nat} (free : view.Free id) (long : least ≤ delay) :
      Moves least id view (view.scheduled id delay)
  | delivered : Moves least id view view.delivered

/-- A request is sent, or waits for what it needs to be sent. -/
inductive Posts (round : Nat) (kind : RoundRequest) (view : View) : View → Prop
  | waits : Posts round kind view { view with calls := (round, kind) :: view.calls }
  | sends : Posts round kind view
      { view with
        calls := (round, kind) :: view.calls
        log := (view.now, .sent round kind) :: view.log }

theorem Ended.of_ended (view : View) : Ended view view.ended where
  closed := rfl
  calls := rfl
  nextRound := rfl
  log := ⟨[], rfl, fun _ absent => absurd absent List.not_mem_nil⟩
  timer := rfl
  tidy := rfl

namespace Moves

variable {least id : Nat} {view after : View}

theorem unheard (moves : Moves least id view after) : Moves 0 id view after := by
  cases moves with
  | kept => exact .kept fun _ => rfl
  | ended finished => exact .ended finished
  | cleared => exact .cleared
  | scheduled free long => exact .scheduled free (Nat.zero_le _)
  | delivered => exact .delivered

/-- A move that does not end the session leaves the calls as they are. -/
theorem opened (moves : Moves least id view after) (opened : after.closed = false) :
    view.closed = false ∧ after.calls = view.calls ∧ after.nextRound = view.nextRound ∧
      (after.pending = none ∨
        (after.pending.map fun round => (round.id, round.pollRequestActive)) =
          view.pending.map fun round => (round.id, round.pollRequestActive)) := by
  cases moves with
  | kept => exact ⟨opened, rfl, rfl, .inr rfl⟩
  | ended finished =>
      rw [finished.closed] at opened
      cases opened
  | cleared => exact ⟨opened, rfl, rfl, .inl rfl⟩
  | scheduled => exact ⟨opened, rfl, rfl, .inr rfl⟩
  | delivered =>
      refine ⟨opened, rfl, rfl, .inr ?_⟩
      unfold View.delivered
      cases view.pending <;> rfl

end Moves

theorem Posts.unchanged {round : Nat} {kind : RoundRequest} {view after : View}
    (posts : Posts round kind view after) :
    after = { view with calls := (round, kind) :: view.calls, log := after.log } := by
  cases posts <;> rfl

namespace RgsGateway

variable {config : Config} {gateway after : RgsGateway} {id : Nat} {sample : Option ℚ}

/-! ## Assignments -/

theorem assign_view {change : PendingRound → PendingRound}
    (unseen : ∀ pending, (change pending).state = pending.state) :
    (gateway.assign id change).view = gateway.view := by
  unfold assign view
  cases gateway.pending with
  | none => rfl
  | some pending =>
      dsimp only [Option.map_some]
      split
      · rw [unseen]
        rfl
      · rfl

theorem current_free {pending : PendingRound} (held : gateway.current id = some pending)
    (unblocked : pending.blocked = false) (unset : gateway.pollTimer.current = none) :
    gateway.view.Free id := by
  obtain ⟨opened, found, same⟩ := current_some.mp held
  exact ⟨opened, ⟨pending.state, by rw [view, found]; rfl, same, unblocked⟩, unset⟩

theorem free_current (free : gateway.view.Free id) :
    ∃ pending, gateway.current id = some pending ∧ pending.blocked = false ∧
      gateway.pollTimer.current = none := by
  obtain ⟨opened, ⟨round, found, same, unblocked⟩, unset⟩ := free
  obtain ⟨pending, held, rfl⟩ := Option.map_eq_some_iff.mp found
  exact ⟨pending, current_some.mpr ⟨opened, held, same⟩, unblocked, unset⟩

theorem current_none_moves {least : Nat} (gone : gateway.current id = none) :
    Moves least id gateway.view gateway.view := by
  refine .kept fun free => ?_
  obtain ⟨pending, held, _⟩ := free_current free
  rw [gone] at held
  cases held

theorem terminate_ended (cause : Termination) (opened : gateway.closed = false) :
    Ended gateway.view (gateway.terminateForOperatorRelaunch cause).view := by
  unfold terminateForOperatorRelaunch
  rw [opened, if_neg Bool.false_ne_true, shutDown_view]
  exact .of_ended _

theorem timeout_ended (opened : gateway.closed = false) :
    Ended gateway.view gateway.terminateForSessionTimeout.view := by
  unfold terminateForSessionTimeout
  rw [opened, if_neg Bool.false_ne_true, shutDown_view]
  exact .of_ended _

/-! ## The polls are scheduled -/

theorem blocked_moves {least : Nat} {pending : PendingRound} (held : gateway.current id = some pending)
    (blocked : pending.blocked = true) : Moves least id gateway.view gateway.view := by
  refine .kept fun free => ?_
  obtain ⟨round, found, unblocked, _⟩ := free_current free
  rw [held] at found
  obtain rfl := Option.some.inj found
  rw [blocked] at unblocked
  cases unblocked

theorem exhaustRoundRecovery_moves {least : Nat} {pending : PendingRound}
    (held : gateway.current id = some pending) :
    Moves least id gateway.view (gateway.exhaustRoundRecovery id).view := by
  have same : (gateway.assign id fun pending =>
      { pending with resubmitOnNotFound := false }).view = gateway.view :=
    assign_view fun _ => rfl
  unfold exhaustRoundRecovery
  rw [held]
  dsimp only
  split
  next blocked => exact blocked_moves held blocked
  next =>
    rw [← same]
    exact .ended (terminate_ended _ (current_some.mp held).1)

theorem scheduled_view (delay : Nat) :
    (if gateway.available then
      { gateway with pollNotBeforeAtMs := some (gateway.now + delay) }.armPollTimer id delay
      else { gateway with pollNotBeforeAtMs := some (gateway.now + delay) }).view =
      gateway.view.scheduled id delay := by
  unfold View.scheduled
  split
  next available =>
    rw [if_pos (show gateway.view.available = true from available)]
    rfl
  next hidden =>
    rw [if_neg (show ¬ gateway.view.available = true from hidden)]
    rfl

theorem schedulePoll_moves {minimumDelayMs : Option Nat}
    (fits : ∀ delay ∈ minimumDelayMs, delay ≤ maxTimerDelayMs) :
    Moves (minimumDelayMs.getD 0) id gateway.view
      (gateway.schedulePoll config id minimumDelayMs sample).view := by
  unfold schedulePoll
  split
  next gone => exact current_none_moves gone
  next pending held =>
    split
    next idle =>
      refine .kept fun free => ?_
      obtain ⟨round, found, unblocked, unset⟩ := free_current free
      rw [held] at found
      obtain rfl := Option.some.inj found
      rw [unblocked, unset] at idle
      cases idle
    next busy =>
      simp only [Bool.or_eq_true, not_or, Bool.not_eq_true, Option.isSome_eq_false_iff,
        Option.isNone_iff_eq_none] at busy
      split
      · exact exhaustRoundRecovery_moves held
      · have free := current_free held busy.1 busy.2
        have long : minimumDelayMs.getD 0 ≤
            (if minimumDelayMs = some 0 then 0
              else distributedRetryDelayMs
                (min 8000 (config.pollDelayMs * 2 ^ min pending.pollAttempts 5))
                (minimumDelayMs.getD 0) sample) := by
          split
          next zero => rw [zero]; exact Nat.le_refl 0
          next =>
            apply distributedRetryDelayMs_least
            cases minimumDelayMs with
            | none => exact Nat.zero_le _
            | some delay => exact fits delay rfl
        rw [scheduled_view]
        exact .scheduled free long

/-! ## A result is delivered -/

theorem deliver_moves (decoded : DecodedRgsSpin) {pending : PendingRound}
    (held : gateway.current id = some pending) :
    Moves 0 id gateway.view (gateway.deliver config id decoded).view := by
  obtain ⟨opened, found, same⟩ := current_some.mp held
  unfold deliver armSessionTimeout expireSessionAtAuthoritativeDeadline
  dsimp only
  split
  · refine .ended ⟨?_, ?_, ?_, ⟨[], ?_⟩, ?_, ?_⟩ <;>
      simp [terminateForSessionTimeout, opened, shutDown, assign, clearPollTimer, view, found, same,
        PendingRound.state]
  · have applied : Moves 0 id gateway.view gateway.view.delivered := .delivered
    convert applied using 1
    simp [assign, clearPollTimer, view, View.delivered, available, found, same, PendingRound.state]

theorem acceptCommitted_moves {decoded : DecodedRgsSpin}
    (accepted : gateway.acceptCommitted config id decoded = .ok after) :
    Moves 0 id gateway.view after.view := by
  have kept : Moves 0 id gateway.view gateway.view := .kept fun _ => rfl
  unfold acceptCommitted at accepted
  split at accepted
  · obtain rfl := Except.ok.inj accepted
    exact kept
  next pending held =>
    split at accepted
    · obtain rfl := Except.ok.inj accepted
      exact kept
    · obtain ⟨_, _, accepted⟩ := bind_ok.mp accepted
      split at accepted
      · cases accepted
      · obtain rfl := Except.ok.inj accepted
        split
        · exact kept
        · rw [clearPending_view held]
          exact .cleared
      · simp only [bind_ok] at accepted
        obtain ⟨_, _, _, _, _, _, accepted⟩ := accepted
        obtain rfl := Except.ok.inj accepted
        exact deliver_moves decoded held

/-! ## The submission -/

theorem post_posts (call : Call RoundRequest RoundReply) (again : Bool) :
    Posts call.round call.kind gateway.view (gateway.post call again).view := by
  unfold post
  split
  · exact .sends
  · exact .waits

theorem authorizedPost_posts (kind : RoundRequest) :
    Posts id kind gateway.view (gateway.authorizedPost id kind).view := by
  unfold authorizedPost
  dsimp only
  split
  · exact .waits
  · exact post_posts { round := id, kind := kind, stage := .awaiting false } false

theorem submitPending_posts {pending : PendingRound} (held : gateway.current id = some pending)
    (unblocked : pending.blocked = false) :
    Posts id .submission gateway.view (gateway.submitPending id).view := by
  have same : (gateway.assign id fun pending =>
      { pending with resubmitOnNotFound := false }).view = gateway.view :=
    assign_view fun _ => rfl
  unfold submitPending
  rw [held]
  dsimp only
  rw [unblocked, if_neg Bool.false_ne_true, ← same]
  exact authorizedPost_posts .submission

theorem submitPending_blocked {pending : PendingRound} (held : gateway.current id = some pending)
    (blocked : pending.blocked = true) : gateway.submitPending id = gateway := by
  unfold submitPending
  rw [held]
  dsimp only
  rw [blocked, if_pos rfl]

/-- The delay that a failed submission is to wait for: a round that was rejected while the page
was away waits for no delay. -/
def submissionDelay (available : Bool) (error : RgsError) : Nat :=
  if error.status = some 409 ∧ error.code = some "ROUND_REJECTED" ∧ available = false then 0
  else error.retryAfterMs.getD 0

theorem retryAfterMs_fits (error : RgsError) :
    ∀ delay ∈ error.retryAfterMs, delay ≤ maxTimerDelayMs := by
  intro delay carried
  cases error with
  | http status code retryAfter =>
      obtain ⟨header, _, rfl⟩ := Option.map_eq_some_iff.mp carried
      exact Nat.le_trans header.most (by decide)
  | network => cases carried
  | delivery => cases carried
  | protocol => cases carried

/-- A failure that is not retried ends the session. -/
theorem terminatePendingRecovery_moves {least : Nat} (error : RgsError) :
    Moves least id gateway.view (gateway.terminatePendingRecovery id error).view := by
  unfold terminatePendingRecovery
  split
  next gone => exact current_none_moves gone
  next pending held =>
    obtain ⟨opened, _, _⟩ := current_some.mp held
    split
    · exact .ended (timeout_ended opened)
    · exact .ended (terminate_ended _ opened)

theorem reportError_cases (error : RgsError) (opened : gateway.closed = false) :
    (gateway.reportError error).view = gateway.view ∨
      Ended gateway.view (gateway.reportError error).view := by
  unfold reportError
  rw [if_neg (Bool.eq_false_iff.mp opened)]
  split
  · split
    · exact .inr (timeout_ended opened)
    · split
      · exact .inl rfl
      · exact .inl rfl
  · exact .inl rfl

theorem closed_current (closed : gateway.closed = true) : gateway.current id = none := by
  unfold current
  rw [closed, if_pos rfl]

/-- A failure is reported, and the next poll is scheduled. -/
theorem reported_moves {minimumDelayMs : Option Nat}
    (fits : ∀ delay ∈ minimumDelayMs, delay ≤ maxTimerDelayMs) (error : RgsError)
    (opened : gateway.closed = false) :
    Moves (minimumDelayMs.getD 0) id gateway.view
      ((gateway.reportError error).schedulePoll config id minimumDelayMs sample).view := by
  rcases reportError_cases error opened with same | finished
  · rw [← same]
    exact schedulePoll_moves fits
  · have gone : (gateway.reportError error).current id = none := closed_current finished.closed
    unfold schedulePoll
    rw [gone]
    exact .ended finished

theorem submissionFailed_moves (error : RgsError) :
    Moves (submissionDelay gateway.available error) id gateway.view
      (gateway.submissionFailed config id error sample).view := by
  have scheduled {least : Nat} {last : View} (moves : Moves (error.retryAfterMs.getD 0) id
      gateway.view last) (asked : least ≤ error.retryAfterMs.getD 0) :
      Moves least id gateway.view last := by
    cases moves with
    | kept unheard => exact .kept fun free => Nat.eq_zero_of_le_zero (unheard free ▸ asked)
    | ended finished => exact .ended finished
    | cleared => exact .cleared
    | scheduled free long => exact .scheduled free (Nat.le_trans asked long)
    | delivered => exact .delivered
  have asked : submissionDelay gateway.available error ≤ error.retryAfterMs.getD 0 := by
    unfold submissionDelay
    split <;> omega
  unfold submissionFailed
  split
  next gone => exact current_none_moves gone
  next pending held =>
    obtain ⟨opened, _, _⟩ := current_some.mp held
    split
    · exact scheduled (schedulePoll_moves (retryAfterMs_fits error)) asked
    · split
      next rejected =>
        split
        · rw [clearPending_view held]
          exact .cleared
        next hidden =>
          refine .kept fun _ => ?_
          unfold submissionDelay
          rw [if_pos ⟨rejected.1, rejected.2, Bool.eq_false_iff.mpr hidden⟩]
      · split
        · have same (permitted : Bool) : (gateway.assign id fun pending =>
              { pending with resubmitOnNotFound := permitted }).view = gateway.view :=
            assign_view fun _ => rfl
          refine scheduled ?_ asked
          dsimp only
          rw [← same]
          exact reported_moves (retryAfterMs_fits error) error opened
        · split
          next undelivered =>
            rw [undelivered] at asked ⊢
            have none : submissionDelay gateway.available .delivery = 0 := Nat.eq_zero_of_le_zero asked
            rw [none]
            exact @reported_moves config gateway id sample Option.none (fun _ absent => by cases absent) _
              opened
          · exact terminatePendingRecovery_moves error

/-- The delay that the answer to a submission asks for. -/
def answeredDelay (available : Bool) : Except RgsError RoundReply → Nat
  | .error error => submissionDelay available error
  | .ok _ => 0

theorem submissionAnswered_moves (result : Except RgsError RoundReply) :
    Moves (answeredDelay gateway.available result) id gateway.view
      (gateway.submissionAnswered config id result sample).view := by
  unfold submissionAnswered
  cases result with
  | error error => exact submissionFailed_moves error
  | ok reply =>
      cases reply with
      | spin decoded =>
          dsimp only
          split
          next accepted => exact acceptCommitted_moves accepted
          · exact (submissionFailed_moves _).unheard
      | status => exact (submissionFailed_moves _).unheard

/-! ## The polls -/

theorem assign_polling (active : Bool) {change : PendingRound → PendingRound}
    (polling : ∀ pending,
      (change pending).state = { pending.state with pollRequestActive := active }) :
    (gateway.assign id change).view = gateway.view.polling id active := by
  unfold assign view View.polling
  cases gateway.pending with
  | none => rfl
  | some pending =>
      dsimp only [Option.map_some]
      split
      next here =>
        rw [polling, if_pos (show pending.state.id = id from here)]
        rfl
      next other =>
        rw [if_neg (show ¬ pending.state.id = id from other)]
        rfl

theorem pollEnded_view : (gateway.pollEnded id).view = gateway.view.polled id := by
  unfold pollEnded View.polled
  split
  next closed => rw [if_pos (show gateway.view.closed = true from closed)]
  next opened =>
    rw [if_neg (show ¬ gateway.view.closed = true from opened)]
    exact assign_polling false fun _ => rfl

theorem applyStatus_moves {status : RoundStatus}
    (applied : gateway.applyStatus config id status sample = .ok after) :
    Moves 0 id gateway.view after.view := by
  have returned : (gateway.returnPollAttempt id).view = gateway.view := assign_view fun _ => rfl
  have kept : Moves 0 id gateway.view gateway.view := .kept fun _ => rfl
  have scheduled : Moves 0 id gateway.view (gateway.schedulePoll config id none sample).view :=
    @schedulePoll_moves config gateway id sample none fun _ absent => by cases absent
  unfold applyStatus at applied
  cases status with
  | committed result =>
      cases result with
      | none => cases applied
      | some decoded =>
          dsimp only at applied
          split at applied
          · exact acceptCommitted_moves applied
          · obtain rfl := Except.ok.inj applied
            rw [returned]
            exact kept
  | prepared =>
      obtain rfl := Except.ok.inj applied
      exact scheduled
  | walletPending =>
      obtain rfl := Except.ok.inj applied
      exact scheduled
  | rejected =>
      obtain rfl := Except.ok.inj applied
      split
      · cases held : gateway.current id with
        | none =>
            unfold clearPending
            rw [held]
            exact kept
        | some pending =>
            rw [clearPending_view held]
            exact .cleared
      · rw [returned]
        exact kept
  | manualReview =>
      obtain rfl := Except.ok.inj applied
      split
      · exact kept
      next held => exact .ended (terminate_ended _ (current_some.mp held).1)

/-- A poll that is answered with 404 submits the round again. -/
def Resubmits (config : Config) (gateway : RgsGateway) (id : Nat) (error : RgsError) : Prop :=
  ∃ pending, gateway.current id = some pending ∧ error.status = some 404 ∧
    pending.resubmitOnNotFound = true ∧ gateway.session.revision = pending.startRevision ∧
    pending.pollAttempts < config.maxPollAttempts

theorem pollFailed_cases (error : RgsError) :
    Moves (error.retryAfterMs.getD 0) id gateway.view
        (gateway.pollFailed config id error sample).view ∨
      Resubmits config gateway id error ∧
        Posts id .submission gateway.view (gateway.pollFailed config id error sample).view := by
  unfold pollFailed
  split
  next gone => exact .inl (current_none_moves gone)
  next pending held =>
    obtain ⟨opened, _, _⟩ := current_some.mp held
    split
    next found =>
      split
      · exact .inl (exhaustRoundRecovery_moves held)
      next budget =>
        cases blocked : pending.blocked with
        | true =>
            rw [submitPending_blocked held blocked]
            exact .inl (blocked_moves held blocked)
        | false =>
            exact .inr ⟨⟨pending, held, found.1, found.2.1, found.2.2, Nat.lt_of_not_le budget⟩,
              submitPending_posts held blocked⟩
    · split
      · exact .inl (reported_moves (retryAfterMs_fits error) error opened)
      · split
        next undelivered =>
          rw [undelivered]
          exact .inl (@reported_moves config gateway id sample Option.none
            (fun _ absent => by cases absent) _ opened)
        · exact .inl (terminatePendingRecovery_moves error)

/-- The delay that the answer to a poll asks for. -/
def statusDelay : Except RgsError RoundReply → Nat
  | .error error => error.retryAfterMs.getD 0
  | .ok _ => 0

theorem pollAnswered_cases (result : Except RgsError RoundReply) :
    ∃ last, (gateway.pollAnswered config id result sample).view = last.polled id ∧
      (Moves (statusDelay result) id gateway.view last ∨
        ∃ error, result = .error error ∧ Resubmits config gateway id error ∧
          Posts id .submission gateway.view last) := by
  have protocol : Moves 0 id gateway.view
      (gateway.pollFailed config id .protocol sample).view := by
    rcases @pollFailed_cases config gateway id sample .protocol with moves | ⟨⟨_, _, missing, _⟩, _⟩
    · exact moves
    · cases missing
  refine ⟨_, pollEnded_view, ?_⟩
  cases result with
  | error error =>
      rcases @pollFailed_cases config gateway id sample error with moves | resubmitted
      · exact .inl moves
      · exact .inr ⟨error, rfl, resubmitted⟩
  | ok reply =>
      refine .inl ?_
      cases reply with
      | spin => exact protocol
      | status bound status =>
          cases bound with
          | false => exact protocol
          | true =>
              have same : (gateway.assign id fun pending =>
                  { pending with resubmitOnNotFound := false }).view = gateway.view :=
                assign_view fun _ => rfl
              dsimp only
              rw [← same]
              split
              next applied => exact applyStatus_moves applied
              next error failed =>
                rcases pollFailed_cases error with moves | ⟨resubmits, _⟩
                · exact moves.unheard
                · -- the permission has just been withdrawn
                  obtain ⟨pending, held, _, permitted, _⟩ := resubmits
                  obtain ⟨_, found, here⟩ := current_some.mp held
                  obtain ⟨earlier, _, rfl⟩ := Option.map_eq_some_iff.mp found
                  split at permitted
                  · cases permitted
                  next other =>
                    rw [if_neg other] at here
                    exact absurd here other

theorem pollPending_cases : (gateway.pollPending id).view = gateway.view ∨
    ∃ pending, gateway.current id = some pending ∧ pending.pollRequestActive = false ∧
      Posts id .poll (gateway.view.polling id true) (gateway.pollPending id).view := by
  unfold pollPending
  split
  · exact .inl rfl
  next pending held =>
    split
    · exact .inl rfl
    next idle =>
      simp only [Bool.or_eq_true, not_or, Bool.not_eq_true] at idle
      refine .inr ⟨pending, held, idle.1.2, ?_⟩
      have polled : (gateway.assign id fun pending =>
          { pending with
            pollAttempts := pending.pollAttempts + 1, pollRequestActive := true }).view =
          gateway.view.polling id true := assign_polling true fun _ => rfl
      rw [← polled]
      exact authorizedPost_posts .poll

/-! ## The page and the controller -/

theorem expire_cases :
    gateway.expireSessionAtAuthoritativeDeadline config = gateway ∨
      Ended gateway.view (gateway.expireSessionAtAuthoritativeDeadline config).view := by
  unfold expireSessionAtAuthoritativeDeadline
  split
  next due =>
    simp only [Bool.and_eq_true, Bool.not_eq_true'] at due
    exact .inr (timeout_ended due.1.2)
  · exact .inl rfl

theorem requestSpin_cases (roundId : String) (betMinor : Int) (roundKind : RoundKind)
    (admitted : Bool) :
    (gateway.requestSpin config roundId betMinor roundKind admitted).view = gateway.view ∨
      Ended gateway.view (gateway.requestSpin config roundId betMinor roundKind admitted).view ∨
      gateway.view.closed = false ∧ gateway.view.pending = none ∧
        Posts gateway.view.nextRound .submission gateway.view.began
          (gateway.requestSpin config roundId betMinor roundKind admitted).view := by
  unfold requestSpin
  dsimp only
  split
  · rcases @expire_cases config gateway with same | finished
    · exact .inl (congrArg view same)
    · exact .inr (.inl finished)
  next idle =>
    simp only [Bool.or_eq_true, not_or, Bool.not_eq_true, Option.isSome_eq_false_iff,
      Option.isNone_iff_eq_none] at idle
    obtain ⟨⟨⟨⟨⟨⟨opened, _⟩, _⟩, _⟩, empty⟩, _⟩, _⟩ := idle
    rcases @expire_cases config gateway with same | finished
    · rw [same] at opened empty ⊢
      refine .inr (.inr ⟨opened, by rw [view, empty]; rfl, ?_⟩)
      have held (pending : PendingRound) (unblocked : pending.blocked = false)
          (here : pending.id = gateway.nextRound) :
          Posts gateway.nextRound .submission
            { gateway with pending := some pending, nextRound := gateway.nextRound + 1 }.view
            ({ gateway with
              pending := some pending, nextRound := gateway.nextRound + 1 }.submitPending
                gateway.nextRound).view :=
        submitPending_posts (current_some.mpr ⟨opened, rfl, here⟩) unblocked
      exact held { id := gateway.nextRound, roundId := roundId, betMinor := betMinor
                   startRevision := gateway.session.revision, roundKind := roundKind } rfl rfl
    · have closed : (gateway.expireSessionAtAuthoritativeDeadline config).closed = true := finished.closed
      rw [opened] at closed
      cases closed

theorem resumeRoundRecovery_cases :
    (gateway.resumeRoundRecovery config).view = gateway.view ∨
      ∃ round, gateway.view.pending = some round ∧ round.blocked = false ∧
        round.delivered = false ∧ round.pollRequestActive = false ∧
        ((∃ notBefore, gateway.view.pollNotBeforeAtMs = some notBefore ∧
            (gateway.resumeRoundRecovery config).view = gateway.view.rearmed round.id notBefore) ∨
          gateway.view.pollNotBeforeAtMs = none ∧
            Moves 0 round.id gateway.view (gateway.resumeRoundRecovery config).view) := by
  unfold resumeRoundRecovery
  split
  · exact .inl rfl
  next pending held =>
    split
    · exact .inl rfl
    next idle =>
      simp only [Bool.or_eq_true, not_or, Bool.not_eq_true] at idle
      refine .inr ⟨pending.state, by rw [view, held]; rfl, idle.1.1, idle.1.2, idle.2, ?_⟩
      split
      next notBefore kept => exact .inl ⟨notBefore, kept, rfl⟩
      next unkept =>
        exact .inr ⟨unkept, @schedulePoll_moves config gateway pending.id none (some 0) fun delay zero => by
          cases zero
          decide⟩

end RgsGateway

end SlotsGame.Gateway
