/-
# SlotsGame.Rgs.Contract -- what a store promises about its calls

`Repository` says what calls there are; `Contract` says what each of them may do
to the sessions of a store, in terms of the views of `SlotsGame.Rgs.Aggregate`.
A call steps the session it names, by the event its reply reports; every other
session is left alone.  `isolated` and `blocked` are a store's own defence
against data it cannot trust, and may take the place of any event.

`stored` is the precision with which a store keeps an instant.
-/
import SlotsGame.Rgs.Aggregate
import SlotsGame.Rgs.Repository

namespace SlotsGame.Rgs

open SlotsGame.Theory

set_option autoImplicit false

variable {ω : Type}

/-- The view of a session that has just been created. -/
def SessionView.created (session : Session) : SessionView :=
  { status := session.status, pending := "", revision := session.revision
    sequence := session.sequence, balance := session.balanceMinor, feature := session.feature
    rounds := fun _ => none }

/-- Nothing, or the isolation of data that does not add up. -/
inductive Event.IsUpkeep : Event → Prop
  | idle : IsUpkeep .idle
  | blocked : IsUpkeep .blocked
  | isolated (id : String) : IsUpkeep (.isolated id)

/-- `claim` is the right that `event` grants. -/
structure SessionView.Grants (stored : Time → Time) (clock : Clock) (session : SessionView)
    (leaseDuration : Duration) (claim : WalletRecoveryClaim) (event : Event) : Prop where
  granted : ∃ index, claim.leaseUntil = stored (clock index) + leaseDuration ∧
    event = .claimed claim.record.key.roundID claim.action (stored claim.leaseUntil)
      (stored (clock index))
  terms : ∀ round, session.rounds claim.record.key.roundID = some round →
    claim.record.walletCommand = round.command ∧ claim.record.walletProfile = round.terms.profile

/-- The event a reply reports, for the session it is about. -/
def RepositoryCall.Reports (stored : Time → Time) (clock : Clock) (session : SessionView) :
    (call : RepositoryCall ω) → Except RgsError call.Reply → Event → Prop
  | .acknowledgeResultDelivery receipt, .ok (_, true), event =>
      event = .acknowledged receipt.roundID ∨ event.IsUpkeep
  | .prepareRound request fingerprint walletProfile _, .ok (record, true), event =>
      ∃ round, event = .prepared request.roundID round ∧ record.key = request.key ∧
        round.terms.fingerprint = fingerprint ∧ round.terms.profile = walletProfile ∧
        round.terms.outcome = record.result.outcome ∧
        round.command.debitMinor = round.terms.outcome.chargedBetMinor ∧
        round.command.creditMinor = round.terms.outcome.totalWinMinor
  | .claimWallet key leaseDuration, .ok (claim, true), event =>
      claim.record.key = key ∧ session.Grants stored clock leaseDuration claim event
  | .commitClaim claim receipt, .ok (_, true), event =>
      event = .committed claim.record.key.roundID (stored claim.leaseUntil) receipt
  | .rejectClaim claim _, .ok (_, true), event =>
      event = .rejected claim.record.key.roundID (stored claim.leaseUntil)
  | .markClaimManualReview claim _, .ok (_, true), event =>
      event = .reviewed claim.record.key.roundID (stored claim.leaseUntil) ∨ event.IsUpkeep
  | .markManualReview key _, .ok (_, true), event =>
      event = .marked key.roundID ∨ event.IsUpkeep
  | .scheduleWalletRecovery claim disposition jitterDelay, .ok true, event =>
      ∃ at_, stored (clock 0) + max disposition.minimumDelay jitterDelay ≤ at_ ∧
        event = .scheduled claim.record.key.roundID (stored claim.leaseUntil)
          disposition.nextAction at_
  | _, _, event => event.IsUpkeep

/-- The session a call is about; a recovery pass is about those it claims. -/
def RepositoryCall.Concerns : (call : RepositoryCall ω) → SessionKey → Prop
  | .createSession session, key => session.key = key
  | .getSession named, key | .authorizeSessionRelaunch named, key
  | .resetSessionTransport named _, key | .authorizeSessionTransport named _ _, key
  | .getPendingResultDelivery named, key => named = key
  | .getRound named, key | .claimWallet named _, key | .markManualReview named _, key =>
      named.session = key
  | .acknowledgeResultDelivery receipt, key =>
      (⟨receipt.operatorID, receipt.sessionID⟩ : SessionKey) = key
  | .prepareRound request _ _ _, key => request.key.session = key
  | .commitClaim claim _, key | .rejectClaim claim _, key | .markClaimManualReview claim _, key
  | .scheduleWalletRecovery claim _ _, key => claim.record.key.session = key
  | .claimRecoverableRounds _ _, _ => True

/-- What a recovery pass does to one session: it grants the session's claim of the
reply, if there is one. -/
inductive RecoversSession (stored : Time → Time) (clock : Clock) (leaseDuration : Duration)
    (claims : List WalletRecoveryClaim) (key : SessionKey) (session : SessionView) : Event → Prop
  | granted (claim : WalletRecoveryClaim) (event : Event) (member : claim ∈ claims)
      (about : claim.record.key.session = key)
      (grants : session.Grants stored clock leaseDuration claim event) :
      RecoversSession stored clock leaseDuration claims key session event
  | untouched (absent : ∀ claim ∈ claims, claim.record.key.session ≠ key) :
      RecoversSession stored clock leaseDuration claims key session .idle

/-- What a call does to the session `key`. -/
def RepositoryCall.Effect (stored : Time → Time) (clock : Clock) (key : SessionKey)
    (session : SessionView) :
    (call : RepositoryCall ω) → Except RgsError call.Reply → Event → Prop
  | .claimRecoverableRounds _ leaseDuration, .ok claims, event =>
      RecoversSession stored clock leaseDuration claims key session event
  | .claimRecoverableRounds _ _, .error _, event => event.IsUpkeep
  | call, reply, event =>
      (call.Concerns key ∧ call.Reports stored clock session reply event) ∨
        (¬ call.Concerns key ∧ event = .idle)

/-- A call that fails may have done nothing. -/
theorem RepositoryCall.effect_error (stored : Time → Time) (clock : Clock) (key : SessionKey)
    (session : SessionView) (call : RepositoryCall ω) (error : RgsError) :
    call.Effect stored clock key session (.error error) .idle := by
  by_cases concerns : call.Concerns key
  · cases call with
    | claimRecoverableRounds => exact .idle
    | _ => exact .inl ⟨concerns, .idle⟩
  · cases call with
    | claimRecoverableRounds => exact .idle
    | _ => exact .inr ⟨concerns, rfl⟩

/-- What a call does to one session, present or not. -/
inductive RepositoryCall.Moves (stored : Time → Time) (clock : Clock) (call : RepositoryCall ω)
    (reply : Except RgsError call.Reply) (key : SessionKey) :
    Option SessionView → Option SessionView → Prop
  | absent : Moves stored clock call reply key none none
  | created (session : Session) (creates : call = .createSession session)
      (named : session.key = key) (valid : validateSession session = .ok ()) :
      Moves stored clock call reply key none (some (.created session))
  | stepped (session after : SessionView) (event : Event)
      (effect : call.Effect stored clock key session reply event) (step : session.Step event after) :
      Moves stored clock call reply key (some session) (some after)

/-- The claims a call hands out. -/
def RepositoryCall.granted : (call : RepositoryCall ω) → Except RgsError call.Reply →
    List WalletRecoveryClaim
  | .claimWallet _ _, .ok (claim, true) => [claim]
  | .claimRecoverableRounds _ _, .ok claims => claims
  | _, _ => []

/-- A store that keeps the contract on the calls it `Admits`, in the states it
calls `Valid`. -/
structure Contract (repository : Repository ω) where
  stored : Time → Time
  clock : repository.Env → Clock
  view : repository.State → SessionKey → Option SessionView
  Valid : repository.State → Prop
  Admits : RepositoryCall ω → Prop
  moves : ∀ {env call state world reply after world'}, Admits call → Valid state →
    repository.run env call state world = (reply, after, world') →
    Valid after ∧ (∀ key, call.Moves stored (clock env) reply key (view state key) (view after key)) ∧
      ((call.granted reply).map fun claim => claim.record.key.session).Nodup

end SlotsGame.Rgs
