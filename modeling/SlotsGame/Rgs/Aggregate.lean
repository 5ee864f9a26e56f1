/-
# SlotsGame.Rgs.Aggregate -- what a session is for, whatever stores it

The abstract contract of a store, one session at a time.  A `SessionView` keeps
what the settlement of rounds depends on, and `Step` is the list of everything a
store may do to it: each operation of a store is one of these events, or `idle`.
The invariants of a session are proved here once, against `Step`; a store
inherits them by showing that its operations are steps.

The token of a claim is the deadline of its lease.  `Event` carries it, with the
instant at which a claim was granted.
-/
import Mathlib.Data.Set.Card
import SlotsGame.Rgs.Validation

namespace SlotsGame.Rgs

open SlotsGame.Game

set_option autoImplicit false

/-! ## Views -/

/-- What a round is prepared with and keeps for good.  The outcome is its result
without the fields of the receipt and of the transport. -/
structure RoundTerms where
  fingerprint : String
  command : WalletRound
  profile : Profile
  startRevision : Nat
  outcome : SpinResult
  deriving DecidableEq

/-- A result without the fields of the receipt and of the transport. -/
def SpinResult.outcome (result : SpinResult) : SpinResult :=
  { result with walletTransactionID := "", balanceMinor := 0, endRevision := 0, idleDisconnectAt := 0 }

/-- A round, as far as its settlement depends on it. -/
structure RoundView where
  terms : RoundTerms
  status : RoundStatus
  money : Option TransactionStatus
  balance : Int
  phase : WalletRecoveryAction
  leaseUntil : Option Time
  nextAttemptAt : Time
  awaiting : Bool

/-- A session with its rounds. -/
@[ext] structure SessionView where
  status : SessionStatus
  pending : String
  revision : Nat
  sequence : Nat
  balance : Int
  feature : FeatureState
  rounds : String → Option RoundView

namespace RoundView

abbrev command (round : RoundView) : WalletRound := round.terms.command

abbrev sequence (round : RoundView) : Nat := round.terms.outcome.sequence

abbrev feature (round : RoundView) : FeatureState := round.terms.outcome.featureState

/-- The wallet may still be called for the round. -/
def Claimable (round : RoundView) : Prop :=
  round.status = .prepared ∨ round.status = .walletPending

/-- The round has not come to an end. -/
def Open (round : RoundView) : Prop :=
  round.Claimable ∨ round.status = .riskPending

/-- The ledger does not say whether money moved. -/
def Undetermined (round : RoundView) : Prop :=
  round.money = some .pending ∨ round.money = some .unknown

/-- Open, or in review with its money undetermined. -/
def Unresolved (round : RoundView) : Prop :=
  round.Open ∨ (round.status = .manualReview ∧ round.Undetermined)

/-- A claim leases the round; whatever it was for, a LOOKUP comes next. -/
def claim (round : RoundView) (token : Time) : RoundView :=
  { round with
    status := .walletPending, phase := .lookup, leaseUntil := some token, nextAttemptAt := token }

def schedule (round : RoundView) (next : WalletRecoveryAction) (at_ : Time) : RoundView :=
  { round with phase := next, nextAttemptAt := at_, leaseUntil := none }

/-- The round ends with `status` and its ledger with `money`. -/
def finish (round : RoundView) (status : RoundStatus) (money : Option TransactionStatus) :
    RoundView :=
  { round with status := status, money := money, phase := .unset, nextAttemptAt := 0,
               leaseUntil := none }

def commit (round : RoundView) (balance : Int) : RoundView :=
  { round.finish .committed (some .succeeded) with balance := balance, awaiting := true }

def approve (round : RoundView) (now : Time) : RoundView :=
  { round with status := .prepared, phase := .apply, nextAttemptAt := now, leaseUntil := none }

/-- A pending ledger entry becomes unknown when the round is isolated, or failed
when the wallet cannot have been called yet. -/
def IsolatedMoney (round : RoundView) (money : Option TransactionStatus) : Prop :=
  if round.money = some .pending then
    money = some .unknown ∨ (round.status = .riskPending ∧ money = some .failed)
  else money = round.money

end RoundView

namespace SessionView

def put (session : SessionView) (id : String) (round : RoundView) : SessionView :=
  { session with rounds := Function.update session.rounds id (some round) }

@[simp] theorem put_rounds (session : SessionView) (id other : String) (round : RoundView) :
    (session.put id round).rounds other = if other = id then some round else session.rounds other := by
  simp [put, Function.update_apply]

/-- No committed result waits for its acknowledgement. -/
def Delivered (session : SessionView) : Prop :=
  ∀ id round, session.rounds id = some round → round.awaiting = false

/-- The session without its pending round, if that is `id`. -/
def release (session : SessionView) (id : String) : SessionView :=
  if session.pending = id then { session with pending := "" } else session

@[simp] theorem release_status (session : SessionView) (id : String) :
    (session.release id).status = session.status := by
  unfold release
  split <;> rfl

@[simp] theorem release_rounds (session : SessionView) (id : String) :
    (session.release id).rounds = session.rounds := by
  unfold release
  split <;> rfl

def block (session : SessionView) : SessionView :=
  { session with status := .blocked }

end SessionView

/-! ## Events and steps -/

inductive Event
  | idle
  | prepared (id : String) (round : RoundView)
  | claimed (id : String) (action : WalletRecoveryAction) (token now : Time)
  | scheduled (id : String) (token : Time) (next : WalletRecoveryAction) (at_ : Time)
  | committed (id : String) (token : Time) (receipt : WalletReceipt)
  | rejected (id : String) (token : Time)
  | reviewed (id : String) (token : Time)
  | acknowledged (id : String)
  | isolated (id : String)
  | marked (id : String)
  | blocked
  | approved (id : String) (now : Time)
  | riskRejected (id : String)
  | riskReviewed (id : String)

/-- The round a claim's holder completes: still leased under `token`. -/
structure SessionView.Leased (session : SessionView) (id : String) (round : RoundView)
    (token : Time) : Prop where
  found : session.rounds id = some round
  claimable : round.Claimable
  token : round.leaseUntil = some token

/-- Everything a store may do to a session. -/
inductive SessionView.Step (session : SessionView) : Event → SessionView → Prop
  | idle : Step session .idle session
  | prepared (id : String) (round : RoundView) (active : session.status = .active)
      (free : session.pending = "") (fresh : session.rounds id = none)
      (delivered : session.Delivered) (named : id ≠ "")
      (started : round.terms.startRevision = session.revision)
      (numbered : round.sequence = session.sequence + 1)
      (opened : (round.status = .prepared ∧ round.phase = .apply) ∨ round.status = .riskPending)
      (ledger : round.money = some .pending) (unleased : round.leaseUntil = none)
      (silent : round.awaiting = false) :
      Step session (.prepared id round) { session.put id round with pending := id }
  | claimed (id : String) (round : RoundView) (token now : Time)
      (active : session.status = .active) (pending : session.pending = id)
      (found : session.rounds id = some round) (claimable : round.Claimable)
      (current : session.revision = round.terms.startRevision) (valid : round.phase.Valid)
      (due : round.nextAttemptAt ≤ now) (expired : ∀ lease ∈ round.leaseUntil, lease ≤ now)
      (ledger : round.Undetermined) :
      Step session (.claimed id round.phase token now) (session.put id (round.claim token))
  | scheduled (id : String) (round : RoundView) (token : Time) (next : WalletRecoveryAction)
      (at_ : Time) (leased : session.Leased id round token) (valid : next.Valid) :
      Step session (.scheduled id token next at_) (session.put id (round.schedule next at_))
  | committed (id : String) (round : RoundView) (token : Time) (receipt : WalletReceipt)
      (leased : session.Leased id round token) (pending : session.pending = id)
      (current : session.revision = round.terms.startRevision)
      (confirmed : validateWalletReceipt round.command receipt = .ok ()) :
      Step session (.committed id token receipt)
        { session.put id (round.commit receipt.balanceMinor) with
          pending := "", revision := round.terms.startRevision + 1, sequence := round.sequence
          balance := receipt.balanceMinor, feature := round.feature }
  | rejected (id : String) (round : RoundView) (token : Time)
      (leased : session.Leased id round token) :
      Step session (.rejected id token)
        ((session.put id (round.finish .rejected (some .failed))).release id)
  | reviewed (id : String) (round : RoundView) (token : Time)
      (leased : session.Leased id round token) :
      Step session (.reviewed id token)
        { (session.put id (round.finish .manualReview (some .unknown))).block with pending := id }
  | acknowledged (id : String) (round : RoundView) (found : session.rounds id = some round) :
      Step session (.acknowledged id) (session.put id { round with awaiting := false })
  | isolated (id : String) (round : RoundView) (money : Option TransactionStatus)
      (found : session.rounds id = some round) (open_ : round.status ≠ .committed)
      (doubted : round.IsolatedMoney money) (pending : String)
      (kept : pending = session.pending ∨ (round.Claimable ∧ pending = id)) :
      Step session (.isolated id)
        { (session.put id (round.finish .manualReview money)).block with pending := pending }
  | isolatedCommitted (id : String) (round : RoundView) (found : session.rounds id = some round)
      (final : round.status = .committed) :
      Step session (.isolated id) (session.put id (round.finish .committed round.money)).block
  | marked (id : String) (round : RoundView) (money : Option TransactionStatus)
      (found : session.rounds id = some round) (open_ : round.status ≠ .committed)
      (doubted : round.IsolatedMoney money) :
      Step session (.marked id)
        { (session.put id (round.finish .manualReview money)).block with pending := id }
  | blocked : Step session .blocked session.block
  | approved (id : String) (round : RoundView) (now : Time)
      (found : session.rounds id = some round) (waiting : round.status = .riskPending) :
      Step session (.approved id now) (session.put id (round.approve now))
  | riskRejected (id : String) (round : RoundView) (found : session.rounds id = some round)
      (waiting : round.status = .riskPending) :
      Step session (.riskRejected id)
        ((session.put id (round.finish .rejected (some .failed))).release id)
  | riskReviewed (id : String) (round : RoundView) (found : session.rounds id = some round)
      (waiting : round.status = .riskPending) :
      Step session (.riskReviewed id)
        (session.put id (round.finish .manualReview (some .failed))).block

/-- `MarkManualReview`, the one operation that may point a session at a round that
was not pending. -/
def Event.IsMark : Event → Prop
  | .marked _ => True
  | _ => False

end SlotsGame.Rgs
