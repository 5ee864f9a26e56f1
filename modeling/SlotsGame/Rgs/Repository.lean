/-
# SlotsGame.Rgs.Repository -- the calls a coordinator makes on its store

`Repository` and `RecoveryRepository` of the source are one interface here: a
call, the type of its reply, and a store that answers calls.  A store also reads
a clock and may leave choices to its surroundings (which rows another
transaction has locked); both come with the call, in the store's `Env`.

`ω` is whatever the outcome generator consults: random numbers, admission
budgets.  It is kept apart from the store, since a generator that fails has
still drawn.
-/
import SlotsGame.Rgs.Validation
import SlotsGame.Theory.Tables

namespace SlotsGame.Rgs

open SlotsGame.Theory

set_option autoImplicit false

variable {ω : Type}

/-- The readings of a clock during one call; none of them is the zero instant. -/
structure Clock where
  reading : Nat → Time
  positive : ∀ index, 0 < reading index

instance : CoeFun Clock fun _ => Nat → Time := ⟨Clock.reading⟩

inductive RepositoryCall (ω : Type)
  | createSession (session : Session)
  | getSession (key : SessionKey)
  | authorizeSessionRelaunch (key : SessionKey)
  | resetSessionTransport (key : SessionKey) (idleDisconnect : Duration)
  | authorizeSessionTransport (key : SessionKey) (transportGeneration : Nat)
      (allowIdleRecovery : Bool)
  | getRound (key : RoundKey)
  | getPendingResultDelivery (key : SessionKey)
  | acknowledgeResultDelivery (receipt : ResultDeliveryAcknowledgement)
  | prepareRound (request : SpinRequest) (fingerprint : String) (walletProfile : Profile)
      (prepare : PrepareOutcome ω)
  | claimWallet (key : RoundKey) (leaseDuration : Duration)
  | commitClaim (claim : WalletRecoveryClaim) (receipt : WalletReceipt)
  | rejectClaim (claim : WalletRecoveryClaim) (reason : Bytes)
  | markClaimManualReview (claim : WalletRecoveryClaim) (reason : Bytes)
  | markManualReview (key : RoundKey) (reason : Bytes)
  | claimRecoverableRounds (limit : Int) (leaseDuration : Duration)
  | scheduleWalletRecovery (claim : WalletRecoveryClaim) (disposition : WalletRecoveryDisposition)
      (jitterDelay : Duration)

/-- What a call answers when it does not fail. -/
def RepositoryCall.Reply : RepositoryCall ω → Type
  | createSession _ => Unit
  | getSession _ | authorizeSessionRelaunch _ | resetSessionTransport _ _
  | authorizeSessionTransport _ _ _ => Session
  | getRound _ => RoundRecord
  | getPendingResultDelivery _ => ResultDelivery
  | acknowledgeResultDelivery _ => ResultDelivery × Bool
  | prepareRound _ _ _ _ => RoundRecord × Bool
  | claimWallet _ _ => WalletRecoveryClaim × Bool
  | commitClaim _ _ | rejectClaim _ _ | markClaimManualReview _ _
  | markManualReview _ _ => RoundRecord × Bool
  | claimRecoverableRounds _ _ => List WalletRecoveryClaim
  | scheduleWalletRecovery _ _ _ => Bool

/-- A store: what it answers and what it becomes.  The generator's surroundings
are changed by `prepareRound` only. -/
structure Repository (ω : Type) where
  State : Type
  Env : Type
  run : Env → (call : RepositoryCall ω) → State → ω → Except RgsError call.Reply × State × ω

/-- `MaxWalletRecoveryClaimBatch` -/
def maxWalletRecoveryClaimBatch : Int := 256

/-- The checks `ScheduleWalletRecovery` makes on its arguments alone. -/
def validateWalletRecoverySchedule (claim : WalletRecoveryClaim)
    (disposition : WalletRecoveryDisposition) (jitterDelay : Duration) : Except RgsError Unit :=
  refuse (disposition.terminal = true ∨ validateWalletRecoveryDisposition disposition ≠ .ok () ∨
      jitterDelay < 0 ∨ jitterDelay > 24 * Duration.hour ∨ claim.leaseUntil = 0 ∨
      (disposition.applyNotSent = true ∧
        (claim.action ≠ .apply ∨ claim.record.walletApplyAttempts < 1)))
    { kind := .invalidRequest }

end SlotsGame.Rgs
