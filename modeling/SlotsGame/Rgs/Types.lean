/-
# SlotsGame.Rgs.Types -- sessions, rounds and wallet commands

The data of the round coordination domain.  Instants and durations are
nanoseconds, and instant zero is the source's zero `time.Time`.  An empty string
is the absent value of an identifier, as in the source.  `uint64` and `int`
counters are natural numbers; the limits the code checks are in
`SlotsGame.Rgs.Validation`.
-/
import SlotsGame.Game.Types

namespace SlotsGame.Rgs

open SlotsGame.Game

set_option autoImplicit false

/-- `time.Time`; zero is `time.Time{}`. -/
abbrev Time := Int

/-- `time.Duration` -/
abbrev Duration := Int

/-- A string of the source that need not be text. -/
abbrev Bytes := List UInt8

namespace Duration

def microsecond : Duration := 1000
def second : Duration := 1000000000
def minute : Duration := 60 * second
def hour : Duration := 60 * minute

end Duration

/-! ## Errors -/

/-- The errors callers tell apart with `errors.Is`; `storage` is any other. -/
inductive ErrorKind
  | invalidRequest | sessionNotFound | sessionExists | sessionExpired | sessionTimeout
  | sessionIntegrity | roundNotFound | idempotencyConflict | revisionConflict | roundPending
  | resultDeliveryPending | resultDeliveryNotFound | resultDeliveryMismatch | roundRejected
  | manualReview | riskPending | riskDecisionConflict | walletPending | walletRejected
  | walletReceiptInvalid | walletUnavailable | economicRateLimited
  | economicAdmissionUnavailable | staleWalletClaim
  | storage
  deriving DecidableEq, Repr

/-- An error and what is wrapped around it. -/
structure RgsError where
  kind : ErrorKind
  detail : String := ""
  deriving DecidableEq, Repr

def invalidRequest (detail : String) : RgsError := { kind := .invalidRequest, detail := detail }

def manualReview (detail : String) : RgsError := { kind := .manualReview, detail := detail }

/-! ## Enumerations -/

inductive SessionStatus
  | active | blocked | closed | expired
  | other (name : String)
  deriving DecidableEq, Repr

inductive RoundKind
  | base | freeSpin | bonus
  | other (name : String)
  deriving DecidableEq, Repr

def RoundKind.name : RoundKind → String
  | base => "BASE"
  | freeSpin => "FREE_SPIN"
  | bonus => "BONUS"
  | other name => name

inductive RoundStatus
  | prepared | riskPending | walletPending | committed | rejected | manualReview
  | other (name : String)
  deriving DecidableEq, Repr

/-- `WalletRecoveryAction`; `unset` is the empty string. -/
inductive WalletRecoveryAction
  | unset | apply | lookup
  | other (name : String)
  deriving DecidableEq, Repr

def WalletRecoveryAction.Valid (action : WalletRecoveryAction) : Prop :=
  action = .apply ∨ action = .lookup

instance (action : WalletRecoveryAction) : Decidable action.Valid :=
  inferInstanceAs (Decidable (_ ∨ _))

/-- The status of a wallet ledger entry. -/
inductive TransactionStatus
  | pending | succeeded | failed | unknown | rolledBack
  deriving DecidableEq, Repr

/-- The kind of a wallet ledger entry; `unset` is the empty string. -/
inductive TransactionKind
  | unset | play | reserve | debit | settle | credit | rollback
  deriving DecidableEq, Repr

inductive ResolutionStatus
  | succeeded | rejectedFinal | pending | notFound | conflict | unknown | notSent
  | other (name : String)
  deriving DecidableEq, Repr

/-! ## Sessions and requests -/

structure Session where
  operatorID : String
  sessionID : String
  playerID : String
  walletAccountID : String
  walletSessionID : String
  gameID : String
  definitionVersion : String
  definitionHash : String
  currency : String
  currencyExponent : Int
  jurisdiction : String
  status : SessionStatus
  expiresAt : Time
  idleDisconnectAt : Time
  idleDisconnect : Duration
  transportGeneration : Nat
  serverTime : Time := 0
  balanceMinor : Int
  revision : Nat
  sequence : Nat
  feature : FeatureState
  pendingRoundID : String := ""
  deriving DecidableEq

structure SessionKey where
  operatorID : String
  sessionID : String
  deriving DecidableEq

def Session.key (session : Session) : SessionKey :=
  { operatorID := session.operatorID, sessionID := session.sessionID }

structure SpinRequest where
  operatorID : String
  sessionID : String
  roundID : String
  gameID : String
  definitionVersion : String
  definitionHash : String
  currency : String
  roundKind : RoundKind
  betMinor : Int
  startRevision : Nat
  transportGeneration : Nat
  deriving DecidableEq

structure RoundKey where
  operatorID : String
  sessionID : String
  roundID : String
  deriving DecidableEq

def RoundKey.session (key : RoundKey) : SessionKey :=
  { operatorID := key.operatorID, sessionID := key.sessionID }

def SpinRequest.key (request : SpinRequest) : RoundKey :=
  { operatorID := request.operatorID, sessionID := request.sessionID, roundID := request.roundID }

/-! ## Results and deliveries -/

/-- `ResultSchemaPaidFactsV1` -/
def resultSchemaPaidFactsV1 : String := "rgs-spin-result-paid-facts-v1"

structure SpinResult where
  resultSchemaVersion : String
  operatorID : String
  sessionID : String
  roundID : String
  gameID : String
  definitionVersion : String
  definitionHash : String
  currency : String
  roundKind : RoundKind
  serverTransactionID : String
  walletTransactionID : String
  startRevision : Nat
  endRevision : Nat
  sequence : Nat
  betMinor : Int
  chargedBetMinor : Int
  balanceMinor : Int
  totalWinMinor : Int
  idleDisconnectAt : Time
  grid : Grid
  wins : List Win
  events : List Event
  featureState : FeatureState
  deriving DecidableEq

structure ResultDelivery where
  operatorID : String
  sessionID : String
  roundID : String
  sequence : Nat
  resultHash : String
  result : SpinResult
  originFeatureState : FeatureState
  acknowledgedAt : Time := 0
  deriving DecidableEq

structure ResultDeliveryAcknowledgement where
  operatorID : String
  sessionID : String
  roundID : String
  sequence : Nat
  resultHash : String
  transportGeneration : Nat
  deriving DecidableEq

/-! ## The wallet -/

/-- One atomic economic instruction; `OperationRef` has the same fields. -/
structure WalletRound where
  operationID : String
  fingerprint : String
  operatorID : String
  playerID : String
  walletAccountID : String
  walletSessionRef : String
  sessionID : String
  roundID : String
  gameID : String
  definitionVersion : String
  definitionHash : String
  roundKind : RoundKind
  currency : String
  debitMinor : Int
  creditMinor : Int
  commandDigest : String := ""
  deriving DecidableEq

/-- The zero value of the source. -/
def WalletRound.zero : WalletRound :=
  { operationID := "", fingerprint := "", operatorID := "", playerID := "", walletAccountID := ""
    walletSessionRef := "", sessionID := "", roundID := "", gameID := "", definitionVersion := ""
    definitionHash := "", roundKind := .other "", currency := "", debitMinor := 0
    creditMinor := 0 }

structure WalletReceipt where
  operationID : String
  fingerprint : String
  transactionID : String
  operatorID : String
  currency : String
  debitMinor : Int
  creditMinor : Int
  balanceMinor : Int
  deriving DecidableEq

/-- `Receipt` is there when the wallet reports success; the diagnostic cause is
only told apart from others as an error kind. -/
structure Resolution where
  status : ResolutionStatus
  receipt : WalletReceipt
  code : String := ""
  cause : Option ErrorKind := none
  deriving DecidableEq

structure Capabilities where
  atomicRound : Bool
  lookupByOperation : Bool
  reapplySameOperationAfterNotFound : Bool
  notFoundConsistencyWindow : Duration
  explicitRollback : Bool
  requiresWalletSessionRef : Bool
  requiresCommandDigest : Bool
  returnsAuthoritativeBalance : Bool
  deriving DecidableEq

structure Profile where
  contractVersion : String
  profileID : String
  routeBindingID : String
  capabilities : Capabilities
  deriving DecidableEq

/-! ## Rounds and claims -/

structure RoundRecord where
  key : RoundKey
  fingerprint : String
  request : SpinRequest
  status : RoundStatus
  result : SpinResult
  inputFeatureState : FeatureState
  walletCommand : WalletRound
  walletProfile : Profile
  walletReceipt : Option WalletReceipt := none
  outcomeHash : String
  walletPhase : WalletRecoveryAction
  nextAttemptAt : Time := 0
  walletApplyAttempts : Int := 0
  walletLookupAttempts : Int := 0
  walletLeaseUntil : Time := 0
  failureReason : Bytes := []
  retryCount : Int := 0
  createdAt : Time
  updatedAt : Time
  deriving DecidableEq

/-- One right to call the wallet; `leaseUntil` is the fencing token. -/
structure WalletRecoveryClaim where
  record : RoundRecord
  action : WalletRecoveryAction := .unset
  leaseUntil : Time := 0
  deriving DecidableEq

structure WalletRecoveryDisposition where
  terminal : Bool := false
  nextAction : WalletRecoveryAction := .unset
  minimumDelay : Duration := 0
  nextAttemptAt : Time := 0
  applyNotSent : Bool := false
  deriving DecidableEq

/-- `PrepareOutcome`: the generator of a round's result, with the effects of
what it consults. -/
abbrev PrepareOutcome (ω : Type) := Session → ω → Except RgsError SpinResult × ω

end SlotsGame.Rgs
