/-
# SlotsGame.Postgres.Schema -- the tables the durable store keeps its rounds in

One row type per table, under the columns' names, with the columns that some
statement reads.  A `timestamptz` column keeps microseconds (`stored`), a `jsonb`
column keeps the document of a value (`Document`), and a `text` column keeps no
zero byte and nothing that is not UTF-8 (`TextColumn`).

Foreign keys are not stated: every statement that inserts a row has its parent
locked.  The primary keys are the keys of the tables; the unique indexes and the
checks a statement may run into are guards of that statement.
-/
import SlotsGame.Rgs.Repository
import SlotsGame.Rgs.Risk

namespace SlotsGame.Postgres

open SlotsGame.Game SlotsGame.Rgs SlotsGame.Theory

set_option autoImplicit false

/-! ## Columns -/

/-- What a `timestamptz` column keeps of an instant. -/
def stored (instant : Time) : Time := instant / Duration.microsecond * Duration.microsecond

theorem stored_stored (instant : Time) : stored (stored instant) = stored instant := by
  unfold stored Duration.microsecond
  rw [Int.mul_ediv_cancel _ (by decide)]

theorem stored_le (instant : Time) : stored instant ≤ instant := by
  unfold stored Duration.microsecond
  exact Int.ediv_mul_le instant (by decide)

theorem stored_mono {left right : Time} (before : left ≤ right) : stored left ≤ stored right := by
  unfold stored Duration.microsecond
  exact Int.mul_le_mul_of_nonneg_right (Int.ediv_le_ediv (by decide) before) (by decide)

/-- A column that strict decoding reads: absent, refused by the decoder, or the
document of a value. -/
inductive Document (α : Type)
  | null
  | malformed
  | value (content : α)
  deriving DecidableEq

/-- The strict decoders: a document of exactly the known fields. -/
def Document.decode {α : Type} : Document α → Option α
  | value content => some content
  | _ => none

/-- `json.Marshal` of a result, which leaves its transport deadline out. -/
def marshalResult (result : SpinResult) : Document SpinResult :=
  .value { result with idleDisconnectAt := 0 }

/-- What a `text` column takes. -/
def TextColumn (bytes : Bytes) : Prop :=
  (ByteArray.mk bytes.toArray).validateUTF8 = true ∧ (0 : UInt8) ∉ bytes

instance (bytes : Bytes) : Decidable (TextColumn bytes) :=
  inferInstanceAs (Decidable (_ ∧ _))

/-! ## Rows -/

/-- `rgs_sessions`; the key of a row is not repeated in it. -/
structure SessionRow where
  playerID : String
  walletAccountID : String
  walletSessionID : String
  gameID : String
  definitionVersion : String
  definitionHash : String
  currency : String
  currencyExponent : Int
  jurisdiction : String
  status : SessionStatus
  balanceSnapshotMinor : Int
  sequence : Int
  revision : Int
  featureState : Document FeatureState
  pendingRoundID : Option String
  expiresAt : Time
  idleDisconnectSeconds : Int
  idleDisconnectAt : Time
  transportGeneration : Int
  integrityQuarantinedAt : Option Time
  deriving DecidableEq

/-- `rgs_rounds` -/
structure RoundRow where
  serverTransactionID : String
  requestFingerprint : String
  status : RoundStatus
  roundKind : RoundKind
  gameID : String
  definitionVersion : String
  definitionHash : String
  currency : String
  betMinor : Int
  inputFeatureState : Document FeatureState
  chargedMinor : Int
  winMinor : Int
  startingRevision : Int
  resultingRevision : Int
  sequence : Int
  resultJSON : Document SpinResult
  outcomeHash : String
  walletPhase : WalletRecoveryAction
  nextAttemptAt : Option Time
  applyAttempts : Int := 0
  lookupAttempts : Int := 0
  walletCommandDigest : Option String
  walletProfile : Document Profile
  walletTransactionID : Option String := none
  walletBalanceMinor : Option Int := none
  walletLeaseUntil : Option Time := none
  failureCode : Option Bytes := none
  retryCount : Int := 0
  createdAt : Time
  updatedAt : Time
  resultDeliveryRequired : Bool := false
  resultHash : Option String := none
  resultAcknowledgedAt : Option Time := none
  integrityQuarantinedAt : Option Time := none
  deriving DecidableEq

/-- `rgs_wallet_transactions` -/
structure WalletRow where
  sessionID : String
  roundID : String
  kind : TransactionKind
  status : TransactionStatus
  currency : String
  amountMinor : Int
  requestFingerprint : String
  deriving DecidableEq

/-- The status of a risk review. -/
inductive ReviewStatus
  | pending | approved | rejected | expiredRejected | expiredManualReview
  | other (name : String)
  deriving DecidableEq, Repr

/-- `rgs_risk_reviews` -/
structure ReviewRow where
  policyVersion : String
  thresholdMinor : Int
  payoutMinor : Int
  summaryHash : String
  expiryPolicy : RiskExpiryPolicy
  status : ReviewStatus
  expiresAt : Time
  decision : Option RiskDecision := none
  reasonCode : Option String := none
  requestID : Option String := none
  idempotencyKey : Option String := none
  credentialKeyID : Option String := none
  decisionFingerprint : Option String := none
  decidedAt : Option Time := none
  createdAt : Time
  deriving DecidableEq

/-! ## The database -/

/-- The key of a ledger entry. -/
structure TransactionKey where
  operatorID : String
  transactionID : String
  deriving DecidableEq

structure Database where
  sessions : Table SessionKey SessionRow
  rounds : Table RoundKey RoundRow
  walletTransactions : Table TransactionKey WalletRow
  riskReviews : Table RoundKey ReviewRow
  /-- `rgs_wallet_recovery_operators`: when a batch last claimed for an operator,
  nothing before the first. -/
  recoveryOperators : Table String (Option Time)

def Database.empty : Database :=
  { sessions := ∅, rounds := ∅, walletTransactions := ∅, riskReviews := ∅, recoveryOperators := ∅ }

/-- The ledger entry of a round. -/
def RoundRow.transaction (row : RoundRow) (key : RoundKey) : TransactionKey :=
  { operatorID := key.operatorID, transactionID := row.serverTransactionID }

/-- A committed round that is not acknowledged. -/
def RoundRow.DeliveryPending (row : RoundRow) : Prop :=
  row.status = .committed ∧ row.resultDeliveryRequired = true ∧ row.resultAcknowledgedAt = none

instance (row : RoundRow) : Decidable row.DeliveryPending :=
  inferInstanceAs (Decidable (_ ∧ _))

/-- A delivery of the session is not acknowledged yet. -/
def Database.DeliveryPending (database : Database) (key : SessionKey) : Prop :=
  ∃ round ∈ database.rounds.rows, round.1.session = key ∧ round.2.DeliveryPending

instance (database : Database) (key : SessionKey) : Decidable (database.DeliveryPending key) :=
  inferInstanceAs (Decidable (∃ round ∈ database.rounds.rows, _))

/-! ## Writing rows -/

def Database.putSession (database : Database) (key : SessionKey) (row : SessionRow) : Database :=
  { database with sessions := database.sessions.insert key row }

def Database.putRound (database : Database) (key : RoundKey) (row : RoundRow) : Database :=
  { database with rounds := database.rounds.insert key row }

def Database.putTransaction (database : Database) (key : TransactionKey) (row : WalletRow) :
    Database :=
  { database with walletTransactions := database.walletTransactions.insert key row }

def Database.putReview (database : Database) (key : RoundKey) (row : ReviewRow) : Database :=
  { database with riskReviews := database.riskReviews.insert key row }

end SlotsGame.Postgres
