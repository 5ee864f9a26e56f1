/-
# SlotsGame.Postgres.Scan -- reading rows back

A row is trusted only after every check here: `scanSession` and `scanRound` turn
rows into the domain's sessions and records, or say that the row is not one the
server wrote (`sessionIntegrity`, `manualReview`).  What they do not store they
make up: the transport generation of a request and the deadline of a result.
-/
import SlotsGame.Game.Outcome
import SlotsGame.Postgres.Schema

namespace SlotsGame.Postgres

open SlotsGame.Game SlotsGame.Rgs SlotsGame.Theory

set_option autoImplicit false

def sessionIntegrity : RgsError := { kind := .sessionIntegrity }

def corruptRound : RgsError := { kind := .manualReview }

/-! ## Sessions -/

/-- The document of a column that must hold one. -/
def decodeColumn {α : Type} (column : Document α) (error : RgsError) : Except RgsError α :=
  match column.decode with
  | some content => .ok content
  | none => .error error

@[simp] theorem decodeColumn_ok {α : Type} {column : Document α} {error : RgsError} {content : α} :
    decodeColumn column error = .ok content ↔ column = .value content := by
  unfold decodeColumn Document.decode
  cases column <;> simp

/-- A check whose own error is replaced. -/
def checkOr (checked : Except RgsError Unit) (error : RgsError) : Except RgsError Unit :=
  refuse (checked ≠ .ok ()) error

@[simp] theorem checkOr_ok {checked : Except RgsError Unit} {error : RgsError} {u : Unit} :
    checkOr checked error = .ok u ↔ checked = .ok () := by
  simp [checkOr]

/-- The columns of a session as the domain names them. -/
def SessionRow.session (row : SessionRow) (key : SessionKey) (feature : FeatureState) : Session :=
  { operatorID := key.operatorID, sessionID := key.sessionID, playerID := row.playerID
    walletAccountID := row.walletAccountID, walletSessionID := row.walletSessionID
    gameID := row.gameID, definitionVersion := row.definitionVersion
    definitionHash := row.definitionHash, currency := row.currency
    currencyExponent := row.currencyExponent, jurisdiction := row.jurisdiction
    status := row.status, expiresAt := row.expiresAt, idleDisconnectAt := row.idleDisconnectAt
    idleDisconnect := row.idleDisconnectSeconds * Duration.second
    transportGeneration := row.transportGeneration.toNat
    balanceMinor := row.balanceSnapshotMinor, revision := row.revision.toNat
    sequence := row.sequence.toNat, feature := feature
    pendingRoundID := row.pendingRoundID.getD "" }

def scanSession (key : SessionKey) (row : SessionRow) : Except RgsError Session := do
  refuse (row.integrityQuarantinedAt ≠ none) sessionIntegrity
  refuse (row.sequence < 0 ∨ row.revision < 0 ∨ row.idleDisconnectSeconds < 1 ∨
      row.idleDisconnectSeconds > 86400 ∨ row.transportGeneration < 1 ∨
      row.sequence.toNat > maxClientSequence ∨ row.transportGeneration.toNat > maxStateRevision)
    sessionIntegrity
  let feature ← decodeColumn row.featureState sessionIntegrity
  checkOr (validateSession (row.session key feature)) sessionIntegrity
  return row.session key feature

/-- `lockSession`: the locked row of a session, read back. -/
def Database.lockSession (database : Database) (key : SessionKey) : Except RgsError Session :=
  match database.sessions.lookup key with
  | none => .error { kind := .sessionNotFound }
  | some row => scanSession key row

/-! ## Rounds -/

def validateRoundInputFeature (feature : FeatureState) (request : SpinRequest) :
    Except RgsError Unit := do
  refuse (feature.rageLevel < defaultRageLevel ∨ feature.rageLevel > maxRageCollected ∨
      feature.rageCollected < 0 ∨ feature.rageCollected > maxRageCollected ∨
      (feature.rageCollected = 0 ∧ feature.rageLevel ≠ defaultRageLevel)) corruptRound
  if feature.active = false then
    refuse ((feature.mode ≠ .unset ∧ feature.mode ≠ .none) ∨ feature.remaining ≠ 0 ∨
        feature.awarded ≠ 0 ∨ feature.betMinor ≠ 0 ∨ feature.winMinor ≠ 0 ∨
        request.roundKind ≠ .base) corruptRound
  else
    refuse ((feature.mode ≠ .expansion ∧ feature.mode ≠ .overdrive) ∨ feature.remaining < 1 ∨
        feature.awarded < feature.remaining ∨ feature.remaining > maxFeatureSpins ∨
        feature.awarded > maxFeatureSpins ∨ feature.betMinor ≠ request.betMinor ∨
        feature.winMinor < 0 ∨ request.roundKind ≠ .freeSpin) corruptRound

/-- `NormalizePersistedSpinResult`: a result of the first schema was paid its
nominal amounts. -/
def normalizePersistedSpinResult (result : SpinResult) : Except RgsError SpinResult :=
  if result.resultSchemaVersion = "" then
    .ok { result with
      wins := result.wins.map fun win =>
        { win with
          paidAmountMinor := win.amountMinor
          pathAwards := win.pathAwards.map fun award =>
            { award with paidAmountMinor := award.amountMinor } } }
  else if result.resultSchemaVersion = resultSchemaPaidFactsV1 then .ok result
  else .error { kind := .storage, detail := "rgs: unsupported persisted result schema" }

/-- The spin a result is the outcome of. -/
def outcomeOf (result : SpinResult) (winMinor : Int) : SpinOutcome :=
  { grid := result.grid, wins := result.wins, events := result.events, totalWinMinor := winMinor
    nextFeature := result.featureState }

/-- The request a row was prepared for; the transport generation is not stored. -/
def RoundRow.request (row : RoundRow) (key : RoundKey) : SpinRequest :=
  { operatorID := key.operatorID, sessionID := key.sessionID, roundID := key.roundID
    gameID := row.gameID, definitionVersion := row.definitionVersion
    definitionHash := row.definitionHash, currency := row.currency, roundKind := row.roundKind
    betMinor := row.betMinor, startRevision := row.startingRevision.toNat
    transportGeneration := 1 }

/-- The statuses of a session that has rounds. -/
def knownSessionStatus (status : SessionStatus) : Prop :=
  status = .active ∨ status = .blocked ∨ status = .closed ∨ status = .expired

instance (status : SessionStatus) : Decidable (knownSessionStatus status) :=
  inferInstanceAs (Decidable (_ ∨ _))

/-- The wallet profile of a row; a row without one has the zero profile. -/
def scanWalletProfile (column : Document Profile) : Except RgsError Profile :=
  match column with
  | .null =>
      .ok
        { contractVersion := "", profileID := "", routeBindingID := ""
          capabilities :=
            { atomicRound := false, lookupByOperation := false
              reapplySameOperationAfterNotFound := false, notFoundConsistencyWindow := 0
              explicitRollback := false, requiresWalletSessionRef := false
              requiresCommandDigest := false, returnsAuthoritativeBalance := false } }
  | column => do
      let profile ← decodeColumn column corruptRound
      checkOr (validateProfile profile) corruptRound
      return profile

/-- The columns of a row that do not depend on its result. -/
def checkRoundColumns (row : RoundRow) (profile : Profile) : Except RgsError Unit :=
  refuse (row.retryCount < 0 ∨ row.applyAttempts < 0 ∨ row.lookupAttempts < 0 ∨
      ((row.status = .prepared ∨ row.status = .walletPending) ∧
        (¬ row.walletPhase.Valid ∨ row.nextAttemptAt.getD 0 = 0 ∨
          ¬ SupportedSettlementProfile profile)) ∨
      (row.status = .riskPending ∧
        (row.walletPhase ≠ .unset ∨ row.nextAttemptAt.getD 0 ≠ 0 ∨
          ¬ SupportedSettlementProfile profile))) corruptRound

/-- The result of a row is the one its columns describe. -/
def checkResultColumns (row : RoundRow) (request : SpinRequest) (result : SpinResult) :
    Except RgsError Unit := do
  refuse (result.operatorID ≠ request.operatorID ∨ result.sessionID ≠ request.sessionID ∨
      result.roundID ≠ request.roundID ∨ result.gameID ≠ request.gameID ∨
      result.definitionVersion ≠ request.definitionVersion ∨
      result.definitionHash ≠ request.definitionHash ∨ result.currency ≠ request.currency ∨
      result.roundKind ≠ request.roundKind ∨ result.startRevision ≠ request.startRevision ∨
      (result.sequence : Int) ≠ row.sequence ∨
      result.serverTransactionID ≠ row.serverTransactionID ∨ result.betMinor ≠ row.betMinor ∨
      result.chargedBetMinor ≠ row.chargedMinor ∨ result.totalWinMinor ≠ row.winMinor)
    corruptRound
  refuse (request.roundKind = .base ∧ row.chargedMinor ≠ row.betMinor) corruptRound
  refuse (request.roundKind = .freeSpin ∧ row.chargedMinor ≠ 0) corruptRound

/-- A committed row has its receipt, and no other row has one. -/
def checkReceiptColumns (row : RoundRow) (result : SpinResult) : Except RgsError Unit :=
  match row.status with
  | .committed =>
      refuse ((result.endRevision : Int) ≠ row.resultingRevision ∨
          row.walletTransactionID = none ∨ row.walletBalanceMinor = none ∨
          result.walletTransactionID ≠ row.walletTransactionID.getD "" ∨
          result.balanceMinor ≠ row.walletBalanceMinor.getD 0 ∨
          row.walletTransactionID = some "" ∨ row.walletBalanceMinor.getD 0 < 0) corruptRound
  | .prepared | .riskPending | .walletPending | .rejected | .manualReview =>
      refuse (result.endRevision ≠ 0 ∨ result.walletTransactionID ≠ "" ∨ result.balanceMinor ≠ 0 ∨
          row.walletTransactionID ≠ none ∨ row.walletBalanceMinor ≠ none) corruptRound
  | .other _ => .error corruptRound

/-- The command of a row, out of its session's wallet identity and its result. -/
def RoundRow.command (codec : Codec) (row : RoundRow) (owner : SessionRow) (request : SpinRequest)
    (result : SpinResult) : WalletRound :=
  let command : WalletRound :=
    { operationID := row.serverTransactionID, fingerprint := row.requestFingerprint
      operatorID := request.operatorID, playerID := owner.playerID
      walletAccountID := owner.walletAccountID, walletSessionRef := owner.walletSessionID
      sessionID := request.sessionID, roundID := request.roundID, gameID := request.gameID
      definitionVersion := request.definitionVersion, definitionHash := request.definitionHash
      roundKind := request.roundKind, currency := request.currency
      debitMinor := result.chargedBetMinor, creditMinor := result.totalWinMinor }
  { command with commandDigest := commandDigestFor codec command }

def checkCommandColumns (codec : Codec) (row : RoundRow) (command : WalletRound) :
    Except RgsError Unit := do
  refuse ((row.status = .prepared ∨ row.status = .riskPending ∨ row.status = .walletPending) ∧
    row.walletCommandDigest = none) corruptRound
  refuse (∃ digest ∈ row.walletCommandDigest, digest ≠ command.commandDigest) corruptRound
  checkOr (validateWalletCommand codec command) corruptRound

/-- The receipt of a row, when both its columns are there. -/
def RoundRow.receipt (row : RoundRow) (command : WalletRound) : Option WalletReceipt :=
  match row.walletTransactionID, row.walletBalanceMinor with
  | some transactionID, some balanceMinor =>
      some
        { operationID := command.operationID, fingerprint := command.fingerprint
          transactionID := transactionID, operatorID := command.operatorID
          currency := command.currency, debitMinor := command.debitMinor
          creditMinor := command.creditMinor, balanceMinor := balanceMinor }
  | _, _ => none

/-- The record a row spells out. -/
def RoundRow.record (row : RoundRow) (key : RoundKey) (profile : Profile) (feature : FeatureState)
    (result : SpinResult) (command : WalletRound) : RoundRecord :=
  { key := key, fingerprint := row.requestFingerprint, request := row.request key
    status := row.status, result := result, inputFeatureState := feature
    walletCommand := command, walletProfile := profile, walletReceipt := row.receipt command
    outcomeHash := row.outcomeHash, walletPhase := row.walletPhase
    nextAttemptAt := row.nextAttemptAt.getD 0, walletApplyAttempts := row.applyAttempts
    walletLookupAttempts := row.lookupAttempts, walletLeaseUntil := row.walletLeaseUntil.getD 0
    failureReason := row.failureCode.getD [], retryCount := row.retryCount
    createdAt := row.createdAt, updatedAt := row.updatedAt }

def scanRound (codec : Codec) (key : RoundKey) (row : RoundRow) (owner : SessionRow) :
    Except RgsError RoundRecord := do
  refuse (owner.integrityQuarantinedAt ≠ none) sessionIntegrity
  refuse (¬ knownSessionStatus owner.status) sessionIntegrity
  refuse (row.startingRevision < 0 ∨ row.startingRevision ≥ maxStateRevision ∨
      row.resultingRevision ≠ row.startingRevision + 1 ∨ row.sequence < 1 ∨
      row.sequence.toNat > maxClientSequence ∨ row.betMinor ≤ 0 ∨ row.chargedMinor < 0 ∨
      row.winMinor < 0) corruptRound
  let profile ← scanWalletProfile row.walletProfile
  checkRoundColumns row profile
  let request := row.request key
  checkOr (validateSpinRequest request) corruptRound
  refuse (row.requestFingerprint ≠ fingerprintFor codec request) corruptRound
  let feature ← decodeColumn row.inputFeatureState corruptRound
  checkOr (validateRoundInputFeature feature request) corruptRound
  let decoded ← decodeColumn row.resultJSON corruptRound
  let result ← (normalizePersistedSpinResult decoded).mapError fun _ => corruptRound
  checkResultColumns row request result
  refuse (validateOutcomeStructure { betMinor := row.betMinor, feature := feature }
    (outcomeOf result row.winMinor) ≠ .ok ()) corruptRound
  refuse (preparedOutcomeHashFor codec result ≠ .ok row.outcomeHash) corruptRound
  checkReceiptColumns row result
  let command := row.command codec owner request result
  checkCommandColumns codec row command
  return row.record key profile feature result command

/-- `lockRound`: the locked row of a round with its session's, read back. -/
def Database.lockRound (codec : Codec) (database : Database) (key : RoundKey) :
    Except RgsError RoundRecord :=
  match database.rounds.lookup key, database.sessions.lookup key.session with
  | some row, some owner => scanRound codec key row owner
  | _, _ => .error { kind := .roundNotFound }

/-- The ledger entries of a round. -/
def Database.ledger (database : Database) (key : RoundKey) : List (TransactionKey × WalletRow) :=
  database.walletTransactions.rows.filter fun entry =>
    entry.1.operatorID = key.operatorID ∧ entry.2.sessionID = key.sessionID ∧
      entry.2.roundID = key.roundID

/-- The one entry a claim relies on: the play of the command, still open. -/
def WalletRow.Claims (command : WalletRound) (entry : TransactionKey × WalletRow) : Prop :=
  entry.1.operatorID = command.operatorID ∧ entry.1.transactionID = command.operationID ∧
    entry.2.sessionID = command.sessionID ∧ entry.2.roundID = command.roundID ∧
    entry.2.kind = .play ∧ (entry.2.status = .pending ∨ entry.2.status = .unknown) ∧
    entry.2.currency = command.currency ∧ entry.2.amountMinor = command.debitMinor ∧
    entry.2.requestFingerprint = command.fingerprint

instance (command : WalletRound) (entry : TransactionKey × WalletRow) :
    Decidable (WalletRow.Claims command entry) :=
  inferInstanceAs (Decidable (_ ∧ _))

def lockAndValidateWalletClaimLedger (codec : Codec) (database : Database) (session : Session)
    (record : RoundRecord) : Except RgsError Unit := do
  validateWalletRecoveryRecord codec session record
  let ledger := database.ledger record.key
  refuse (ledger.length ≠ 1 ∨ ∃ entry ∈ ledger.head?, ¬ WalletRow.Claims record.walletCommand entry)
    { kind := .manualReview }

end SlotsGame.Postgres
