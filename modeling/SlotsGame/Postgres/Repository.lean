/-
# SlotsGame.Postgres.Repository -- the durable store

Every call is one READ COMMITTED transaction that holds the lock of its session's
row from its first statement that matters, so a call is one step here.  An
`UPDATE` that finds no row under its conditions is an error of its caller, as in
the source.

A transaction that meets a row it does not trust writes the quarantine of that
row, commits it and then fails; `Abort.committed` is that way to end.
-/
import SlotsGame.Rgs.Records
import SlotsGame.Postgres.Scan

namespace SlotsGame.Postgres

open SlotsGame.Game SlotsGame.Rgs SlotsGame.Theory

set_option autoImplicit false

variable {ω α : Type}

def storageError (detail : String) : RgsError := { kind := .storage, detail := detail }

/-! ## Quarantine -/

def persistedRoundIntegrityFailure : Bytes :=
  "persisted round integrity validation failed".toUTF8.toList

/-- `quarantineCorruptSession` marks a session once and changes nothing else. -/
def Database.quarantineCorruptSession (database : Database) (key : SessionKey) (now : Time) :
    Database :=
  match database.sessions.lookup key with
  | none => database
  | some row =>
      if row.integrityQuarantinedAt ≠ none then database
      else database.putSession key
        { row with status := .blocked, integrityQuarantinedAt := some (stored now) }

/-- `lockSession`, with the quarantine of a session that cannot be read. -/
def Database.lockSessionOrQuarantine (database : Database) (key : SessionKey) (now : Time) :
    Except (Abort Database RgsError) Session :=
  match database.lockSession key with
  | .ok session => .ok session
  | .error error =>
      if error.kind = .sessionIntegrity then
        .error (.committed sessionIntegrity (database.quarantineCorruptSession key now))
      else .error (.rolledBack error)

/-- The few facts known of a round that is quarantined; every other field is zero. -/
def quarantinedRecord (key : RoundKey) (status : RoundStatus) (reason : Bytes) (updatedAt : Time) :
    RoundRecord :=
  { key := key, fingerprint := ""
    request :=
      { operatorID := "", sessionID := "", roundID := "", gameID := "", definitionVersion := ""
        definitionHash := "", currency := "", roundKind := .other "", betMinor := 0
        startRevision := 0, transportGeneration := 0 }
    status := status
    result :=
      { resultSchemaVersion := "", operatorID := "", sessionID := "", roundID := "", gameID := ""
        definitionVersion := "", definitionHash := "", currency := "", roundKind := .other ""
        serverTransactionID := "", walletTransactionID := "", startRevision := 0
        endRevision := 0, sequence := 0, betMinor := 0, chargedBetMinor := 0, balanceMinor := 0
        totalWinMinor := 0, idleDisconnectAt := 0, grid := [], wins := [], events := []
        featureState := { mode := .unset } }
    inputFeatureState := { mode := .unset }, walletCommand := .zero
    walletProfile :=
      { contractVersion := "", profileID := "", routeBindingID := ""
        capabilities :=
          { atomicRound := false, lookupByOperation := false
            reapplySameOperationAfterNotFound := false, notFoundConsistencyWindow := 0
            explicitRollback := false, requiresWalletSessionRef := false
            requiresCommandDigest := false, returnsAuthoritativeBalance := false } }
    outcomeHash := "", walletPhase := .unset, failureReason := reason
    createdAt := 0, updatedAt := updatedAt }

/-- The money of a round in this status has moved for good. -/
def economicallyFinal (status : RoundStatus) : Prop :=
  status = .committed ∨ status = .other "ROLLED_BACK"

instance (status : RoundStatus) : Decidable (economicallyFinal status) :=
  inferInstanceAs (Decidable (_ ∨ _))

def RoundRow.quarantined (row : RoundRow) (reason : Bytes) (now : Time) : RoundRow :=
  { row with
    status := if economicallyFinal row.status then row.status else .manualReview
    failureCode := some reason, walletPhase := .unset, nextAttemptAt := none
    walletLeaseUntil := none, updatedAt := stored now, integrityQuarantinedAt := some (stored now) }

/-- A pending ledger entry takes `status`. -/
def WalletRow.settle (row : WalletRow) (status : TransactionStatus) : WalletRow :=
  if row.status = .pending then { row with status := status } else row

/-- An `UPDATE` of one ledger entry by its key. -/
def Database.updateTransaction (database : Database) (key : TransactionKey)
    (change : WalletRow → WalletRow) : Database :=
  match database.walletTransactions.lookup key with
  | none => database
  | some row => database.putTransaction key (change row)

def Database.blockSession (database : Database) (key : SessionKey) : Database :=
  match database.sessions.lookup key with
  | none => database
  | some row => database.putSession key { row with status := .blocked }

/-- The reason that is written: within its bound, and never empty. -/
def quarantineReason (reason : Bytes) : Bytes :=
  if boundedReason reason = [] then persistedRoundIntegrityFailure else boundedReason reason

/-- `quarantineCorruptRound` isolates a round without reading its result; a round
in which money has moved keeps its status. -/
def Database.quarantineCorruptRound (database : Database) (key : RoundKey) (reason : Bytes)
    (now : Time) : Except (Abort Database RgsError) ((RoundRecord × Bool) × Database) := do
  let row ← require (database.rounds.lookup key) { kind := .roundNotFound }
  let reason := quarantineReason reason
  if row.integrityQuarantinedAt ≠ none then
    return ((quarantinedRecord key row.status reason 0, false), database)
  else
    abortWhen (¬ TextColumn reason) (storageError "postgres repository: quarantine round update")
    let recorded := database.putRound key (row.quarantined reason now)
    let settled :=
      if economicallyFinal row.status then recorded
      else recorded.updateTransaction (row.transaction key) fun entry =>
        entry.settle (if row.status = .riskPending then .failed else .unknown)
    return ((quarantinedRecord key (row.quarantined reason now).status reason now,
      ¬ economicallyFinal row.status ∧ row.status ≠ .manualReview),
      settled.blockSession key.session)

/-- The quarantine of a round commits, and the call that met the round fails. -/
def Database.failQuarantined (database : Database) (key : RoundKey) (reason : Bytes) (now : Time) :
    Except (Abort Database RgsError) α :=
  match database.quarantineCorruptRound key reason now with
  | .ok (_, quarantined) => .error (.committed corruptRound quarantined)
  | .error _ => .error (.rolledBack corruptRound)

/-- `quarantineWalletClaimIntegrity`: every open ledger entry of the round is in
doubt. -/
def Database.quarantineWalletClaimIntegrity (database : Database) (key : RoundKey) (now : Time) :
    Except (Abort Database RgsError) α :=
  Database.failQuarantined
    { database with
      walletTransactions := database.walletTransactions.update fun transaction entry =>
        if transaction.operatorID = key.operatorID ∧ entry.sessionID = key.sessionID ∧
            entry.roundID = key.roundID then
          entry.settle .unknown
        else entry }
    key persistedWalletLedgerIntegrityFailure now

/-- `lockRound`, with the quarantine of a round that cannot be read. -/
def Database.lockRoundOrQuarantine (codec : Codec) (database : Database) (key : RoundKey)
    (reason : Bytes) (now : Time) : Except (Abort Database RgsError) RoundRecord :=
  match database.lockRound codec key with
  | .ok record => .ok record
  | .error error =>
      if error.kind = .manualReview then database.failQuarantined key reason now
      else .error (.rolledBack error)

/-! ## Sessions -/

/-- The row of a new session. -/
def sessionRow (session : Session) : SessionRow :=
  { playerID := session.playerID, walletAccountID := session.walletAccountID
    walletSessionID := session.walletSessionID, gameID := session.gameID
    definitionVersion := session.definitionVersion, definitionHash := session.definitionHash
    currency := session.currency, currencyExponent := session.currencyExponent
    jurisdiction := session.jurisdiction, status := session.status
    balanceSnapshotMinor := session.balanceMinor, sequence := session.sequence
    revision := session.revision, featureState := .value session.feature, pendingRoundID := none
    expiresAt := stored session.expiresAt
    idleDisconnectSeconds := session.idleDisconnect / Duration.second
    idleDisconnectAt := stored session.idleDisconnectAt
    transportGeneration := session.transportGeneration, integrityQuarantinedAt := none }

def Database.createSession (database : Database) (session : Session) :
    Except (Abort Database RgsError) (Unit × Database) := do
  check (validateSession session)
  abortWhen (session.pendingRoundID ≠ "") { kind := .invalidRequest }
  abortWhen (database.sessions.lookup session.key ≠ none ∨
      ∃ entry ∈ database.sessions.rows, entry.1.operatorID = session.operatorID ∧
        entry.2.walletSessionID = session.walletSessionID)
    { kind := .sessionExists }
  return ((), database.putSession session.key (sessionRow session))

def Database.getSession (database : Database) (key : SessionKey) (now : Time) :
    Except (Abort Database RgsError) (Session × Database) := do
  let session ← database.lockSessionOrQuarantine key now
  return (session, database)

/-- The lifetime of a session that has not been read for a transaction. -/
def authorizeLifetime (session : Session) (now : Time) : Except RgsError Unit := do
  refuse (session.status = .blocked) { kind := .manualReview }
  refuse (session.status ≠ .active ∨ session.expiresAt ≤ now) { kind := .sessionExpired }

def Database.authorizeSessionRelaunch (database : Database) (key : SessionKey) (now : Time) :
    Except RgsError Session := do
  let session ← database.lockSession key
  authorizeLifetime session now
  return { session with serverTime := now }

def validateResetIdleDisconnect (idleDisconnect : Duration) : Except RgsError Unit :=
  refuse (idleDisconnect < Duration.second ∨ idleDisconnect > 24 * Duration.hour ∨
      idleDisconnect % Duration.second ≠ 0)
    { kind := .invalidRequest }

def Database.resetSessionTransport (database : Database) (key : SessionKey)
    (idleDisconnect : Duration) (now : Time) :
    Except (Abort Database RgsError) (Session × Database) := do
  check (validateResetIdleDisconnect idleDisconnect)
  let session ← check (database.lockSession key)
  check (authorizeLifetime session now)
  abortWhen (session.transportGeneration ≥ maxStateRevision) { kind := .invalidRequest }
  let deadline :=
    if now + idleDisconnect > session.expiresAt then session.expiresAt else now + idleDisconnect
  let row ← require (database.sessions.lookup key) { kind := .sessionTimeout }
  abortWhen (row.transportGeneration ≠ session.transportGeneration) { kind := .sessionTimeout }
  let reset :=
    { session with
      idleDisconnect := idleDisconnect, idleDisconnectAt := deadline
      transportGeneration := session.transportGeneration + 1, serverTime := now }
  return (reset, database.putSession key
    { row with
      idleDisconnectSeconds := idleDisconnect / Duration.second
      idleDisconnectAt := stored deadline, transportGeneration := row.transportGeneration + 1 })

def Database.authorizeSessionTransport (database : Database) (key : SessionKey)
    (transportGeneration : Nat) (allowIdleRecovery : Bool) (now : Time) :
    Except RgsError Session := do
  refuse (transportGeneration = 0 ∨ transportGeneration > maxStateRevision)
    { kind := .sessionTimeout }
  let session ← database.lockSession key
  refuse (session.transportGeneration ≠ transportGeneration) { kind := .sessionTimeout }
  authorizeLifetime session now
  refuse (allowIdleRecovery = false ∧ session.idleDisconnectAt ≤ now) { kind := .sessionTimeout }
  return { session with serverTime := now }

/-! ## Deliveries -/

def Database.getRound (codec : Codec) (database : Database) (key : RoundKey) (now : Time) :
    Except (Abort Database RgsError) (RoundRecord × Database) :=
  match database.lockRound codec key with
  | .ok record => .ok (record, database)
  | .error error =>
      if error.kind = .sessionIntegrity then
        .error (.committed sessionIntegrity (database.quarantineCorruptSession key.session now))
      else .error (.rolledBack error)

def committedDeliveryFailure : Bytes :=
  "committed result delivery integrity validation failed".toUTF8.toList

def committedAcknowledgementFailure : Bytes :=
  "committed result acknowledgement integrity validation failed".toUTF8.toList

/-- The delivery of a record that is committed. -/
def deliveryOf (record : RoundRecord) (resultHash : String) (acknowledgedAt : Time) :
    ResultDelivery :=
  { operatorID := record.key.operatorID, sessionID := record.key.sessionID
    roundID := record.key.roundID, sequence := record.result.sequence, resultHash := resultHash
    result := record.result, originFeatureState := record.inputFeatureState
    acknowledgedAt := acknowledgedAt }

/-- The committed round of a session that is not acknowledged. -/
def Database.pendingDelivery (database : Database) (key : SessionKey) :
    Option (RoundKey × RoundRow) :=
  database.rounds.rows.find? fun round => round.1.session = key ∧ round.2.DeliveryPending

def Database.getPendingResultDelivery (codec : Codec) (database : Database) (key : SessionKey)
    (now : Time) : Except (Abort Database RgsError) (ResultDelivery × Database) :=
  match database.pendingDelivery key with
  | none => do
      let _ ← database.getSession key now
      throw (.rolledBack { kind := .resultDeliveryNotFound })
  | some (roundKey, row) => do
      abortWhen (row.sequence < 1 ∨ row.sequence.toNat > maxClientSequence) corruptRound
      let (record, database) ← database.getRound codec roundKey now
      if committedResultHashFor codec record.result ≠ .ok (row.resultHash.getD "") ∨
          record.status ≠ .committed ∨ (record.result.sequence : Int) ≠ row.sequence then
        match database.lockSession key with
        | .ok _ => database.failQuarantined roundKey committedDeliveryFailure now
        | .error _ => throw (.rolledBack corruptRound)
      else return (deliveryOf record (row.resultHash.getD "") 0, database)

def Database.acknowledgeResultDelivery (codec : Codec) (database : Database)
    (receipt : ResultDeliveryAcknowledgement) (now : Time) :
    Except (Abort Database RgsError) ((ResultDelivery × Bool) × Database) := do
  check (validateResultDeliveryAcknowledgement receipt)
  let key : RoundKey := ⟨receipt.operatorID, receipt.sessionID, receipt.roundID⟩
  let session ← check (database.lockSession key.session)
  abortWhen (receipt.transportGeneration ≠ session.transportGeneration) { kind := .sessionTimeout }
  let record ← database.lockRoundOrQuarantine codec key committedAcknowledgementFailure now
  abortWhen (record.status ≠ .committed) { kind := .resultDeliveryNotFound }
  let row ← require (database.rounds.lookup key) { kind := .resultDeliveryNotFound }
  if committedResultHashFor codec record.result ≠ .ok (row.resultHash.getD "") then
    database.failQuarantined key committedAcknowledgementFailure now
  else
    abortWhen (row.resultDeliveryRequired = false) { kind := .resultDeliveryNotFound }
    abortWhen (record.result.sequence ≠ receipt.sequence ∨
        row.resultHash.getD "" ≠ receipt.resultHash)
      { kind := .resultDeliveryMismatch }
    match row.resultAcknowledgedAt with
    | some acknowledgedAt =>
        return ((deliveryOf record receipt.resultHash acknowledgedAt, false), database)
    | none =>
        return ((deliveryOf record receipt.resultHash now, true),
          database.putRound key { row with resultAcknowledgedAt := some (stored now) })

/-! ## Preparing a round -/

/-- The arguments of `PrepareRound`; the generator is never nil here. -/
def validatePrepareArguments (codec : Codec) (request : SpinRequest) (fingerprint : String)
    (walletProfile : Profile) : Except RgsError Unit := do
  validateSpinRequest request
  refuse (fingerprint ≠ fingerprintFor codec request ∨ ¬ SupportedSettlementProfile walletProfile)
    { kind := .invalidRequest }

def validateBinding (session : Session) (request : SpinRequest) (databaseNow : Time) :
    Except RgsError Unit := do
  refuse (session.operatorID ≠ request.operatorID ∨ session.sessionID ≠ request.sessionID)
    { kind := .sessionNotFound }
  refuse (session.gameID ≠ request.gameID ∨
      session.definitionVersion ≠ request.definitionVersion ∨
      session.definitionHash ≠ request.definitionHash ∨ session.currency ≠ request.currency)
    { kind := .invalidRequest }
  refuse (session.status = .blocked) { kind := .manualReview }
  refuse (session.status ≠ .active) { kind := .invalidRequest }
  refuse (databaseNow = 0 ∨ session.expiresAt ≤ databaseNow) { kind := .sessionExpired }
  refuse (session.transportGeneration ≠ request.transportGeneration ∨
      session.idleDisconnectAt ≤ databaseNow)
    { kind := .sessionTimeout }
  refuse (session.revision ≠ request.startRevision) { kind := .revisionConflict }
  refuse (request.roundKind ≠ expectedRoundKind session.feature) { kind := .invalidRequest }
  refuse (session.sequence ≥ maxClientSequence ∨ session.revision ≥ maxStateRevision)
    { kind := .invalidRequest }

def validatePrepared (session : Session) (request : SpinRequest) (result : SpinResult) :
    Except RgsError Unit := do
  refuse (result.resultSchemaVersion ≠ resultSchemaPaidFactsV1 ∨
      result.operatorID ≠ request.operatorID ∨ result.sessionID ≠ request.sessionID ∨
      result.roundID ≠ request.roundID ∨ result.gameID ≠ request.gameID ∨
      result.definitionVersion ≠ request.definitionVersion ∨
      result.definitionHash ≠ request.definitionHash ∨ result.currency ≠ request.currency ∨
      result.roundKind ≠ request.roundKind ∨ result.startRevision ≠ request.startRevision ∨
      result.endRevision ≠ 0 ∨ result.sequence ≠ session.sequence + 1 ∨
      result.betMinor ≠ request.betMinor ∨ result.serverTransactionID = "" ∨
      result.walletTransactionID ≠ "" ∨ result.balanceMinor ≠ 0 ∨ result.chargedBetMinor < 0 ∨
      result.totalWinMinor < 0)
    { kind := .invalidRequest }
  refuse (request.roundKind = .base ∧ result.chargedBetMinor ≠ request.betMinor)
    { kind := .invalidRequest }
  refuse (request.roundKind = .freeSpin ∧ result.chargedBetMinor ≠ 0) { kind := .invalidRequest }

/-- What `PrepareRound` finds before it calls the generator. -/
inductive Admission
  | replay (record : RoundRecord)
  | fresh (session : Session)

def Database.admitRound (codec : Codec) (database : Database) (request : SpinRequest)
    (fingerprint : String) (now podNow : Time) : Except (Abort Database RgsError) Admission := do
  let session ← database.lockSessionOrQuarantine request.key.session podNow
  match database.lockRound codec request.key with
  | .ok existing =>
      abortWhen (existing.fingerprint ≠ fingerprint) { kind := .idempotencyConflict }
      return .replay existing
  | .error error =>
      if error.kind = .manualReview then
        database.failQuarantined request.key persistedRoundIntegrityFailure podNow
      else
        abortWhen (error.kind ≠ .roundNotFound) error
        abortWhen (database.DeliveryPending request.key.session) { kind := .resultDeliveryPending }
        check (validateBinding session request now)
        abortWhen (session.pendingRoundID ≠ "")
          { kind := .roundPending, detail := session.pendingRoundID }
        return .fresh session

/-- The command of a prepared result. -/
def preparedCommand (codec : Codec) (session : Session) (request : SpinRequest)
    (fingerprint : String) (result : SpinResult) : WalletRound :=
  walletCommandFor codec session request fingerprint result.serverTransactionID result

/-- The record a round is prepared with; one that the policy holds back waits
for its review. -/
def preparedRecord (codec : Codec) (session : Session) (request : SpinRequest)
    (fingerprint : String) (walletProfile : Profile) (result : SpinResult) (outcomeHash : String)
    (held : Bool) (now : Time) : RoundRecord :=
  { key := request.key, fingerprint := fingerprint, request := request
    status := if held then .riskPending else .prepared
    result := result, inputFeatureState := session.feature, outcomeHash := outcomeHash
    walletCommand := preparedCommand codec session request fingerprint result
    walletProfile := walletProfile, walletPhase := if held then .unset else .apply
    nextAttemptAt := if held then 0 else now, createdAt := now, updatedAt := now }

/-- The row the two prepare statements insert. -/
def preparedRow (record : RoundRecord) : RoundRow :=
  { serverTransactionID := record.result.serverTransactionID
    requestFingerprint := record.fingerprint, status := record.status
    roundKind := record.request.roundKind, gameID := record.request.gameID
    definitionVersion := record.request.definitionVersion
    definitionHash := record.request.definitionHash, currency := record.request.currency
    betMinor := record.request.betMinor, inputFeatureState := .value record.inputFeatureState
    chargedMinor := record.result.chargedBetMinor, winMinor := record.result.totalWinMinor
    startingRevision := record.request.startRevision
    resultingRevision := record.request.startRevision + 1, sequence := record.result.sequence
    resultJSON := marshalResult record.result, outcomeHash := record.outcomeHash
    walletPhase := record.walletPhase
    nextAttemptAt := if record.status = .riskPending then none else some (stored record.createdAt)
    walletCommandDigest := some record.walletCommand.commandDigest
    walletProfile := .value record.walletProfile
    createdAt := stored record.createdAt, updatedAt := stored record.createdAt }

/-- The ledger entry of a prepared record. -/
def preparedTransaction (record : RoundRecord) : WalletRow :=
  { sessionID := record.request.sessionID, roundID := record.request.roundID, kind := .play
    status := .pending, currency := record.request.currency
    amountMinor := record.result.chargedBetMinor, requestFingerprint := record.fingerprint }

/-- The review of a round that is held back. -/
def preparedReview (assessment : RiskAssessment) (now : Time) : ReviewRow :=
  { policyVersion := assessment.policyVersion, thresholdMinor := assessment.thresholdMinor
    payoutMinor := assessment.payoutMinor, summaryHash := assessment.summaryHash
    expiryPolicy := assessment.expiryPolicy, status := .pending
    expiresAt := stored assessment.expiresAt, createdAt := stored now }

/-- The registry row of an operator, if it has none yet. -/
def Database.registerRecoveryOperator (database : Database) (operatorID : String) : Database :=
  match database.recoveryOperators.lookup operatorID with
  | some _ => database
  | none =>
      { database with recoveryOperators := database.recoveryOperators.insert operatorID none }

/-- The session's row while the round is pending. -/
def SessionRow.prepared (row : SessionRow) (roundID : String) (now : Time) : SessionRow :=
  { row with
    pendingRoundID := some roundID
    idleDisconnectAt := min row.expiresAt (now + row.idleDisconnectSeconds * Duration.second) }

/-- `prepareRoundWriteSQL` and `prepareRiskRoundWriteSQL`: all of the bundle or
nothing. -/
def Database.writePrepared (database : Database) (record : RoundRecord)
    (assessment : Option RiskAssessment) (now : Time) :
    Except (Abort Database RgsError) Database := do
  let row := preparedRow record
  abortWhen (Text.identifierPattern row.serverTransactionID = false)
    (storageError "postgres repository: persist prepared round bundle")
  abortWhen (database.rounds.lookup record.key ≠ none ∨
      (∃ round ∈ database.rounds.rows, round.1.operatorID = record.key.operatorID ∧
        round.2.serverTransactionID = row.serverTransactionID) ∨
      database.walletTransactions.lookup (row.transaction record.key) ≠ none)
    { kind := .roundPending }
  let owner ← require (database.sessions.lookup record.key.session) { kind := .revisionConflict }
  abortWhen (owner.revision ≠ record.request.startRevision ∨ owner.pendingRoundID ≠ none)
    { kind := .revisionConflict }
  let bundle := ((database.putRound record.key row).putTransaction (row.transaction record.key)
    (preparedTransaction record)).putSession record.key.session
      (owner.prepared record.key.roundID now)
  match assessment with
  | none => return bundle.registerRecoveryOperator record.key.operatorID
  | some assessment => return bundle.putReview record.key (preparedReview assessment now)

def Database.persistRound (codec : Codec) (riskCodec : RiskCodec) (policy : HighValueRiskPolicy)
    (database : Database) (session : Session) (request : SpinRequest) (fingerprint : String)
    (walletProfile : Profile) (prepared : SpinResult) (now : Time) :
    Except (Abort Database RgsError) ((RoundRecord × Bool) × Database) := do
  check (validatePrepared session request prepared)
  let result := { prepared with idleDisconnectAt := session.renewedIdleDisconnectAt now }
  let outcomeHash ← check (preparedOutcomeHashFor codec result)
  let assessment ← check (policy.assess codec riskCodec result now)
  let record := preparedRecord codec session request fingerprint walletProfile result outcomeHash
    assessment.isSome now
  let written ← database.writePrepared record assessment now
  return ((record, true), written)

/-! ## Claiming the wallet -/

/-- The columns `claimWalletLocked` writes for the action of a claim. -/
def RoundRow.claimed (row : RoundRow) (action : WalletRecoveryAction) (record : RoundRecord) :
    RoundRow :=
  { row with
    status := .walletPending, walletPhase := record.walletPhase
    nextAttemptAt := some (stored record.walletLeaseUntil)
    walletLeaseUntil := some (stored record.walletLeaseUntil)
    applyAttempts := row.applyAttempts + if action = .apply then 1 else 0
    lookupAttempts := row.lookupAttempts + if action = .apply then 0 else 1
    retryCount := row.retryCount + if action = .apply then 1 else 0
    updatedAt := stored record.updatedAt }

def Database.claimWalletLocked (database : Database) (session : Session) (record : RoundRecord)
    (databaseNow : Time) (leaseDuration : Duration) :
    Except (Abort Database RgsError) ((WalletRecoveryClaim × Bool) × Database) :=
  if record.status ≠ .prepared ∧ record.status ≠ .walletPending then
    .ok (({ record := record }, false), database)
  else if session.status ≠ .active ∨ ¬ record.walletPhase.Valid ∨
      record.nextAttemptAt > databaseNow ∨ record.walletLeaseUntil > databaseNow then
    .ok (({ record := record }, false), database)
  else do
    abortWhen (session.pendingRoundID ≠ record.key.roundID ∨
      session.revision ≠ record.request.startRevision) corruptRound
    let claimed := claimedRecord record databaseNow (databaseNow + leaseDuration)
    let row ← require (database.rounds.lookup record.key) { kind := .revisionConflict }
    return (({ record := claimed, action := record.walletPhase
               leaseUntil := claimed.walletLeaseUntil }, true),
      database.putRound record.key (row.claimed record.walletPhase claimed))

def validateLease (leaseDuration : Duration) : Except RgsError Unit :=
  refuse (leaseDuration ≤ 0 ∨ leaseDuration > 24 * Duration.hour) { kind := .invalidRequest }

/-- The ledger of a claimable round is the one its claim relies on. -/
def Database.lockClaimLedger (codec : Codec) (database : Database) (session : Session)
    (record : RoundRecord) (podNow : Time) : Except (Abort Database RgsError) Unit :=
  match lockAndValidateWalletClaimLedger codec database session record with
  | .ok () => .ok ()
  | .error _ => database.quarantineWalletClaimIntegrity record.key podNow

def Database.claimWallet (codec : Codec) (database : Database) (key : RoundKey)
    (leaseDuration : Duration) (databaseNow podNow : Time) :
    Except (Abort Database RgsError) ((WalletRecoveryClaim × Bool) × Database) := do
  check (validateLease leaseDuration)
  let session ← database.lockSessionOrQuarantine key.session podNow
  let record ← database.lockRoundOrQuarantine codec key persistedRoundIntegrityFailure podNow
  if record.status = .prepared ∨ record.status = .walletPending then
    database.lockClaimLedger codec session record podNow
    database.claimWalletLocked session record databaseNow leaseDuration
  else database.claimWalletLocked session record databaseNow leaseDuration

/-! ## Completing a claim -/

/-- The columns of a round that a commit writes. -/
def RoundRow.committed (row : RoundRow) (record : RoundRecord) (receipt : WalletReceipt)
    (resultHash : String) (now : Time) : RoundRow :=
  { row with
    status := .committed, resultJSON := marshalResult record.result
    walletTransactionID := some receipt.transactionID
    walletBalanceMinor := some receipt.balanceMinor, walletPhase := .unset, nextAttemptAt := none
    walletLeaseUntil := none, updatedAt := stored now, resultDeliveryRequired := true
    resultHash := some resultHash, resultAcknowledgedAt := none }

/-- The columns of a session that a commit writes. -/
def SessionRow.committed (row : SessionRow) (record : RoundRecord) (receipt : WalletReceipt) :
    SessionRow :=
  { row with
    balanceSnapshotMinor := receipt.balanceMinor, sequence := record.result.sequence
    revision := record.result.endRevision, featureState := .value record.result.featureState
    pendingRoundID := none }

/-- The `WHERE` of a completion: the row is claimable and leased under the claim. -/
def RoundRow.LeasedTo (row : RoundRow) (claim : WalletRecoveryClaim) : Prop :=
  (row.status = .prepared ∨ row.status = .walletPending) ∧
    row.walletLeaseUntil = some (stored claim.leaseUntil)

instance (row : RoundRow) (claim : WalletRecoveryClaim) : Decidable (row.LeasedTo claim) :=
  inferInstanceAs (Decidable (_ ∧ _))

/-- An open ledger entry. -/
def WalletRow.Open (row : WalletRow) : Prop :=
  row.status = .pending ∨ row.status = .unknown

instance (row : WalletRow) : Decidable row.Open :=
  inferInstanceAs (Decidable (_ ∨ _))

/-- The three rows a completion updates: the round's, still leased; the ledger's,
still open; and the session's, at the round's revision and waiting for it. -/
structure Completion where
  round : RoundRow
  transaction : TransactionKey
  entry : WalletRow
  owner : SessionRow

def Database.lockCompletion (database : Database) (claim : WalletRecoveryClaim)
    (record : RoundRecord) : Except (Abort Database RgsError) Completion := do
  let key := claim.record.key
  let row ← require (database.rounds.lookup key) { kind := .staleWalletClaim }
  abortWhen (¬ row.LeasedTo claim) { kind := .staleWalletClaim }
  let transaction : TransactionKey := ⟨key.operatorID, record.result.serverTransactionID⟩
  let entry ← require (database.walletTransactions.lookup transaction) corruptRound
  abortWhen (¬ entry.Open) corruptRound
  let owner ← require (database.sessions.lookup key.session) { kind := .revisionConflict }
  abortWhen (owner.revision ≠ record.request.startRevision ∨
      owner.pendingRoundID ≠ some key.roundID)
    { kind := .revisionConflict }
  return { round := row, transaction := transaction, entry := entry, owner := owner }

/-- The `UPDATE`s of a completion. -/
def Database.complete (database : Database) (key : RoundKey) (rows : Completion) (round : RoundRow)
    (money : TransactionStatus) (owner : SessionRow) : Database :=
  ((database.putRound key round).putTransaction rows.transaction
    { rows.entry with status := money }).putSession key.session owner

def Database.commitClaim (codec : Codec) (database : Database) (claim : WalletRecoveryClaim)
    (receipt : WalletReceipt) (podNow : Time) :
    Except (Abort Database RgsError) ((RoundRecord × Bool) × Database) := do
  let key := claim.record.key
  let session ← database.lockSessionOrQuarantine key.session podNow
  let record ← check (database.lockRound codec key)
  abortWhen (¬ OwnsWalletClaim record claim) { kind := .staleWalletClaim }
  check (validateWalletReceipt record.walletCommand receipt)
  abortWhen (session.pendingRoundID ≠ key.roundID ∨
    session.revision ≠ record.request.startRevision) corruptRound
  abortWhen (record.request.startRevision ≥ maxStateRevision) corruptRound
  let committed := committedRecord record receipt podNow
  let resultHash ← check (committedResultHashFor codec committed.result)
  let rows ← database.lockCompletion claim committed
  -- rgs_rounds_one_pending_result_delivery
  abortWhen (database.DeliveryPending key.session)
    (storageError "postgres repository: commit round record")
  return ((committed, true),
    database.complete key rows (rows.round.committed committed receipt resultHash podNow)
      .succeeded (rows.owner.committed committed receipt))

/-- The columns of a round that a failure writes. -/
def RoundRow.failed (row : RoundRow) (record : RoundRecord) (now : Time) : RoundRow :=
  { row with
    status := record.status, failureCode := some record.failureReason, walletPhase := .unset
    nextAttemptAt := none, walletLeaseUntil := none, updatedAt := stored now }

def Database.transitionClaimFailure (codec : Codec) (database : Database)
    (claim : WalletRecoveryClaim) (target : RoundStatus) (reason : Bytes) (clearPending : Bool)
    (podNow : Time) : Except (Abort Database RgsError) ((RoundRecord × Bool) × Database) := do
  let key := claim.record.key
  let session ← database.lockSessionOrQuarantine key.session podNow
  match database.lockRound codec key with
  | .error error =>
      if target = .manualReview ∧ error.kind = .manualReview then
        database.quarantineCorruptRound key reason podNow
      else throw (.rolledBack error)
  | .ok record => do
      abortWhen (¬ OwnsWalletClaim record claim) { kind := .staleWalletClaim }
      if record.status = target then return ((record, false), database)
      else
        abortWhen (record.status = .committed) corruptRound
        abortWhen (record.status = .manualReview ∧ target ≠ .manualReview) corruptRound
        abortWhen (session.pendingRoundID ≠ key.roundID ∨
            session.revision ≠ record.request.startRevision)
          { kind := .revisionConflict }
        abortWhen (¬ TextColumn (boundedReason reason))
          (storageError "postgres repository: failure round update")
        let failed := reviewedRecord record target reason podNow
        let rows ← database.lockCompletion claim failed
        return ((failed, true),
          database.complete key rows (rows.round.failed failed podNow)
            (if target = .manualReview then .unknown else .failed)
            (if clearPending then { rows.owner with pendingRoundID := none }
              else { rows.owner with status := .blocked }))

def Database.markManualReview (database : Database) (key : RoundKey) (reason : Bytes)
    (podNow : Time) : Except (Abort Database RgsError) ((RoundRecord × Bool) × Database) := do
  let _ ← database.lockSessionOrQuarantine key.session podNow
  database.quarantineCorruptRound key reason podNow

/-! ## Recovery -/

/-- A duration in whole microseconds, rounded up. -/
def delayMicros (delay : Duration) : Int :=
  delay / Duration.microsecond + if delay % Duration.microsecond ≠ 0 then 1 else 0

/-- The columns `scheduleWalletRecoverySQL` writes, at two readings of the clock. -/
def RoundRow.scheduled (row : RoundRow) (disposition : WalletRecoveryDisposition)
    (jitterDelay : Duration) (now updatedAt : Time) : RoundRow :=
  let effectiveDelay :=
    if disposition.minimumDelay > jitterDelay then disposition.minimumDelay else jitterDelay
  let earliest := now + delayMicros effectiveDelay * Duration.microsecond
  { row with
    walletPhase := disposition.nextAction
    nextAttemptAt :=
      some (if disposition.nextAttemptAt ≠ 0 then max earliest (stored disposition.nextAttemptAt)
        else earliest)
    walletLeaseUntil := none
    applyAttempts := row.applyAttempts - if disposition.applyNotSent then 1 else 0
    updatedAt := updatedAt }

def Database.scheduleWalletRecovery (database : Database) (claim : WalletRecoveryClaim)
    (disposition : WalletRecoveryDisposition) (jitterDelay : Duration) (now updatedAt : Time) :
    Except (Abort Database RgsError) (Bool × Database) := do
  check (validateWalletRecoverySchedule claim disposition jitterDelay)
  let key := claim.record.key
  match database.rounds.lookup key with
  | none => return (false, database)
  | some row =>
      if row.LeasedTo claim ∧ (disposition.applyNotSent = false ∨ row.applyAttempts > 0) then
        return (true, database.putRound key
          (row.scheduled disposition jitterDelay now updatedAt))
      else return (false, database)

/-- A round that the candidate statement may claim. -/
structure RecoveryCandidate where
  key : RoundKey
  row : RoundRow
  lastClaimedAt : Option Time

def recoverableRow (row : RoundRow) (owner : SessionRow) (key : RoundKey) (now : Time) : Prop :=
  (row.status = .prepared ∨ row.status = .walletPending) ∧ row.walletPhase.Valid ∧
    (∃ next ∈ row.nextAttemptAt, next ≤ now) ∧ (∀ lease ∈ row.walletLeaseUntil, lease ≤ now) ∧
    owner.status = .active ∧ owner.integrityQuarantinedAt = none ∧
    owner.pendingRoundID = some key.roundID ∧ owner.revision = row.startingRevision

instance (row : RoundRow) (owner : SessionRow) (key : RoundKey) (now : Time) :
    Decidable (recoverableRow row owner key now) :=
  inferInstanceAs (Decidable (_ ∧ _))

/-- `row_number() OVER (PARTITION BY operator_id ORDER BY ...)`; one operator. -/
def RecoveryCandidate.before (left right : RecoveryCandidate) : Bool :=
  if left.row.nextAttemptAt ≠ right.row.nextAttemptAt then
    left.row.nextAttemptAt.getD 0 < right.row.nextAttemptAt.getD 0
  else if left.row.updatedAt ≠ right.row.updatedAt then left.row.updatedAt < right.row.updatedAt
  else if left.key.sessionID ≠ right.key.sessionID then left.key.sessionID < right.key.sessionID
  else left.key.roundID ≤ right.key.roundID

/-- An operator that was never claimed for comes first (`-infinity`). -/
def claimedBefore (left right : Option Time) : Bool :=
  match left, right with
  | none, _ => true
  | some _, none => false
  | some left, some right => left < right

/-- The order of the candidate statement. -/
def rankedBefore (left right : Nat × RecoveryCandidate) : Bool :=
  if left.1 ≠ right.1 then left.1 < right.1
  else if left.2.lastClaimedAt ≠ right.2.lastClaimedAt then
    claimedBefore left.2.lastClaimedAt right.2.lastClaimedAt
  else if left.2.row.nextAttemptAt ≠ right.2.row.nextAttemptAt then
    left.2.row.nextAttemptAt.getD 0 < right.2.row.nextAttemptAt.getD 0
  else if left.2.key.operatorID ≠ right.2.key.operatorID then
    left.2.key.operatorID < right.2.key.operatorID
  else RecoveryCandidate.before left.2 right.2

def Database.recoverableRounds (database : Database) (now : Time) : List RecoveryCandidate :=
  database.rounds.rows.filterMap fun (key, row) =>
    match database.sessions.lookup key.session, database.recoveryOperators.lookup key.operatorID with
    | some owner, some lastClaimedAt =>
        if recoverableRow row owner key now then
          some { key := key, row := row, lastClaimedAt := lastClaimedAt }
        else none
    | _, _ => none

/-- The candidates of one operator in their order, counted from one. -/
def rankCandidates (candidates : List RecoveryCandidate) (operatorID : String) :
    List (Nat × RecoveryCandidate) :=
  (((candidates.filter fun candidate => candidate.key.operatorID = operatorID).mergeSort
    RecoveryCandidate.before).zipIdx 1).map fun (candidate, rank) => (rank, candidate)

/-- `recoverableRoundClaimSQL`: rows that another transaction has locked are
passed over before the limit counts. -/
def Database.recoverableRoundKeys (database : Database) (now : Time) (limit : Nat)
    (locked : SessionKey → Bool) (lockedOperator : String → Bool) : List RoundKey :=
  let candidates := database.recoverableRounds now
  let operators := (candidates.map fun candidate => candidate.key.operatorID).dedup
  let ranked := (operators.flatMap (rankCandidates candidates)).mergeSort rankedBefore
  ((ranked.map fun (_, candidate) => candidate.key).filter fun key =>
    !locked key.session && !lockedOperator key.operatorID).take limit

/-- A candidate that is locked and read back. -/
def Database.lockCandidate (codec : Codec) (database : Database) (podNow : Time) (key : RoundKey) :
    Except (Abort Database RgsError) (Session × RoundRecord) := do
  let session ← database.lockSessionOrQuarantine key.session podNow
  let record ← database.lockRoundOrQuarantine codec key persistedRoundIntegrityFailure podNow
  database.lockClaimLedger codec session record podNow
  return (session, record)

def claimCandidate (databaseNow : Time) (leaseDuration : Duration)
    (claimed : List WalletRecoveryClaim × Database) (candidate : Session × RoundRecord) :
    Except (Abort Database RgsError) (List WalletRecoveryClaim × Database) := do
  let ((claim, granted), database) ←
    claimed.2.claimWalletLocked candidate.1 candidate.2 databaseNow leaseDuration
  return (if granted then claimed.1 ++ [claim] else claimed.1, database)

/-- `touchRecoveryOperatorSQL` for every operator of the batch. -/
def Database.touchRecoveryOperators (database : Database) (claims : List WalletRecoveryClaim)
    (databaseNow : Time) : Database :=
  { database with
    recoveryOperators := database.recoveryOperators.update fun operatorID lastClaimedAt =>
      if ∃ claim ∈ claims, claim.record.key.operatorID = operatorID then some databaseNow
      else lastClaimedAt }

def validateRecoveryBatch (limit : Int) (leaseDuration : Duration) : Except RgsError Unit :=
  refuse (limit < 1 ∨ limit > maxWalletRecoveryClaimBatch ∨ leaseDuration ≤ 0 ∨
      leaseDuration > 24 * Duration.hour)
    { kind := .invalidRequest }

/-- `keys` is what the candidate statement returned and locked. -/
def Database.claimRecoverableRounds (codec : Codec) (database : Database) (limit : Int)
    (leaseDuration : Duration) (keys : List RoundKey) (databaseNow podNow : Time) :
    Except (Abort Database RgsError) ((List WalletRecoveryClaim) × Database) := do
  check (validateRecoveryBatch limit leaseDuration)
  let candidates ← keys.mapM (database.lockCandidate codec podNow)
  let (claims, claimed) ← candidates.foldlM (claimCandidate databaseNow leaseDuration) ([], database)
  return (claims, claimed.touchRecoveryOperators claims databaseNow)

/-! ## The calls -/

/-- How the connection may fail a transaction: before it runs, before it commits,
or after it committed. -/
inductive Fault
  | refused | rolledBack | unanswered
  deriving DecidableEq

/-- The surroundings of a call: the clock of the database, which reads whole
microseconds, and the clock of the caller; which rows other transactions have
locked; what the candidate statement saw, when a transaction committed while it
ran; and whether the connection fails. -/
structure Env where
  database : Clock
  whole : ∀ index, stored (database index) = database index
  pod : Clock
  locked : SessionKey → Bool := fun _ => false
  lockedOperator : String → Bool := fun _ => false
  seen : Option Database := none
  fault : Option Fault := none

def Env.deliver (env : Env) (before : Database × ω) (ran : Except RgsError α × Database × ω) :
    Except RgsError α × Database × ω :=
  match env.fault, ran with
  | none, ran => ran
  | some .refused, _ => (.error (storageError "begin"), before)
  | some .rolledBack, (_, _, world) => (.error (storageError "rollback"), before.1, world)
  | some .unanswered, (_, after) => (.error (storageError "commit"), after)

/-- A transaction that consults nothing but the database. -/
def Database.transact (database : Database) (world : ω) (transaction :
    Except (Abort Database RgsError) (α × Database)) :
    Except RgsError α × Database × ω :=
  ((settle database transaction).1, (settle database transaction).2, world)

/-- A statement that only reads. -/
def Database.read (database : Database) (world : ω) (reply : Except RgsError α) :
    Except RgsError α × Database × ω :=
  (reply, database, world)

/-- The parameters of a store. -/
structure Settings where
  codec : Codec
  riskCodec : RiskCodec
  riskPolicy : HighValueRiskPolicy

/-- `PrepareRound`.  The generator runs at most once, after every check that does
not need its result. -/
def Database.prepareRound (settings : Settings) (database : Database) (request : SpinRequest)
    (fingerprint : String) (walletProfile : Profile) (prepare : PrepareOutcome ω)
    (now podNow : Time) (world : ω) : Except RgsError (RoundRecord × Bool) × Database × ω :=
  match validatePrepareArguments settings.codec request fingerprint walletProfile with
  | .error error => (.error error, database, world)
  | .ok () =>
      match database.admitRound settings.codec request fingerprint now podNow with
      | .error (.rolledBack error) => (.error error, database, world)
      | .error (.committed error after) => (.error error, after, world)
      | .ok (.replay record) => (.ok (record, false), database, world)
      | .ok (.fresh session) =>
          let (prepared, world) := prepare session world
          match prepared with
          | .error error => (.error error, database, world)
          | .ok result =>
              database.transact world <|
                database.persistRound settings.codec settings.riskCodec settings.riskPolicy session
                  request fingerprint walletProfile result now

/-- A call, when the connection does not fail. -/
def Database.execute (settings : Settings) (env : Env) :
    (call : RepositoryCall ω) → Database → ω → Except RgsError call.Reply × Database × ω
  | .createSession session, database, world =>
      database.transact world (database.createSession session)
  | .getSession key, database, world =>
      database.transact world (database.getSession key (env.pod 0))
  | .authorizeSessionRelaunch key, database, world =>
      database.read world (database.authorizeSessionRelaunch key (env.database 0))
  | .resetSessionTransport key idleDisconnect, database, world =>
      database.transact world (database.resetSessionTransport key idleDisconnect (env.database 0))
  | .authorizeSessionTransport key transportGeneration allowIdleRecovery, database, world =>
      database.read world
        (database.authorizeSessionTransport key transportGeneration allowIdleRecovery
          (env.database 0))
  | .getRound key, database, world =>
      database.transact world (database.getRound settings.codec key (env.pod 0))
  | .getPendingResultDelivery key, database, world =>
      database.transact world (database.getPendingResultDelivery settings.codec key (env.pod 0))
  | .acknowledgeResultDelivery receipt, database, world =>
      database.transact world
        (database.acknowledgeResultDelivery settings.codec receipt (env.pod 0))
  | .prepareRound request fingerprint walletProfile prepare, database, world =>
      database.prepareRound settings request fingerprint walletProfile prepare (env.database 0)
        (env.pod 0) world
  | .claimWallet key leaseDuration, database, world =>
      database.transact world
        (database.claimWallet settings.codec key leaseDuration (env.database 0) (env.pod 0))
  | .commitClaim claim receipt, database, world =>
      database.transact world (database.commitClaim settings.codec claim receipt (env.pod 0))
  | .rejectClaim claim reason, database, world =>
      database.transact world
        (database.transitionClaimFailure settings.codec claim .rejected reason true (env.pod 0))
  | .markClaimManualReview claim reason, database, world =>
      database.transact world
        (database.transitionClaimFailure settings.codec claim .manualReview reason false (env.pod 0))
  | .markManualReview key reason, database, world =>
      database.transact world (database.markManualReview key reason (env.pod 0))
  | .claimRecoverableRounds limit leaseDuration, database, world =>
      let keys := (env.seen.getD database).recoverableRoundKeys (env.database 0) limit.toNat
        env.locked env.lockedOperator
      database.transact world
        (database.claimRecoverableRounds settings.codec limit leaseDuration keys (env.database 1)
          (env.pod 0))
  | .scheduleWalletRecovery claim disposition jitterDelay, database, world =>
      database.transact world
        (database.scheduleWalletRecovery claim disposition jitterDelay (env.database 0)
          (env.database 1))

/-- The durable store. -/
def postgresRepository (settings : Settings) : Repository ω where
  State := Database
  Env := Env
  run env call database world :=
    env.deliver (database, world) (database.execute settings env call world)

end SlotsGame.Postgres
