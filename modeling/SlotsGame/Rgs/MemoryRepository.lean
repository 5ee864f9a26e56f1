/-
# SlotsGame.Rgs.MemoryRepository -- the reference store

The in-memory implementation of the repository contract.  Its lock is one per
session and every call holds it from first to last, so a call is one step here.
Sessions are keyed by the pair of operator and session: the source joins the two
with a zero byte, which no valid identifier contains.

Two calls write before they fail: a claim whose persisted data does not add up
isolates the round first, and only then reports manual review.
-/
import SlotsGame.Rgs.Records

namespace SlotsGame.Rgs

open SlotsGame.Theory

set_option autoImplicit false

variable {ω : Type}

/-! ## State -/

structure MemoryWalletTransaction where
  command : WalletRound
  kind : TransactionKind
  status : TransactionStatus
  deriving DecidableEq

/-- One session with its rounds, its wallet ledger and its deliveries. -/
structure MemorySession where
  session : Session
  rounds : Table String RoundRecord
  walletTransactions : Table String MemoryWalletTransaction
  deliveries : Table String ResultDelivery

structure MemoryRepository where
  sessions : Table SessionKey MemorySession

/-- `NewMemoryRepository` -/
def newMemoryRepository : MemoryRepository := { sessions := ∅ }

/-- The entry of a new session. -/
def MemorySession.create (session : Session) : MemorySession :=
  { session := session, rounds := ∅, walletTransactions := ∅, deliveries := ∅ }

def MemorySession.putRound (entry : MemorySession) (record : RoundRecord) : MemorySession :=
  { entry with rounds := entry.rounds.insert record.key.roundID record }

def MemorySession.putTransaction (entry : MemorySession) (operationID : String)
    (transaction : MemoryWalletTransaction) : MemorySession :=
  { entry with walletTransactions := entry.walletTransactions.insert operationID transaction }

/-- Write the status of an operation; an absent entry reads as the zero value. -/
def MemorySession.setTransactionStatus (entry : MemorySession) (operationID : String)
    (status : TransactionStatus) : MemorySession :=
  let transaction := (entry.walletTransactions.lookup operationID).getD
    { command := .zero, kind := .unset, status := status }
  entry.putTransaction operationID { transaction with status := status }

/-- The entries of a round that were still pending become unknown. -/
def MemorySession.doubtTransactions (entry : MemorySession) (roundID : String) : MemorySession :=
  { entry with
    walletTransactions := entry.walletTransactions.update fun _ transaction =>
      if transaction.command.roundID = roundID ∧ transaction.status = .pending then
        { transaction with status := .unknown }
      else transaction }

/-- A delivery of the session is not acknowledged yet. -/
def MemorySession.DeliveryPending (entry : MemorySession) : Prop :=
  ∃ delivery ∈ entry.deliveries.rows, delivery.2.acknowledgedAt = 0

instance (entry : MemorySession) : Decidable entry.DeliveryPending :=
  inferInstanceAs (Decidable (∃ delivery ∈ entry.deliveries.rows, delivery.2.acknowledgedAt = 0))

/-! ## Sessions -/

def MemoryRepository.createSession (repository : MemoryRepository) (session : Session) :
    Except (Abort MemoryRepository RgsError) (Unit × MemoryRepository) := do
  check (validateSession session)
  abortWhen (session.pendingRoundID ≠ "")
    (invalidRequest "a new session cannot have a pending round")
  abortWhen (repository.sessions.lookup session.key ≠ none) { kind := .sessionExists }
  return ((), { sessions := repository.sessions.insert session.key (.create session) })

/-- The lifetime checks of `AuthorizeSessionRelaunch` and `ResetSessionTransport`. -/
def authorizeSessionLifetime (session : Session) (now : Time) : Except RgsError Unit := do
  refuse (session.status = .blocked) { kind := .manualReview }
  refuse (session.status ≠ .active ∨ session.expiresAt ≤ now) { kind := .sessionExpired }

def MemorySession.authorizeRelaunch (entry : MemorySession) (now : Time) :
    Except RgsError Session := do
  authorizeSessionLifetime entry.session now
  return { entry.session with serverTime := now }

/-- The argument check of `ResetSessionTransport`. -/
def validateIdleDisconnect (idleDisconnect : Duration) : Except RgsError Unit :=
  refuse (idleDisconnect < Duration.second ∨ idleDisconnect > 24 * Duration.hour)
    { kind := .invalidRequest }

def MemorySession.resetTransport (entry : MemorySession) (idleDisconnect : Duration) (now : Time) :
    Except (Abort MemorySession RgsError) (Session × MemorySession) := do
  check (authorizeSessionLifetime entry.session now)
  abortWhen (entry.session.transportGeneration ≥ maxStateRevision) { kind := .invalidRequest }
  let session :=
    { entry.session with
      transportGeneration := entry.session.transportGeneration + 1
      idleDisconnect := idleDisconnect
      idleDisconnectAt :=
        if now + idleDisconnect > entry.session.expiresAt then entry.session.expiresAt
        else now + idleDisconnect
      serverTime := now }
  return (session, { entry with session := session })

def MemorySession.authorizeTransport (entry : MemorySession) (transportGeneration : Nat)
    (allowIdleRecovery : Bool) (now : Time) :
    Except (Abort MemorySession RgsError) (Session × MemorySession) := do
  abortWhen (transportGeneration = 0 ∨ transportGeneration ≠ entry.session.transportGeneration)
    { kind := .sessionTimeout }
  check (authorizeSessionLifetime entry.session now)
  abortWhen (allowIdleRecovery = false ∧ entry.session.idleDisconnectAt ≤ now)
    { kind := .sessionTimeout }
  let session := { entry.session with serverTime := now }
  return (session, { entry with session := session })

/-! ## Deliveries -/

/-- The one delivery that is not acknowledged; two of them are a defect. -/
def MemorySession.pendingResultDelivery (entry : MemorySession) :
    Except RgsError ResultDelivery :=
  match entry.deliveries.rows.filter fun delivery => delivery.2.acknowledgedAt = 0 with
  | [] => .error { kind := .resultDeliveryNotFound }
  | [delivery] => .ok delivery.2
  | _ => .error { kind := .manualReview }

def MemorySession.acknowledgeResultDelivery (entry : MemorySession)
    (receipt : ResultDeliveryAcknowledgement) (now : Time) :
    Except (Abort MemorySession RgsError) ((ResultDelivery × Bool) × MemorySession) := do
  abortWhen (receipt.transportGeneration ≠ entry.session.transportGeneration)
    { kind := .sessionTimeout }
  let delivery ← require (entry.deliveries.lookup receipt.roundID)
    { kind := .resultDeliveryNotFound }
  abortWhen (delivery.sequence ≠ receipt.sequence ∨ delivery.resultHash ≠ receipt.resultHash)
    { kind := .resultDeliveryMismatch }
  if delivery.acknowledgedAt ≠ 0 then
    return ((delivery, false), entry)
  else
    let acknowledged := { delivery with acknowledgedAt := now }
    return ((acknowledged, true),
      { entry with deliveries := entry.deliveries.insert receipt.roundID acknowledged })

/-! ## Preparing a round -/

/-- What `PrepareRound` finds before it calls the generator. -/
inductive Admission
  | replay (record : RoundRecord)
  | fresh
  deriving DecidableEq

/-- The arguments of `PrepareRound`. -/
def validatePrepareArguments (codec : Codec) (request : SpinRequest) (fingerprint : String)
    (walletProfile : Profile) : Except RgsError Unit := do
  validateSpinRequest request
  refuse (fingerprint ≠ fingerprintFor codec request)
    (invalidRequest "non-canonical fingerprint")
  refuse (¬ SupportedSettlementProfile walletProfile)
    (invalidRequest "unsupported wallet settlement profile")

/-- `bindingNow` and `idleNow` are two readings of the clock. -/
def MemorySession.admitRound (entry : MemorySession) (request : SpinRequest) (fingerprint : String)
    (bindingNow idleNow : Time) : Except RgsError Admission :=
  match entry.rounds.lookup request.roundID with
  | some existing => do
      refuse (existing.fingerprint ≠ fingerprint) { kind := .idempotencyConflict }
      return .replay existing
  | none => do
      refuse entry.DeliveryPending { kind := .resultDeliveryPending }
      refuse (entry.session.pendingRoundID ≠ "")
        { kind := .roundPending, detail := entry.session.pendingRoundID }
      validateSessionBinding entry.session request bindingNow
      refuse (request.transportGeneration ≠ entry.session.transportGeneration ∨
        entry.session.idleDisconnectAt ≤ idleNow) { kind := .sessionTimeout }
      refuse (entry.session.sequence ≥ maxClientSequence) (invalidRequest "sequence exhausted")
      return .fresh

/-- The record of a round that is persisted with `result` at `now`. -/
def preparedRecord (codec : Codec) (session : Session) (request : SpinRequest)
    (fingerprint : String) (walletProfile : Profile) (result : SpinResult) (outcomeHash : String)
    (now : Time) : RoundRecord :=
  { key := request.key, fingerprint := fingerprint, request := request, status := .prepared
    result := result, inputFeatureState := session.feature, outcomeHash := outcomeHash
    walletCommand :=
      walletCommandFor codec session request fingerprint (walletOperationID codec request) result
    walletProfile := walletProfile, walletPhase := .apply, nextAttemptAt := now
    createdAt := now, updatedAt := now }

def MemorySession.persistRound (codec : Codec) (entry : MemorySession) (request : SpinRequest)
    (fingerprint : String) (walletProfile : Profile) (prepared : SpinResult) (now : Time) :
    Except (Abort MemorySession RgsError) ((RoundRecord × Bool) × MemorySession) := do
  check (validatePreparedResult codec entry.session request prepared)
  let renewed := entry.session.renewedIdleDisconnectAt now
  let result := { prepared with idleDisconnectAt := renewed }
  let outcomeHash ← check (preparedOutcomeHashFor codec result)
  let record :=
    preparedRecord codec entry.session request fingerprint walletProfile result outcomeHash now
  let session :=
    { entry.session with pendingRoundID := request.roundID, idleDisconnectAt := renewed }
  let stored := ({ entry with session := session }.putRound record).putTransaction
    record.walletCommand.operationID
    { command := record.walletCommand, kind := .play, status := .pending }
  return ((record, true), stored)

/-! ## Claiming the wallet -/

def normalizeLegacyRecoveryState (record : RoundRecord) : RoundRecord :=
  if record.walletPhase.Valid then record
  else if record.status = .prepared ∨ record.status = .walletPending then
    let scheduled :=
      if record.nextAttemptAt = 0 then
        (if record.walletLeaseUntil > record.updatedAt then record.walletLeaseUntil
          else record.updatedAt)
      else record.nextAttemptAt
    let attempts :=
      if record.walletApplyAttempts = 0 ∧ record.retryCount > 0 then record.retryCount
      else record.walletApplyAttempts
    { record with
      walletPhase := if record.status = .prepared then .apply else .lookup
      nextAttemptAt := scheduled
      walletApplyAttempts := attempts }
  else record

def RecoveryRecordScheduledForObservation (record : RoundRecord) : Prop :=
  (record.status = .prepared ∨ record.status = .walletPending) ∧ record.walletPhase.Valid ∧
    record.nextAttemptAt ≠ 0

instance (record : RoundRecord) : Decidable (RecoveryRecordScheduledForObservation record) :=
  inferInstanceAs (Decidable (_ ∧ _))

def RecoveryRecordScheduled (record : RoundRecord) (session : Session) : Prop :=
  RecoveryRecordScheduledForObservation record ∧ session.status = .active ∧
    session.pendingRoundID = record.key.roundID ∧ session.revision = record.request.startRevision

instance (record : RoundRecord) (session : Session) :
    Decidable (RecoveryRecordScheduled record session) :=
  inferInstanceAs (Decidable (_ ∧ _))

def RecoveryRecordDue (record : RoundRecord) (session : Session) (now : Time) : Prop :=
  RecoveryRecordScheduled record session ∧ record.nextAttemptAt ≤ now ∧
    record.walletLeaseUntil ≤ now

instance (record : RoundRecord) (session : Session) (now : Time) :
    Decidable (RecoveryRecordDue record session now) :=
  inferInstanceAs (Decidable (_ ∧ _))

/-- `claimMemoryWallet`; `none` when the round is not due. -/
def claimMemoryWallet (record : RoundRecord) (session : Session) (now : Time)
    (leaseDuration : Duration) : Except RgsError (Option WalletRecoveryClaim) := do
  let record := normalizeLegacyRecoveryState record
  if ¬ RecoveryRecordDue record session now then
    return none
  else
    refuse (session.pendingRoundID ≠ record.key.roundID ∨
        session.revision ≠ record.request.startRevision)
      (manualReview "pending round/session state mismatch")
    return some
      { record := claimedRecord record now (now + leaseDuration), action := record.walletPhase
        leaseUntil := now + leaseDuration }

/-- Exactly one ledger entry of the round, the one of its command and still open. -/
def validateWalletRecoveryMemoryBinding (codec : Codec) (entry : MemorySession)
    (record : RoundRecord) : Except RgsError Unit := do
  validateWalletRecoveryRecord codec entry.session record
  let matching := entry.walletTransactions.rows.filter fun transaction =>
    transaction.2.command.roundID = record.key.roundID
  refuse (∃ transaction ∈ matching, transaction.1 ≠ record.walletCommand.operationID ∨
      transaction.2.command ≠ record.walletCommand ∨ transaction.2.kind ≠ .play ∨
      (transaction.2.status ≠ .pending ∧ transaction.2.status ≠ .unknown))
    { kind := .manualReview }
  refuse (matching.length ≠ 1) { kind := .manualReview }

def MemorySession.block (entry : MemorySession) (roundID : String) : MemorySession :=
  { entry with session := { entry.session with status := .blocked, pendingRoundID := roundID } }

/-- Clear the pending round, if it is this one. -/
def MemorySession.release (entry : MemorySession) (roundID : String) : MemorySession :=
  if entry.session.pendingRoundID = roundID then
    { entry with session := { entry.session with pendingRoundID := "" } }
  else entry

def quarantineMemoryWalletClaim (entry : MemorySession) (roundID : String) (now : Time) :
    MemorySession :=
  match entry.rounds.lookup roundID with
  | none => entry
  | some record =>
      let reviewed :=
        reviewedRecord record .manualReview persistedWalletLedgerIntegrityFailure now
      (({ entry with rounds := entry.rounds.insert roundID reviewed }).block
        roundID).doubtTransactions roundID

/-- The argument check of `ClaimWallet`. -/
def validateLeaseDuration (leaseDuration : Duration) : Except RgsError Unit :=
  refuse (leaseDuration ≤ 0 ∨ leaseDuration > 24 * Duration.hour)
    (invalidRequest "wallet lease duration must be positive")

def MemorySession.claimWallet (codec : Codec) (entry : MemorySession) (roundID : String)
    (leaseDuration : Duration) (now quarantineNow : Time) :
    Except (Abort MemorySession RgsError) ((WalletRecoveryClaim × Bool) × MemorySession) := do
  let record ← require (entry.rounds.lookup roundID) { kind := .roundNotFound }
  if (record.status = .prepared ∨ record.status = .walletPending) ∧
      validateWalletRecoveryMemoryBinding codec entry record ≠ .ok () then
    throw (.committed { kind := .manualReview }
      (quarantineMemoryWalletClaim entry roundID quarantineNow))
  else
    let claimed ← check (claimMemoryWallet record entry.session now leaseDuration)
    match claimed with
    | none => return (({ record := record }, false), entry)
    | some claim =>
        return ((claim, true), { entry with rounds := entry.rounds.insert roundID claim.record })

/-! ## Completing a claim -/

/-- The session after `record` is committed. -/
def committedSession (session : Session) (record : RoundRecord) (receipt : WalletReceipt) :
    Session :=
  { session with
    balanceMinor := receipt.balanceMinor, revision := record.result.endRevision
    sequence := record.result.sequence, feature := record.result.featureState
    pendingRoundID := "" }

/-- The delivery of a committed round, not acknowledged yet. -/
def committedDelivery (key : RoundKey) (record : RoundRecord) (resultHash : String) :
    ResultDelivery :=
  { operatorID := key.operatorID, sessionID := key.sessionID, roundID := key.roundID
    sequence := record.result.sequence, resultHash := resultHash, result := record.result
    originFeatureState := record.inputFeatureState }

def MemorySession.commitClaim (codec : Codec) (entry : MemorySession) (claim : WalletRecoveryClaim)
    (receipt : WalletReceipt) (now : Time) :
    Except (Abort MemorySession RgsError) ((RoundRecord × Bool) × MemorySession) := do
  let roundID := claim.record.key.roundID
  let record ← require (entry.rounds.lookup roundID) { kind := .roundNotFound }
  abortWhen (¬ OwnsWalletClaim record claim) { kind := .staleWalletClaim }
  check (validateWalletReceipt record.walletCommand receipt)
  abortWhen (entry.session.pendingRoundID ≠ roundID ∨
      entry.session.revision ≠ record.request.startRevision)
    (manualReview "commit revision mismatch")
  abortWhen (record.request.startRevision ≥ maxStateRevision) (manualReview "revision exhausted")
  let committed := committedRecord record receipt now
  let resultHash ← check (committedResultHashFor codec committed.result)
  let settled :=
    { entry with
      session := committedSession entry.session committed receipt
      rounds := entry.rounds.insert roundID committed
      deliveries := entry.deliveries.insert roundID
        (committedDelivery claim.record.key committed resultHash) }
  return ((committed, true), settled.setTransactionStatus
    record.walletCommand.operationID .succeeded)

def MemorySession.transitionClaimFailure (entry : MemorySession) (claim : WalletRecoveryClaim)
    (target : RoundStatus) (reason : Bytes) (clearPending : Bool) (now : Time) :
    Except (Abort MemorySession RgsError) ((RoundRecord × Bool) × MemorySession) := do
  let roundID := claim.record.key.roundID
  let record ← require (entry.rounds.lookup roundID) { kind := .roundNotFound }
  abortWhen (¬ OwnsWalletClaim record claim) { kind := .staleWalletClaim }
  let failed := reviewedRecord record target reason now
  let recorded := { entry with rounds := entry.rounds.insert roundID failed }
  let released := if clearPending then recorded.release roundID else recorded.block roundID
  return ((failed, true), released.setTransactionStatus
    record.walletCommand.operationID (if target = .manualReview then .unknown else .failed))

def MemorySession.markManualReview (entry : MemorySession) (roundID : String) (reason : Bytes)
    (now : Time) : Except (Abort MemorySession RgsError) ((RoundRecord × Bool) × MemorySession) := do
  let record ← require (entry.rounds.lookup roundID) { kind := .roundNotFound }
  abortWhen (record.status = .committed) (manualReview "committed round cannot enter review")
  if record.status = .manualReview then
    return ((record, false), entry)
  else
    let reviewed := reviewedRecord record .manualReview reason now
    let recorded := { entry with rounds := entry.rounds.insert roundID reviewed }
    return ((reviewed, true), (recorded.block roundID).doubtTransactions roundID)

/-! ## Recovery -/

/-- The record after a claim gives its lease back with a plan for the next call.
An APPLY that provably was not sent gives its attempt back too. -/
def scheduledRecord (record : RoundRecord) (disposition : WalletRecoveryDisposition)
    (jitterDelay : Duration) (now : Time) : RoundRecord :=
  let effectiveDelay :=
    if disposition.minimumDelay > jitterDelay then disposition.minimumDelay else jitterDelay
  { record with
    walletPhase := disposition.nextAction
    walletApplyAttempts :=
      if disposition.applyNotSent then record.walletApplyAttempts - 1
      else record.walletApplyAttempts
    nextAttemptAt :=
      if disposition.nextAttemptAt > now + effectiveDelay then disposition.nextAttemptAt
      else now + effectiveDelay
    walletLeaseUntil := 0
    updatedAt := now }

def MemorySession.scheduleWalletRecovery (entry : MemorySession) (claim : WalletRecoveryClaim)
    (disposition : WalletRecoveryDisposition) (jitterDelay : Duration) (now : Time) :
    Except (Abort MemorySession RgsError) (Bool × MemorySession) := do
  let roundID := claim.record.key.roundID
  let record ← require (entry.rounds.lookup roundID) { kind := .roundNotFound }
  if (record.status ≠ .prepared ∧ record.status ≠ .walletPending) ∨
      record.walletLeaseUntil ≠ claim.leaseUntil then
    return (false, entry)
  else
    abortWhen (disposition.applyNotSent = true ∧ record.walletApplyAttempts < 1)
      { kind := .manualReview }
    return (true,
      { entry with
        rounds := entry.rounds.insert roundID (scheduledRecord record disposition jitterDelay now) })

/-- A round that is due, as the recovery pass sees it. -/
structure RecoveryCandidate where
  session : SessionKey
  record : RoundRecord

/-- The order inside one operator. -/
def RecoveryCandidate.before (left right : RecoveryCandidate) : Bool :=
  if left.record.nextAttemptAt ≠ right.record.nextAttemptAt then
    left.record.nextAttemptAt < right.record.nextAttemptAt
  else if left.record.updatedAt ≠ right.record.updatedAt then
    left.record.updatedAt < right.record.updatedAt
  else if left.record.key.sessionID ≠ right.record.key.sessionID then
    left.record.key.sessionID < right.record.key.sessionID
  else left.record.key.roundID ≤ right.record.key.roundID

/-- The order across operators: each operator's first round comes before any second. -/
def rankedBefore (left right : Nat × RecoveryCandidate) : Bool :=
  if left.1 ≠ right.1 then left.1 < right.1
  else if left.2.record.nextAttemptAt ≠ right.2.record.nextAttemptAt then
    left.2.record.nextAttemptAt < right.2.record.nextAttemptAt
  else left.2.record.key.operatorID ≤ right.2.record.key.operatorID

def MemoryRepository.dueRounds (repository : MemoryRepository) (now : Time) :
    List RecoveryCandidate :=
  repository.sessions.rows.flatMap fun (key, entry) =>
    (entry.rounds.rows.map fun round =>
        { session := key, record := normalizeLegacyRecoveryState round.2 }).filter fun candidate =>
      RecoveryRecordDue candidate.record entry.session now

/-- The rounds of one operator in their order, counted from one. -/
def rankRounds (candidates : List RecoveryCandidate) (operatorID : String) :
    List (Nat × RecoveryCandidate) :=
  (((candidates.filter fun candidate => candidate.record.key.operatorID = operatorID).mergeSort
    RecoveryCandidate.before).zipIdx 1).map fun (candidate, rank) => (rank, candidate)

def recoveryCandidates (candidates : List RecoveryCandidate) (limit : Nat) :
    List RecoveryCandidate :=
  let operators := (candidates.map fun candidate => candidate.record.key.operatorID).dedup
  (((operators.flatMap (rankRounds candidates)).mergeSort rankedBefore).map (·.2)).take limit

/-- Check a candidate before any of them is claimed. -/
def MemoryRepository.checkCandidate (codec : Codec) (repository : MemoryRepository)
    (quarantineNow : Time) (candidate : RecoveryCandidate) :
    Except (Abort MemoryRepository RgsError) Unit := do
  let entry ← require (repository.sessions.lookup candidate.session) { kind := .sessionNotFound }
  if validateWalletRecoveryMemoryBinding codec entry candidate.record ≠ .ok () then
    throw (.committed { kind := .manualReview }
      { sessions := repository.sessions.insert candidate.session
          (quarantineMemoryWalletClaim entry candidate.record.key.roundID quarantineNow) })
  else return ()

def MemoryRepository.claimCandidate (now : Time) (leaseDuration : Duration)
    (claimed : List WalletRecoveryClaim × MemoryRepository) (candidate : RecoveryCandidate) :
    Except (Abort MemoryRepository RgsError) (List WalletRecoveryClaim × MemoryRepository) := do
  let (claims, repository) := claimed
  let entry ← require (repository.sessions.lookup candidate.session) { kind := .sessionNotFound }
  match claimMemoryWallet candidate.record entry.session now leaseDuration with
  | .error error => throw (.committed error repository)
  | .ok none => return (claims, repository)
  | .ok (some claim) =>
      return (claims ++ [claim],
        { sessions := repository.sessions.insert candidate.session
            { entry with rounds := entry.rounds.insert claim.record.key.roundID claim.record } })

/-- The argument check of `ClaimRecoverableRounds`. -/
def validateRecoveryBatch (limit : Int) (leaseDuration : Duration) : Except RgsError Unit :=
  refuse (limit < 1 ∨ limit > maxWalletRecoveryClaimBatch ∨ leaseDuration ≤ 0 ∨
      leaseDuration > 24 * Duration.hour)
    { kind := .invalidRequest }

def MemoryRepository.claimRecoverableRounds (codec : Codec) (repository : MemoryRepository)
    (limit : Int) (leaseDuration : Duration) (now quarantineNow : Time) :
    Except (Abort MemoryRepository RgsError) (List WalletRecoveryClaim × MemoryRepository) := do
  check (validateRecoveryBatch limit leaseDuration)
  let candidates := recoveryCandidates (repository.dueRounds now) limit.toNat
  candidates.forM (repository.checkCandidate codec quarantineNow)
  candidates.foldlM (MemoryRepository.claimCandidate now leaseDuration) ([], repository)

/-! ## The calls -/

variable {α : Type}

/-- A call on the entry of one session. -/
def MemoryRepository.onSession (repository : MemoryRepository) (key : SessionKey)
    (call : MemorySession → Except (Abort MemorySession RgsError) (α × MemorySession)) :
    Except RgsError α × MemoryRepository :=
  match repository.sessions.lookup key with
  | none => (.error { kind := .sessionNotFound }, repository)
  | some entry =>
      let (reply, after) := settle entry (call entry)
      (reply, { sessions := repository.sessions.insert key after })

/-- A call that only reads the entry of one session. -/
def MemoryRepository.readSession (repository : MemoryRepository) (key : SessionKey)
    (call : MemorySession → Except RgsError α) : Except RgsError α × MemoryRepository :=
  match repository.sessions.lookup key with
  | none => (.error { kind := .sessionNotFound }, repository)
  | some entry => (call entry, repository)

/-- A call whose arguments are checked before the session is looked up. -/
def MemoryRepository.afterCheck (repository : MemoryRepository) (checked : Except RgsError Unit)
    (call : Except RgsError α × MemoryRepository) : Except RgsError α × MemoryRepository :=
  match checked with
  | .error error => (.error error, repository)
  | .ok () => call

/-- `PrepareRound`.  The generator runs at most once, after every check that does
not need its result. -/
def MemoryRepository.prepareRound (codec : Codec) (repository : MemoryRepository)
    (request : SpinRequest) (fingerprint : String) (walletProfile : Profile)
    (prepare : PrepareOutcome ω) (clock : Clock) (world : ω) :
    Except RgsError (RoundRecord × Bool) × MemoryRepository × ω :=
  match validatePrepareArguments codec request fingerprint walletProfile,
      repository.sessions.lookup request.key.session with
  | .error error, _ => (.error error, repository, world)
  | .ok (), none => (.error { kind := .sessionNotFound }, repository, world)
  | .ok (), some entry =>
      match entry.admitRound request fingerprint (clock 0) (clock 1) with
      | .error error => (.error error, repository, world)
      | .ok (.replay record) => (.ok (record, false), repository, world)
      | .ok .fresh =>
          let (prepared, world) := prepare entry.session world
          match prepared with
          | .error error => (.error error, repository, world)
          | .ok result =>
              let (reply, repository) := repository.onSession request.key.session fun entry =>
                entry.persistRound codec request fingerprint walletProfile result (clock 2)
              (reply, repository, world)

/-- A call, with the successive readings of the clock while it runs. -/
def MemoryRepository.run (codec : Codec) (clock : Clock) :
    (call : RepositoryCall ω) → MemoryRepository → ω →
      Except RgsError call.Reply × MemoryRepository × ω
  | .createSession session, repository, world =>
      let (reply, repository) := settle repository (repository.createSession session)
      (reply, repository, world)
  | .getSession key, repository, world =>
      let (reply, repository) := repository.readSession key fun entry => .ok entry.session
      (reply, repository, world)
  | .authorizeSessionRelaunch key, repository, world =>
      let (reply, repository) := repository.readSession key fun entry =>
        entry.authorizeRelaunch (clock 0)
      (reply, repository, world)
  | .resetSessionTransport key idleDisconnect, repository, world =>
      let (reply, repository) := repository.afterCheck (validateIdleDisconnect idleDisconnect) <|
        repository.onSession key fun entry => entry.resetTransport idleDisconnect (clock 0)
      (reply, repository, world)
  | .authorizeSessionTransport key transportGeneration allowIdleRecovery, repository, world =>
      let (reply, repository) := repository.onSession key fun entry =>
        entry.authorizeTransport transportGeneration allowIdleRecovery (clock 0)
      (reply, repository, world)
  | .getRound key, repository, world =>
      let (reply, repository) := repository.readSession key.session fun entry =>
        match entry.rounds.lookup key.roundID with
        | none => .error { kind := .roundNotFound }
        | some record => .ok record
      (reply, repository, world)
  | .getPendingResultDelivery key, repository, world =>
      let (reply, repository) := repository.readSession key MemorySession.pendingResultDelivery
      (reply, repository, world)
  | .acknowledgeResultDelivery receipt, repository, world =>
      let (reply, repository) :=
        repository.afterCheck (validateResultDeliveryAcknowledgement receipt) <|
          repository.onSession ⟨receipt.operatorID, receipt.sessionID⟩ fun entry =>
            entry.acknowledgeResultDelivery receipt (clock 0)
      (reply, repository, world)
  | .prepareRound request fingerprint walletProfile prepare, repository, world =>
      repository.prepareRound codec request fingerprint walletProfile prepare clock world
  | .claimWallet key leaseDuration, repository, world =>
      let (reply, repository) := repository.afterCheck (validateLeaseDuration leaseDuration) <|
        repository.onSession key.session fun entry =>
          entry.claimWallet codec key.roundID leaseDuration (clock 0) (clock 0)
      (reply, repository, world)
  | .commitClaim claim receipt, repository, world =>
      let (reply, repository) := repository.onSession claim.record.key.session fun entry =>
        entry.commitClaim codec claim receipt (clock 0)
      (reply, repository, world)
  | .rejectClaim claim reason, repository, world =>
      let (reply, repository) := repository.onSession claim.record.key.session fun entry =>
        entry.transitionClaimFailure claim .rejected reason true (clock 0)
      (reply, repository, world)
  | .markClaimManualReview claim reason, repository, world =>
      let (reply, repository) := repository.onSession claim.record.key.session fun entry =>
        entry.transitionClaimFailure claim .manualReview reason false (clock 0)
      (reply, repository, world)
  | .markManualReview key reason, repository, world =>
      let (reply, repository) := repository.onSession key.session fun entry =>
        entry.markManualReview key.roundID reason (clock 0)
      (reply, repository, world)
  | .claimRecoverableRounds limit leaseDuration, repository, world =>
      let (reply, repository) := settle repository
        (repository.claimRecoverableRounds codec limit leaseDuration (clock 0) (clock 1))
      (reply, repository, world)
  | .scheduleWalletRecovery claim disposition jitterDelay, repository, world =>
      let (reply, repository) :=
        repository.afterCheck (validateWalletRecoverySchedule claim disposition jitterDelay) <|
          repository.onSession claim.record.key.session fun entry =>
            entry.scheduleWalletRecovery claim disposition jitterDelay (clock 0)
      (reply, repository, world)

/-- The reference store; its surroundings are the clock. -/
def memoryRepository (codec : Codec) : Repository ω where
  State := MemoryRepository
  Env := Clock
  run := MemoryRepository.run codec

end SlotsGame.Rgs
