/-
# SlotsGame.Postgres.Risk -- deciding held-back rounds, and letting them expire

A round that the policy holds back waits for one decision.  Each transaction here
reads session, round and review under their locks, and `databaseNow` is the
clock of the database at the moment the review's lock is held.
-/
import SlotsGame.Postgres.Repository

namespace SlotsGame.Postgres

open SlotsGame.Game SlotsGame.Rgs SlotsGame.Theory

set_option autoImplicit false

variable {ω α : Type}

def riskExpiredReject : String := "RISK_REVIEW_EXPIRED_REJECT"

def riskExpiredManual : String := "RISK_REVIEW_EXPIRED_MANUAL"

def riskDecisionConflict : RgsError := { kind := .riskDecisionConflict }

/-! ## Reading a review -/

/-- `isLowerHexDigest` -/
def isLowerHexDigest (value : String) : Bool := Text.digestPattern value

/-- A pending review has no decision. -/
def ReviewRow.Undecided (review : ReviewRow) : Prop :=
  review.decision = none ∧ review.reasonCode = none ∧ review.requestID = none ∧
    review.idempotencyKey = none ∧ review.credentialKeyID = none ∧
    review.decisionFingerprint = none ∧ review.decidedAt = none

instance (review : ReviewRow) : Decidable review.Undecided :=
  inferInstanceAs (Decidable (_ ∧ _))

/-- A decided review has all of its decision. -/
def ReviewRow.Decided (review : ReviewRow) (decision : RiskDecision) : Prop :=
  review.decision = some decision ∧
    (∃ reason ∈ review.reasonCode, validRiskDecisionReason decision reason) ∧
    review.requestID ≠ none ∧ review.idempotencyKey ≠ none ∧ review.credentialKeyID ≠ none ∧
    (∃ fingerprint ∈ review.decisionFingerprint, isLowerHexDigest fingerprint = true) ∧
    review.decidedAt ≠ none

instance (review : ReviewRow) (decision : RiskDecision) : Decidable (review.Decided decision) :=
  inferInstanceAs (Decidable (_ ∧ _))

/-- An expired review has a reason and an instant, and no operator. -/
def ReviewRow.Expired (review : ReviewRow) (reason : String) : Prop :=
  review.decision = some .expire ∧ review.reasonCode = some reason ∧ review.decidedAt ≠ none ∧
    review.requestID = none ∧ review.idempotencyKey = none ∧ review.credentialKeyID = none ∧
    review.decisionFingerprint = none

instance (review : ReviewRow) (reason : String) : Decidable (review.Expired reason) :=
  inferInstanceAs (Decidable (_ ∧ _))

/-- The columns of a review fit its status. -/
def ReviewRow.Consistent (review : ReviewRow) : Prop :=
  match review.status with
  | .pending => review.Undecided
  | .approved => review.Decided .approve
  | .rejected => review.Decided .reject
  | .expiredRejected => review.Expired riskExpiredReject
  | .expiredManualReview => review.Expired riskExpiredManual
  | .other _ => False

instance (review : ReviewRow) : Decidable review.Consistent := by
  unfold ReviewRow.Consistent
  cases review.status <;> infer_instance

def scanRiskReview (review : ReviewRow) (databaseNow : Time) : Except RgsError ReviewRow := do
  refuse (review.policyVersion = "" ∨ review.thresholdMinor ≤ 0 ∨
      review.payoutMinor < review.thresholdMinor ∨ isLowerHexDigest review.summaryHash = false ∨
      ¬ review.expiryPolicy.Valid ∨ review.expiresAt = 0 ∨ databaseNow = 0) corruptRound
  refuse (¬ review.Consistent) corruptRound
  return review

/-- `riskReviewSelectForUpdate`: the locked row of a review, read back. -/
def Database.lockReview (database : Database) (key : RoundKey) (databaseNow : Time) :
    Except RgsError ReviewRow :=
  match database.riskReviews.lookup key with
  | none => .error { kind := .roundNotFound }
  | some review => scanRiskReview review databaseNow

def validateRiskReviewBinding (settings : Settings) (record : RoundRecord) (review : ReviewRow) :
    Except RgsError Unit :=
  refuse (riskAssessmentSummaryHash settings.codec settings.riskCodec record.result
      { policyVersion := review.policyVersion, thresholdMinor := review.thresholdMinor
        payoutMinor := review.payoutMinor, expiresAt := review.expiresAt
        expiryPolicy := review.expiryPolicy } ≠ .ok review.summaryHash)
    corruptRound

/-! ## Ending the wait of a round -/

/-- The rows of a held-back round, read back under their locks. -/
structure HeldRound where
  session : Session
  record : RoundRecord
  review : ReviewRow

def Database.lockHeldRound (settings : Settings) (database : Database) (key : RoundKey)
    (databaseNow : Time) : Except RgsError HeldRound := do
  let session ← database.lockSession key.session
  let record ← database.lockRound settings.codec key
  let review ← database.lockReview key databaseNow
  validateRiskReviewBinding settings record review
  return { session := session, record := record, review := review }

/-- The round's columns when its wait ends without a wallet call. -/
def RoundRow.refused (row : RoundRow) (status : RoundStatus) (failureCode : String) (now : Time) :
    RoundRow :=
  { row with
    status := status, failureCode := some failureCode.toUTF8.toList, walletPhase := .unset
    nextAttemptAt := none, walletLeaseUntil := none, updatedAt := now }

/-- The round's columns when it is approved. -/
def RoundRow.approved (row : RoundRow) (now : Time) : RoundRow :=
  { row with
    status := .prepared, walletPhase := .apply, nextAttemptAt := some now, walletLeaseUntil := none
    updatedAt := now }

/-- The row of a round that still waits. -/
def Database.heldRow (database : Database) (key : RoundKey) :
    Except (Abort Database RgsError) RoundRow := do
  let row ← require (database.rounds.lookup key) riskDecisionConflict
  abortWhen (row.status ≠ .riskPending) riskDecisionConflict
  return row

/-- End the wait of a round: its row, its ledger entry, which is still pending,
and its session, which still waits for it. -/
def Database.refuseHeld (database : Database) (record : RoundRecord) (status : RoundStatus)
    (failureCode : String) (release : SessionRow → SessionRow) (now : Time) :
    Except (Abort Database RgsError) Database := do
  let row ← database.heldRow record.key
  let transaction : TransactionKey := ⟨record.key.operatorID, record.walletCommand.operationID⟩
  let entry ← require (database.walletTransactions.lookup transaction) corruptRound
  abortWhen (entry.status ≠ .pending) corruptRound
  let owner ← require (database.sessions.lookup record.key.session) corruptRound
  abortWhen (owner.pendingRoundID ≠ some record.key.roundID) corruptRound
  return ((database.putRound record.key (row.refused status failureCode now)).putTransaction
    transaction { entry with status := .failed }).putSession record.key.session (release owner)

/-- `rejectRiskRoundLocked` -/
def Database.rejectRiskRoundLocked (database : Database) (record : RoundRecord) (now : Time)
    (failureCode : String) : Except (Abort Database RgsError) Database :=
  database.refuseHeld record .rejected failureCode (fun owner => { owner with pendingRoundID := none })
    now

/-- The review of a pending row is written; a decision cannot come before the
review. -/
def Database.writeReview (database : Database) (key : RoundKey) (now : Time)
    (change : ReviewRow → ReviewRow) : Except (Abort Database RgsError) Database := do
  let review ← require (database.riskReviews.lookup key) riskDecisionConflict
  abortWhen (review.status ≠ .pending) riskDecisionConflict
  abortWhen (now < review.createdAt) (storageError "postgres repository: persist risk decision")
  return database.putReview key (change review)

/-- `expireRiskLocked` -/
def Database.expireRiskLocked (database : Database) (held : HeldRound) (now : Time) :
    Except (Abort Database RgsError) Database :=
  if held.review.expiryPolicy = .reject then do
    let refused ← database.rejectRiskRoundLocked held.record now riskExpiredReject
    refused.writeReview held.record.key now fun review =>
      { review with
        status := .expiredRejected, decision := some .expire, reasonCode := some riskExpiredReject
        decidedAt := some now }
  else do
    let refused ← database.refuseHeld held.record .manualReview riskExpiredManual
      (fun owner => { owner with status := .blocked }) now
    refused.writeReview held.record.key now fun review =>
      { review with
        status := .expiredManualReview, decision := some .expire
        reasonCode := some riskExpiredManual, decidedAt := some now }

/-! ## Decisions -/

/-- The answer to a command that has been decided before, if it is the same. -/
def replayRiskDecision (command : RiskDecisionCommand) (fingerprint : String)
    (review : ReviewRow) : Option RiskDecisionResult :=
  match review.decision, review.decidedAt with
  | some decision, some decidedAt =>
      if review.idempotencyKey ≠ some command.idempotencyKey ∨
          review.decisionFingerprint ≠ some fingerprint then none
      else if review.status = .approved ∧ decision = .approve then
        some { roundKey := command.roundKey, decision := decision, status := .prepared
               decidedAt := decidedAt, replayed := true }
      else if review.status = .rejected ∧ decision = .reject then
        some { roundKey := command.roundKey, decision := decision, status := .rejected
               decidedAt := decidedAt, replayed := true }
      else none
  | _, _ => none

/-- The review's columns after a decision. -/
def ReviewRow.decided (review : ReviewRow) (command : RiskDecisionCommand) (fingerprint : String)
    (now : Time) : ReviewRow :=
  { review with
    status := if command.decision = .approve then .approved else .rejected
    decision := some command.decision, reasonCode := some command.reasonCode
    requestID := some command.requestID, idempotencyKey := some command.idempotencyKey
    credentialKeyID := some command.credentialKeyID, decisionFingerprint := some fingerprint
    decidedAt := some now }

def Database.applyRiskDecisionLocked (database : Database) (record : RoundRecord)
    (command : RiskDecisionCommand) (fingerprint : String) (now : Time) :
    Except (Abort Database RgsError) (RiskDecisionResult × Database) := do
  let ended ←
    if command.decision = .approve then do
      let row ← database.heldRow record.key
      pure ((database.putRound record.key (row.approved now)).registerRecoveryOperator
        record.key.operatorID)
    else database.rejectRiskRoundLocked record now "RISK_REJECTED"
  -- rgs_risk_reviews_operator_idempotency
  abortWhen (∃ review ∈ database.riskReviews.rows, review.1 ≠ command.roundKey ∧
      review.1.operatorID = command.roundKey.operatorID ∧
      review.2.idempotencyKey = some command.idempotencyKey)
    riskDecisionConflict
  let written ← ended.writeReview command.roundKey now fun review =>
    review.decided command fingerprint now
  return ({ roundKey := command.roundKey, decision := command.decision
            status := if command.decision = .approve then .prepared else .rejected
            decidedAt := now }, written)

def Database.decideRisk (settings : Settings) (database : Database) (command : RiskDecisionCommand)
    (databaseNow : Time) : Except (Abort Database RgsError) (RiskDecisionResult × Database) := do
  abortWhen (settings.riskPolicy.enabled = false) { kind := .invalidRequest }
  let fingerprint ← check (riskDecisionFingerprint settings.codec settings.riskCodec command)
  let held ← check (database.lockHeldRound settings command.roundKey databaseNow)
  if held.review.status ≠ .pending then
    match replayRiskDecision command fingerprint held.review with
    | some result => return (result, database)
    | none => throw (.rolledBack riskDecisionConflict)
  else
    abortWhen (held.record.status ≠ .riskPending ∨ held.session.status ≠ .active ∨
      held.session.pendingRoundID ≠ command.roundKey.roundID ∨
      held.session.revision ≠ held.record.request.startRevision) corruptRound
    if held.review.expiresAt ≤ databaseNow then do
      let expired ← database.expireRiskLocked held databaseNow
      throw (.committed riskDecisionConflict expired)
    else
      database.applyRiskDecisionLocked held.record command fingerprint databaseNow

/-! ## Expiry -/

/-- One round of the expiry pass: whether it expired. -/
def Database.expireRiskReview (settings : Settings) (database : Database) (key : RoundKey)
    (databaseNow : Time) : Except (Abort Database RgsError) (Bool × Database) := do
  let held ← check (database.lockHeldRound settings key databaseNow)
  if held.review.status ≠ .pending ∨ databaseNow < held.review.expiresAt then
    return (false, database)
  else
    abortWhen (held.record.status ≠ .riskPending ∨ held.session.pendingRoundID ≠ key.roundID)
      corruptRound
    let expired ← database.expireRiskLocked held databaseNow
    return (true, expired)

end SlotsGame.Postgres
