/-
# SlotsGame.Rgs.Records -- what a transition makes of a round's record

The changes of a record that both stores make field by field alike.
-/
import SlotsGame.Rgs.Repository

namespace SlotsGame.Rgs

set_option autoImplicit false

/-- A claim is the right to one wallet call.  The successor of an APPLY is made
durable before the caller gets it, so a crash can only go on with a LOOKUP. -/
def claimedRecord (record : RoundRecord) (now : Time) (leaseUntil : Time) : RoundRecord :=
  let leased :=
    { record with
      status := .walletPending, walletLeaseUntil := leaseUntil, nextAttemptAt := leaseUntil
      updatedAt := now }
  if record.walletPhase = .apply then
    { leased with
      walletPhase := .lookup, walletApplyAttempts := record.walletApplyAttempts + 1
      retryCount := record.retryCount + 1 }
  else { leased with walletLookupAttempts := record.walletLookupAttempts + 1 }

theorem claimedRecord_phase {record : RoundRecord} (now leaseUntil : Time)
    (valid : record.walletPhase.Valid) :
    (claimedRecord record now leaseUntil).walletPhase = .lookup := by
  simp only [claimedRecord]
  rcases valid with apply | lookup
  · simp [apply]
  · simp [lookup]

theorem claimedRecord_kept (record : RoundRecord) (now leaseUntil : Time) :
    (claimedRecord record now leaseUntil).key = record.key ∧
      (claimedRecord record now leaseUntil).request = record.request ∧
      (claimedRecord record now leaseUntil).walletCommand = record.walletCommand ∧
      (claimedRecord record now leaseUntil).walletProfile = record.walletProfile ∧
      (claimedRecord record now leaseUntil).result = record.result ∧
      (claimedRecord record now leaseUntil).fingerprint = record.fingerprint ∧
      (claimedRecord record now leaseUntil).status = .walletPending ∧
      (claimedRecord record now leaseUntil).walletLeaseUntil = leaseUntil ∧
      (claimedRecord record now leaseUntil).nextAttemptAt = leaseUntil := by
  simp only [claimedRecord]
  split <;> simp

/-- A round in review: no action is left to claim. -/
def reviewedRecord (record : RoundRecord) (target : RoundStatus) (reason : Bytes) (now : Time) :
    RoundRecord :=
  { record with
    status := target, failureReason := boundedReason reason, walletPhase := .unset
    nextAttemptAt := 0, walletLeaseUntil := 0, updatedAt := now }

/-- The record of a round that is committed with `receipt`. -/
def committedRecord (record : RoundRecord) (receipt : WalletReceipt) (now : Time) : RoundRecord :=
  { record with
    status := .committed
    result :=
      { record.result with
        balanceMinor := receipt.balanceMinor, walletTransactionID := receipt.transactionID
        endRevision := record.request.startRevision + 1 }
    walletReceipt := some receipt, walletPhase := .unset, nextAttemptAt := 0
    walletLeaseUntil := 0, updatedAt := now }

/-- The reason a round is isolated for when its ledger does not add up. -/
def persistedWalletLedgerIntegrityFailure : Bytes :=
  "persisted wallet ledger integrity validation failed".toUTF8.toList

end SlotsGame.Rgs
