/-
# SlotsGame.Postgres.Rows -- the rows the store itself writes

`Kept` says a row is read back, with its documents as they were written; `Owns`
and `Books` tie its session's row and its ledger entry to it.  Below them, one
theorem per update: the row stays `Kept`, and it is read back as the record of
the transition (`persisted`).
-/
import SlotsGame.Rgs.Outcome
import SlotsGame.Postgres.Reading
import SlotsGame.Postgres.Risk

namespace SlotsGame.Postgres

open SlotsGame.Game SlotsGame.Rgs SlotsGame.Theory

set_option autoImplicit false

/-! ## One round -/

/-- A round that no receipt, rejection or review has ended. -/
def RoundRow.Waiting (row : RoundRow) : Prop :=
  row.status = .prepared ∨ row.status = .riskPending ∨ row.status = .walletPending

/-- The instants of a row are what a column keeps. -/
structure RoundRow.Whole (row : RoundRow) : Prop where
  created : stored row.createdAt = row.createdAt
  updated : stored row.updatedAt = row.updatedAt
  next : ∀ next ∈ row.nextAttemptAt, stored next = next
  lease : ∀ lease ∈ row.walletLeaseUntil, stored lease = lease

/-- A row is read back, and spells the documents it was written with. -/
structure RoundRow.Kept (codec : Codec) (key : RoundKey) (row : RoundRow) (owner : SessionRow)
    (profile : Profile) (feature : FeatureState) (result : SpinResult) : Prop where
  reads : row.Reads codec key owner profile feature result
  document : row.resultJSON = .value result
  schema : result.resultSchemaVersion = resultSchemaPaidFactsV1
  transport : result.idleDisconnectAt = 0
  canonical : FeatureState.canonicalFeatureState result.featureState = result.featureState
  supported : SupportedSettlementProfile profile
  digested : row.walletCommandDigest ≠ none
  whole : row.Whole
  delivered : row.status = .committed →
    ∃ hash, row.resultHash = some hash ∧ committedResultHashFor codec result = .ok hash

/-- What a round's session never changes; a block is never lifted. -/
structure SessionRow.Continues (before after : SessionRow) : Prop where
  player : after.playerID = before.playerID
  account : after.walletAccountID = before.walletAccountID
  wallet : after.walletSessionID = before.walletSessionID
  game : after.gameID = before.gameID
  version : after.definitionVersion = before.definitionVersion
  hash : after.definitionHash = before.definitionHash
  currency : after.currency = before.currency
  blocked : before.status = .blocked → after.status = .blocked

/-- The session's row of a round: it is read back, it is bound to the definition
of the round, it waits for a round that has not ended, and it is blocked by one in
review or in quarantine. -/
structure SessionRow.Owns (owner : SessionRow) (key : RoundKey) (row : RoundRow) : Prop where
  reads : ∃ feature, owner.Reads key.session feature
  game : owner.gameID = row.gameID
  version : owner.definitionVersion = row.definitionVersion
  hash : owner.definitionHash = row.definitionHash
  currency : owner.currency = row.currency
  waits : row.Waiting → owner.pendingRoundID = some key.roundID ∧
    owner.revision = row.startingRevision
  reviewed : row.status = .manualReview → owner.status = .blocked
  marked : row.integrityQuarantinedAt ≠ none → owner.status = .blocked ∧
    (row.status = .committed ∨ row.status = .manualReview)

/-- The ledger entry of a round. -/
structure WalletRow.Books (entry : WalletRow) (key : RoundKey) (row : RoundRow) : Prop where
  session : entry.sessionID = key.sessionID
  round : entry.roundID = key.roundID
  kind : entry.kind = .play
  currency : entry.currency = row.currency
  amount : entry.amountMinor = row.chargedMinor
  fingerprint : entry.requestFingerprint = row.requestFingerprint
  pending : row.Waiting → entry.status = .pending

section Rows

variable {codec : Codec} {key : RoundKey} {row : RoundRow} {owner : SessionRow}
  {profile : Profile} {feature : FeatureState} {result : SpinResult}

/-- A row is read back under any other row of its session. -/
theorem RoundRow.Reads.under (reads : row.Reads codec key owner profile feature result)
    {after : SessionRow} (unmarked : after.integrityQuarantinedAt = none)
    (known : knownSessionStatus after.status) (continues : owner.Continues after) :
    row.Reads codec key after profile feature result := by
  have same : row.command codec after (row.request key) result =
      row.command codec owner (row.request key) result := by
    unfold RoundRow.command
    rw [continues.player, continues.account, continues.wallet]
  exact { reads with unmarked := unmarked, known := known, command := same ▸ reads.command }

theorem RoundRow.Kept.under (kept : row.Kept codec key owner profile feature result)
    {after : SessionRow} {input : FeatureState} (session : after.Reads key.session input)
    (continues : owner.Continues after) : row.Kept codec key after profile feature result :=
  { kept with reads := kept.reads.under session.unmarked session.valid.status continues }

theorem RoundRow.reading_owner {after : SessionRow} (continues : owner.Continues after) :
    row.reading codec key after profile feature result =
      row.reading codec key owner profile feature result := by
  unfold RoundRow.reading RoundRow.command
  rw [continues.player, continues.account, continues.wallet]

theorem SessionRow.Owns.under (owns : owner.Owns key row) {after : SessionRow}
    (reads : ∃ feature, after.Reads key.session feature) (continues : owner.Continues after)
    (waits : row.Waiting → after.pendingRoundID = owner.pendingRoundID ∧
      after.revision = owner.revision) :
    after.Owns key row where
  reads := reads
  game := continues.game.trans owns.game
  version := continues.version.trans owns.version
  hash := continues.hash.trans owns.hash
  currency := continues.currency.trans owns.currency
  waits := by
    intro waiting
    obtain ⟨pending, revision⟩ := waits waiting
    obtain ⟨waited, start⟩ := owns.waits waiting
    exact ⟨pending.trans waited, revision.trans start⟩
  reviewed review := continues.blocked (owns.reviewed review)
  marked mark := ⟨continues.blocked (owns.marked mark).1, (owns.marked mark).2⟩

/-- A round that waits is not in quarantine. -/
theorem SessionRow.Owns.waiting_unmarked (owns : owner.Owns key row) (waiting : row.Waiting) :
    row.integrityQuarantinedAt = none := by
  by_contra mark
  rcases (owns.marked mark).2 with status | status <;>
    rcases waiting with waits | waits | waits <;> rw [status] at waits <;> cases waits

/-- The columns of a row that say what comes next. -/
def RoundRow.replan (row : RoundRow) (status : RoundStatus) (phase : WalletRecoveryAction)
    (next lease : Option Time) (applies lookups retries : Int) (failure : Option Bytes)
    (updated : Time) : RoundRow :=
  { row with
    status := status, walletPhase := phase, nextAttemptAt := next, walletLeaseUntil := lease
    applyAttempts := applies, lookupAttempts := lookups, retryCount := retries
    failureCode := failure, updatedAt := updated }

/-- A status without a receipt. -/
def Unreceipted (status : RoundStatus) : Prop :=
  status = .prepared ∨ status = .riskPending ∨ status = .walletPending ∨ status = .rejected ∨
    status = .manualReview

theorem checkReceiptColumns_unreceipted (unreceipted : Unreceipted row.status) :
    checkReceiptColumns row result = .ok () ↔
      result.endRevision = 0 ∧ result.walletTransactionID = "" ∧ result.balanceMinor = 0 ∧
        row.walletTransactionID = none ∧ row.walletBalanceMinor = none := by
  unfold checkReceiptColumns
  rcases unreceipted with status | status | status | status | status <;>
    simp only [status, refuse_ok, not_or, not_not]

/-- Between two statuses without a receipt only the plan has to be checked. -/
theorem RoundRow.Kept.replan (kept : row.Kept codec key owner profile feature result)
    (before : Unreceipted row.status) {status : RoundStatus} {phase : WalletRecoveryAction}
    {next lease : Option Time} {applies lookups retries : Int} {failure : Option Bytes}
    {updated : Time} (after : Unreceipted status)
    (columns : checkRoundColumns
      (row.replan status phase next lease applies lookups retries failure updated) profile = .ok ())
    (whole : (row.replan status phase next lease applies lookups retries failure updated).Whole) :
    (row.replan status phase next lease applies lookups retries failure updated).Kept codec key
      owner profile feature result := by
  have receipt := (checkReceiptColumns_unreceipted before).mp kept.reads.receipt
  have command := kept.reads.command
  simp only [checkCommandColumns, bind_ok, refuse_ok, exists_unit] at command
  refine
    { kept with
      reads :=
        { kept.reads with
          columns := columns, receipt := ?receipt, command := ?command }
      whole := whole, delivered := ?delivered }
  case receipt => exact (checkReceiptColumns_unreceipted after).mpr receipt
  case command =>
    simp only [checkCommandColumns, bind_ok, refuse_ok, exists_unit]
    exact ⟨fun missing => kept.digested missing.2, command.2⟩
  case delivered =>
    intro committed
    change status = .committed at committed
    subst committed
    rcases after with status | status | status | status | status <;> cases status

/-! ## What a record is read back as -/

/-- What the columns keep of a record: whole microseconds, and neither of the two
facts of its transport. -/
def persisted (record : RoundRecord) : RoundRecord :=
  { record with
    request := { record.request with transportGeneration := 1 }
    result := { record.result with idleDisconnectAt := 0 }
    nextAttemptAt := stored record.nextAttemptAt
    walletLeaseUntil := stored record.walletLeaseUntil
    createdAt := stored record.createdAt, updatedAt := stored record.updatedAt }

theorem stored_getD {instant : Option Time} (whole : ∀ at_ ∈ instant, stored at_ = at_) :
    stored (instant.getD 0) = instant.getD 0 := by
  cases instant with
  | none => rfl
  | some at_ => exact whole at_ rfl

/-- A record that was read back is kept whole. -/
theorem RoundRow.Kept.persisted (kept : row.Kept codec key owner profile feature result) :
    persisted (row.reading codec key owner profile feature result) =
      row.reading codec key owner profile feature result := by
  unfold Postgres.persisted RoundRow.reading RoundRow.record
  simp only [stored_getD kept.whole.next, stored_getD kept.whole.lease, kept.whole.created,
    kept.whole.updated]
  have same : { result with idleDisconnectAt := 0 } = result := by
    rw [← kept.transport]
  rw [same]
  rfl

/-! ## Counting instants -/

/-- A reading of the database's clock. -/
def Reading (now : Time) : Prop := 0 < now ∧ stored now = now

theorem Reading.ne {now : Time} (reading : Reading now) : now ≠ 0 := ne_of_gt reading.1

theorem stored_add {now delay : Time} (reading : Reading now) (later : 0 ≤ delay) :
    0 < stored (now + delay) := by
  have first : stored now ≤ stored (now + delay) := stored_mono (le_add_of_nonneg_right later)
  rw [reading.2] at first
  exact lt_of_lt_of_le reading.1 first

/-! ## The updates of a waiting row -/

theorem RoundRow.Waiting.unreceipted (waiting : row.Waiting) : Unreceipted row.status := by
  rcases waiting with status | status | status
  · exact .inl status
  · exact .inr (.inl status)
  · exact .inr (.inr (.inl status))

theorem RoundRow.waiting_of_claimable
    (claimable : row.status = .prepared ∨ row.status = .walletPending) : row.Waiting := by
  rcases claimable with status | status
  · exact .inl status
  · exact .inr (.inr status)

/-- The counters of a row that is read back. -/
theorem RoundRow.Reads.counters (reads : row.Reads codec key owner profile feature result) :
    0 ≤ row.retryCount ∧ 0 ≤ row.applyAttempts ∧ 0 ≤ row.lookupAttempts := by
  have columns := reads.columns
  simp only [checkRoundColumns, refuse_ok, not_or, not_lt] at columns
  exact ⟨columns.1, columns.2.1, columns.2.2.1⟩

/-- The plan of a claimable row that is read back. -/
theorem RoundRow.Reads.planned (reads : row.Reads codec key owner profile feature result)
    (claimable : row.status = .prepared ∨ row.status = .walletPending) :
    row.walletPhase.Valid ∧ row.nextAttemptAt.getD 0 ≠ 0 := by
  have columns := reads.columns
  simp only [checkRoundColumns, refuse_ok, not_or] at columns
  obtain ⟨_, _, _, plan, _⟩ := columns
  rw [not_and] at plan
  have plan := plan claimable
  simp only [not_or, not_not] at plan
  exact ⟨plan.1, plan.2.1⟩

/-- A claimable row needs a call to make and an instant to make it. -/
theorem RoundRow.columns_claimable (supported : SupportedSettlementProfile profile)
    (counters : 0 ≤ row.retryCount ∧ 0 ≤ row.applyAttempts ∧ 0 ≤ row.lookupAttempts)
    (claimable : row.status = .prepared ∨ row.status = .walletPending)
    (phase : row.walletPhase.Valid) (next : row.nextAttemptAt.getD 0 ≠ 0) :
    checkRoundColumns row profile = .ok () := by
  have held : row.status ≠ .riskPending := by
    rcases claimable with status | status <;> simp [status]
  simp only [checkRoundColumns, refuse_ok, not_or, not_lt]
  exact ⟨counters.1, counters.2.1, counters.2.2, by simp [phase, next, supported], by simp [held]⟩

/-- A row that has ended needs no plan. -/
theorem RoundRow.columns_ended
    (counters : 0 ≤ row.retryCount ∧ 0 ≤ row.applyAttempts ∧ 0 ≤ row.lookupAttempts)
    (ended : ¬ row.Waiting) : checkRoundColumns row profile = .ok () := by
  unfold RoundRow.Waiting at ended
  simp only [checkRoundColumns, refuse_ok, not_or, not_lt]
  exact ⟨counters.1, counters.2.1, counters.2.2, by tauto, by tauto⟩

/-- A record that was read back, under another plan. -/
theorem RoundRow.Kept.persisted_replan (kept : row.Kept codec key owner profile feature result)
    (status : RoundStatus) (phase : WalletRecoveryAction) (next lease : Time)
    (applies lookups retries : Int) (failure : Bytes) (updated : Time) :
    Postgres.persisted
        { row.reading codec key owner profile feature result with
          status := status, walletPhase := phase, nextAttemptAt := next, walletLeaseUntil := lease
          walletApplyAttempts := applies, walletLookupAttempts := lookups, retryCount := retries
          failureReason := failure, updatedAt := updated } =
      { row.reading codec key owner profile feature result with
        status := status, walletPhase := phase, nextAttemptAt := stored next
        walletLeaseUntil := stored lease, walletApplyAttempts := applies
        walletLookupAttempts := lookups, retryCount := retries, failureReason := failure
        updatedAt := stored updated } := by
  calc
    _ = { Postgres.persisted (row.reading codec key owner profile feature result) with
          status := status, walletPhase := phase, nextAttemptAt := stored next
          walletLeaseUntil := stored lease, walletApplyAttempts := applies
          walletLookupAttempts := lookups, retryCount := retries, failureReason := failure
          updatedAt := stored updated } := rfl
    _ = _ := by rw [kept.persisted]

theorem RoundRow.Kept.claimed (kept : row.Kept codec key owner profile feature result)
    (claimable : row.status = .prepared ∨ row.status = .walletPending) {now : Time}
    {lease : Duration} (reading : Reading now) (later : 0 ≤ lease) {record : RoundRecord}
    (read : record = row.reading codec key owner profile feature result) :
    (row.claimed record.walletPhase (claimedRecord record now (now + lease))).Kept codec key owner
        profile feature result ∧
      (row.claimed record.walletPhase (claimedRecord record now (now + lease))).reading codec key
        owner profile feature result = Postgres.persisted (claimedRecord record now (now + lease)) := by
  obtain ⟨valid, _⟩ := kept.reads.planned claimable
  obtain ⟨retries, applies, lookups⟩ := kept.reads.counters
  have due : stored (now + lease) ≠ 0 := ne_of_gt (stored_add reading later)
  have same : record.walletPhase = row.walletPhase := by rw [read]; rfl
  have whole {applies lookups retries : Int} :
      (row.replan .walletPending .lookup (some (stored (now + lease))) (some (stored (now + lease)))
        applies lookups retries row.failureCode (stored now)).Whole := by
    refine ⟨kept.whole.created, stored_stored _, ?_, ?_⟩
    · rintro _ ⟨⟩
      exact stored_stored _
    · rintro _ ⟨⟩
      exact stored_stored _
  have leased {applies lookups retries : Int}
      (counters : 0 ≤ retries ∧ 0 ≤ applies ∧ 0 ≤ lookups) :
      (row.replan .walletPending .lookup (some (stored (now + lease))) (some (stored (now + lease)))
        applies lookups retries row.failureCode (stored now)).Kept codec key owner profile feature
          result :=
    kept.replan (RoundRow.waiting_of_claimable claimable).unreceipted (.inr (.inr (.inl rfl)))
      (RoundRow.columns_claimable kept.supported counters (.inr rfl) (.inr rfl) due) whole
  -- an APPLY is counted as one and as a retry, a LOOKUP as a lookup
  rcases valid with phase | phase
  · rw [phase] at same
    have claimed : claimedRecord record now (now + lease) =
        { record with
          status := .walletPending, walletPhase := .lookup, nextAttemptAt := now + lease
          walletLeaseUntil := now + lease, walletApplyAttempts := record.walletApplyAttempts + 1
          retryCount := record.retryCount + 1, updatedAt := now } := by
      simp [claimedRecord, same]
    have written : row.claimed .apply (claimedRecord record now (now + lease)) =
        row.replan .walletPending .lookup (some (stored (now + lease)))
          (some (stored (now + lease))) (row.applyAttempts + 1) row.lookupAttempts
          (row.retryCount + 1) row.failureCode (stored now) := by
      simp [RoundRow.claimed, RoundRow.replan, claimed]
    rw [same, written, claimed]
    subst read
    exact ⟨leased ⟨by omega, by omega, by omega⟩, (kept.persisted_replan _ _ _ _ _ _ _ _ _).symm⟩
  · rw [phase] at same
    have claimed : claimedRecord record now (now + lease) =
        { record with
          status := .walletPending, walletPhase := .lookup, nextAttemptAt := now + lease
          walletLeaseUntil := now + lease
          walletLookupAttempts := record.walletLookupAttempts + 1, updatedAt := now } := by
      simp [claimedRecord, same]
    have written : row.claimed .lookup (claimedRecord record now (now + lease)) =
        row.replan .walletPending .lookup (some (stored (now + lease)))
          (some (stored (now + lease))) row.applyAttempts (row.lookupAttempts + 1)
          row.retryCount row.failureCode (stored now) := by
      simp [RoundRow.claimed, RoundRow.replan, claimed]
    rw [same, written, claimed]
    subst read
    exact ⟨leased ⟨by omega, by omega, by omega⟩, (kept.persisted_replan _ _ _ _ _ _ _ _ _).symm⟩

theorem stored_add_micros {now : Time} (whole : stored now = now) (count : Int) :
    stored (now + count * Duration.microsecond) = now + count * Duration.microsecond := by
  unfold stored Duration.microsecond at *
  rw [Int.add_mul_ediv_right _ _ (by decide), add_mul, whole]

/-- The record after a claim has given its lease back, as its columns spell it. -/
def rescheduledRecord (record : RoundRecord) (disposition : WalletRecoveryDisposition)
    (jitterDelay : Duration) (now updatedAt : Time) : RoundRecord :=
  let effectiveDelay :=
    if disposition.minimumDelay > jitterDelay then disposition.minimumDelay else jitterDelay
  let earliest := now + delayMicros effectiveDelay * Duration.microsecond
  { record with
    walletPhase := disposition.nextAction
    nextAttemptAt :=
      if disposition.nextAttemptAt ≠ 0 then max earliest (stored disposition.nextAttemptAt)
      else earliest
    walletLeaseUntil := 0
    walletApplyAttempts := record.walletApplyAttempts - if disposition.applyNotSent then 1 else 0
    updatedAt := updatedAt }

theorem delayMicros_nonneg {delay : Duration} (nonneg : 0 ≤ delay) : 0 ≤ delayMicros delay := by
  unfold delayMicros
  have whole : 0 ≤ delay / Duration.microsecond := Int.ediv_nonneg nonneg (by decide)
  split
  · exact Int.add_nonneg whole (by decide)
  · exact Int.add_nonneg whole (by decide)

/-- When the next call of a scheduled round is due. -/
theorem scheduled_due {now earliest : Time} (reading : Reading now) {count : Int}
    (later : 0 ≤ count) (same : earliest = now + count * Duration.microsecond) (at_ : Time) :
    0 < max earliest (stored at_) ∧ stored (max earliest (stored at_)) = max earliest (stored at_) ∧
      0 < earliest ∧ stored earliest = earliest := by
  have whole : stored earliest = earliest := by rw [same, stored_add_micros reading.2]
  have positive : 0 < earliest := by
    have delay : 0 ≤ count * Duration.microsecond := Int.mul_nonneg later (by decide)
    rw [same]
    exact lt_of_lt_of_le reading.1 (le_add_of_nonneg_right delay)
  refine ⟨lt_of_lt_of_le positive (le_max_left _ _), ?_, positive, whole⟩
  rcases max_choice earliest (stored at_) with first | second
  · rw [first, whole]
  · rw [second, stored_stored]

theorem RoundRow.Kept.scheduled (kept : row.Kept codec key owner profile feature result)
    (claimable : row.status = .prepared ∨ row.status = .walletPending)
    {disposition : WalletRecoveryDisposition} {jitterDelay : Duration} {now updatedAt : Time}
    (reading : Reading now) (updated : Reading updatedAt) (valid : disposition.nextAction.Valid)
    (jitter : 0 ≤ jitterDelay)
    (attempts : disposition.applyNotSent = false ∨ row.applyAttempts > 0) :
    (row.scheduled disposition jitterDelay now updatedAt).Kept codec key owner profile feature
        result ∧
      (row.scheduled disposition jitterDelay now updatedAt).reading codec key owner profile feature
        result =
          rescheduledRecord (row.reading codec key owner profile feature result) disposition
            jitterDelay now updatedAt := by
  obtain ⟨retries, applies, lookups⟩ := kept.reads.counters
  set delay := if disposition.minimumDelay > jitterDelay then disposition.minimumDelay
    else jitterDelay with effective
  have later : 0 ≤ delayMicros delay := by
    apply delayMicros_nonneg
    rw [effective]
    split
    · exact le_of_lt (lt_of_le_of_lt jitter ‹_›)
    · exact jitter
  have due := scheduled_due reading later rfl disposition.nextAttemptAt
  set next := if disposition.nextAttemptAt ≠ 0 then
      max (now + delayMicros delay * Duration.microsecond) (stored disposition.nextAttemptAt)
    else now + delayMicros delay * Duration.microsecond with planned
  have positive : 0 < next ∧ stored next = next := by
    rw [planned]
    split
    · exact ⟨due.1, due.2.1⟩
    · exact due.2.2
  have same : row.scheduled disposition jitterDelay now updatedAt =
      row.replan row.status disposition.nextAction (some next) none
        (row.applyAttempts - if disposition.applyNotSent then 1 else 0) row.lookupAttempts
        row.retryCount row.failureCode updatedAt := rfl
  rw [same]
  constructor
  · refine kept.replan (RoundRow.waiting_of_claimable claimable).unreceipted
      (RoundRow.waiting_of_claimable claimable).unreceipted
      (RoundRow.columns_claimable kept.supported ⟨retries, ?_, lookups⟩ claimable valid
        (ne_of_gt positive.1)) ⟨kept.whole.created, updated.2, ?_, ?_⟩
    · show 0 ≤ row.applyAttempts - ite _ 1 0
      rcases attempts with unsent | counted
      · simp [unsent, applies]
      · split <;> omega
    · rintro _ ⟨⟩
      exact positive.2
    · rintro _ ⟨⟩
  · rfl

theorem RoundRow.Kept.failed (kept : row.Kept codec key owner profile feature result)
    (unreceipted : Unreceipted row.status) {target : RoundStatus}
    (ended : target = .rejected ∨ target = .manualReview) (reason : Bytes) (now : Time)
    {record : RoundRecord} (read : record = row.reading codec key owner profile feature result) :
    (row.failed (reviewedRecord record target reason now) now).Kept codec key owner profile feature
        result ∧
      (row.failed (reviewedRecord record target reason now) now).reading codec key owner profile
        feature result = Postgres.persisted (reviewedRecord record target reason now) := by
  subst read
  constructor
  · refine kept.replan unreceipted (.inr (.inr (.inr ended)))
      (RoundRow.columns_ended kept.reads.counters ?_)
      ⟨kept.whole.created, stored_stored _, by rintro _ ⟨⟩, by rintro _ ⟨⟩⟩
    intro waiting
    change target = .prepared ∨ target = .riskPending ∨ target = .walletPending at waiting
    rcases ended with rfl | rfl <;> simp at waiting
  · exact (kept.persisted_replan target .unset 0 0 _ _ _ (boundedReason reason) now).symm

/-- The record of a held-back round whose wait ends without a wallet call. -/
def refusedRecord (record : RoundRecord) (status : RoundStatus) (failureCode : String)
    (now : Time) : RoundRecord :=
  { record with
    status := status, failureReason := failureCode.toUTF8.toList, walletPhase := .unset
    nextAttemptAt := 0, walletLeaseUntil := 0, updatedAt := now }

/-- The record of a held-back round that is approved. -/
def approvedRecord (record : RoundRecord) (now : Time) : RoundRecord :=
  { record with
    status := .prepared, walletPhase := .apply, nextAttemptAt := now, walletLeaseUntil := 0
    updatedAt := now }

theorem RoundRow.Kept.refused (kept : row.Kept codec key owner profile feature result)
    (held : row.status = .riskPending) {status : RoundStatus}
    (ended : status = .rejected ∨ status = .manualReview) (failureCode : String) {now : Time}
    (reading : Reading now) :
    (row.refused status failureCode now).Kept codec key owner profile feature result ∧
      (row.refused status failureCode now).reading codec key owner profile feature result =
        refusedRecord (row.reading codec key owner profile feature result) status failureCode
          now := by
  constructor
  · refine kept.replan (.inr (.inl held)) (.inr (.inr (.inr ended)))
      (RoundRow.columns_ended kept.reads.counters ?_)
      ⟨kept.whole.created, reading.2, by rintro _ ⟨⟩, by rintro _ ⟨⟩⟩
    intro waiting
    change status = .prepared ∨ status = .riskPending ∨ status = .walletPending at waiting
    rcases ended with rfl | rfl <;> simp at waiting
  · rfl

theorem RoundRow.Kept.approved (kept : row.Kept codec key owner profile feature result)
    (held : row.status = .riskPending) {now : Time} (reading : Reading now) :
    (row.approved now).Kept codec key owner profile feature result ∧
      (row.approved now).reading codec key owner profile feature result =
        approvedRecord (row.reading codec key owner profile feature result) now := by
  constructor
  · refine kept.replan (.inr (.inl held)) (.inl rfl)
      (RoundRow.columns_claimable kept.supported kept.reads.counters (.inl rfl) (.inl rfl)
        reading.ne) ⟨kept.whole.created, reading.2, ?_, by rintro _ ⟨⟩⟩
    rintro _ ⟨⟩
    exact reading.2
  · rfl

theorem RoundRow.Kept.acknowledged (kept : row.Kept codec key owner profile feature result)
    (at_ : Option Time) :
    { row with resultAcknowledgedAt := at_ }.Kept codec key owner profile feature result :=
  { kept with
    reads := { kept.reads with columns := kept.reads.columns }
    whole := { kept.whole with created := kept.whole.created } }

/-! ## The receipt of a row -/

theorem outcomeHashFor_paid (schema : result.resultSchemaVersion = resultSchemaPaidFactsV1) :
    outcomeHashFor codec result = .ok (codec.sha256 (codec.marshalResult result)) := by
  have paid : resultSchemaPaidFactsV1 ≠ "" := by decide
  simp [outcomeHashFor, schema, paid]

theorem normalizePersistedSpinResult_paid
    (schema : result.resultSchemaVersion = resultSchemaPaidFactsV1) :
    normalizePersistedSpinResult result = .ok result := by
  have paid : resultSchemaPaidFactsV1 ≠ "" := by decide
  simp [normalizePersistedSpinResult, schema, paid]

/-- The transport deadline of a result is not part of its digest. -/
theorem outcomeHashFor_transport (result : SpinResult) (deadline : Time)
    (schema : result.resultSchemaVersion = resultSchemaPaidFactsV1) :
    outcomeHashFor codec { result with idleDisconnectAt := deadline } =
      outcomeHashFor codec result := by
  rw [outcomeHashFor_paid schema, outcomeHashFor_paid (by exact schema), codec.marshal_transport]

theorem preparedOutcomeHashFor_transport (result : SpinResult) (deadline : Time)
    (schema : result.resultSchemaVersion = resultSchemaPaidFactsV1) :
    preparedOutcomeHashFor codec { result with idleDisconnectAt := deadline } =
      preparedOutcomeHashFor codec result :=
  outcomeHashFor_transport
    { result with walletTransactionID := "", balanceMinor := 0, endRevision := 0 } deadline schema

theorem RoundRow.Kept.committed (kept : row.Kept codec key owner profile feature result)
    {receipt : WalletReceipt} {hash : String} {now : Time} {record : RoundRecord}
    (read : record = row.reading codec key owner profile feature result)
    (confirmed : validateWalletReceipt record.walletCommand receipt = .ok ())
    (hashed : committedResultHashFor codec (committedRecord record receipt now).result = .ok hash) :
    (row.committed (committedRecord record receipt now) receipt hash now).Kept codec key owner
        profile feature (committedRecord record receipt now).result ∧
      (row.committed (committedRecord record receipt now) receipt hash now).reading codec key owner
        profile feature (committedRecord record receipt now).result =
          Postgres.persisted (committedRecord record receipt now) := by
  subst read
  simp only [validateWalletReceipt, refuse_ok, not_or, not_not, not_lt, Bool.not_eq_false]
    at confirmed
  obtain ⟨operation, fingerprint, operator, currency, debit, credit, transaction, balance⟩ :=
    confirmed
  set committed := (committedRecord (row.reading codec key owner profile feature result) receipt
    now).result with result_eq
  have transport : { committed with idleDisconnectAt := 0 } = committed := by
    rw [result_eq]
    simp only [committedRecord, RoundRow.reading, RoundRow.record, ← kept.transport]
  have command := kept.reads.command
  simp only [checkCommandColumns, bind_ok, refuse_ok, exists_unit] at command
  obtain ⟨least, most, next, _⟩ := kept.reads.bounds
  have named : receipt.transactionID ≠ "" := by
    intro absent
    rw [absent] at transaction
    exact absurd transaction (by decide)
  constructor
  · refine
      { kept with
        reads :=
          { kept.reads with
            columns := RoundRow.columns_ended kept.reads.counters (by simp [RoundRow.Waiting,
              RoundRow.committed])
            decoded := ⟨committed, ?document, ?normal⟩
            receipt := ?receipt, command := ?command }
        document := ?document
        whole := ⟨kept.whole.created, stored_stored _, by rintro _ ⟨⟩, by rintro _ ⟨⟩⟩
        delivered := ?delivered }
    case document =>
      show marshalResult committed = .value committed
      rw [marshalResult, transport]
    case normal => exact normalizePersistedSpinResult_paid kept.schema
    case receipt =>
      have end_ : ((row.startingRevision.toNat + 1 : Nat) : Int) = row.resultingRevision := by
        rw [next]
        omega
      simp only [checkReceiptColumns, RoundRow.committed, refuse_ok, not_or, not_not, not_lt,
        Option.getD_some, reduceCtorEq, not_false_eq_true, true_and, Option.some.injEq]
      exact ⟨end_, rfl, rfl, named, balance⟩
    case command =>
      simp only [checkCommandColumns, bind_ok, refuse_ok, exists_unit]
      exact ⟨fun missing => kept.digested missing.2, command.2⟩
    case delivered =>
      intro _
      exact ⟨hash, rfl, hashed⟩
  · have paid : (row.committed (committedRecord (row.reading codec key owner profile feature
        result) receipt now) receipt hash now).receipt (row.command codec owner (row.request key)
          result) = some receipt := by
      show some _ = some receipt
      congr 1
      cases receipt
      simp only [WalletReceipt.mk.injEq, and_true, true_and]
      exact ⟨operation.symm, fingerprint.symm, operator.symm, currency.symm, debit.symm,
        credit.symm⟩
    calc
      _ = { row.reading codec key owner profile feature result with
            status := .committed, result := committed
            walletReceipt := (row.committed (committedRecord (row.reading codec key owner profile
              feature result) receipt now) receipt hash now).receipt
                (row.command codec owner (row.request key) result)
            walletPhase := .unset, nextAttemptAt := 0, walletLeaseUntil := 0
            updatedAt := stored now } := rfl
      _ = { Postgres.persisted (row.reading codec key owner profile feature result) with
            status := .committed, result := { committed with idleDisconnectAt := 0 }
            walletReceipt := some receipt
            walletPhase := .unset, nextAttemptAt := 0, walletLeaseUntil := 0
            updatedAt := stored now } := by rw [paid, kept.persisted, transport]
      _ = _ := rfl

/-! ## A new row -/

theorem validateSpinRequest_transport {request : SpinRequest}
    (valid : validateSpinRequest request = .ok ()) :
    validateSpinRequest { request with transportGeneration := 1 } = .ok () := by
  simp only [validateSpinRequest, bind_ok, refuse_ok, exists_unit] at valid ⊢
  obtain ⟨identifiers, digest, currency, bet, revision, _, kind⟩ := valid
  exact ⟨identifiers, digest, currency, bet, revision, by decide, kind⟩

/-- The feature of a session that is read back is one a round may begin with. -/
theorem validateRoundInputFeature_of_persisted {request : SpinRequest}
    (valid : validatePersistedFeatureState feature = .ok ())
    (kind : request.roundKind = expectedRoundKind feature)
    (bet : feature.active = true → feature.betMinor = request.betMinor) :
    validateRoundInputFeature feature request = .ok () := by
  unfold validatePersistedFeatureState at valid
  unfold validateRoundInputFeature
  rw [bind_ok] at valid ⊢
  obtain ⟨_, meter, state⟩ := valid
  rw [refuse_ok] at meter
  refine ⟨(), by rwa [refuse_ok], ?_⟩
  cases active : feature.active with
  | false =>
      simp only [active, if_true, bind_ok, refuse_ok, exists_unit, not_or, not_not] at state ⊢
      obtain ⟨mode, remaining, awarded, betMinor, win⟩ := state
      refine ⟨mode, remaining, awarded, betMinor, win, ?_⟩
      rw [kind]
      simp [expectedRoundKind, active]
  | true =>
      simp only [active, Bool.true_eq_false, if_false, bind_ok, refuse_ok, exists_unit, not_or,
        not_lt, not_le, not_not] at state ⊢
      obtain ⟨mode, remaining, awarded, limit, limit', betMinor, win⟩ := state
      refine ⟨mode, remaining, awarded, limit, limit', bet active, win, ?_⟩
      rw [kind]
      simp [expectedRoundKind, active]

theorem hasDigestAfter_append (label text : String) :
    hasDigestAfter label (label ++ text) = Text.digestPattern text := by
  simp [hasDigestAfter, String.toList_append]

theorem walletCommandFor_valid {session : Session} {request : SpinRequest} {operationID : String}
    (bound : ValidSession session) (valid : validateSpinRequest request = .ok ())
    (operation : Text.identifierPattern operationID = true) (debit : 0 ≤ result.chargedBetMinor)
    (credit : 0 ≤ result.totalWinMinor) :
    validateWalletCommand codec
      (walletCommandFor codec session request (fingerprintFor codec request) operationID result) =
        .ok () := by
  have identifiers := bound.identifiers
  simp only [validateSpinRequest, bind_ok, refuse_ok, exists_unit] at valid
  obtain ⟨named, digest, currency, _, _, _, kind⟩ := valid
  simp only [validateIdentifiers, forM_ok, List.forall_mem_cons, refuse_ok, Bool.not_eq_false,
    List.not_mem_nil, false_implies, implies_true, and_true] at identifiers named
  obtain ⟨_, _, player, account, wallet, _, _⟩ := identifiers
  obtain ⟨operator, session_, round, game, version⟩ := named
  simp only [validateWalletCommand, bind_ok, exists_unit, forM_ok, List.forall_mem_cons, refuse_ok,
    Bool.not_eq_false, List.not_mem_nil, false_implies, implies_true, and_true, not_or, not_lt]
  refine ⟨⟨operation, operator, player, account, wallet, session_, round, game, version⟩, ?_,
    eq_true_of_ne_false digest, eq_true_of_ne_false currency, kind, debit, credit, ?_, not_not.mpr rfl⟩
  · show hasDigestAfter "rgs-fp-v2:" ("rgs-fp-v2:" ++ _) = true
    rw [hasDigestAfter_append, codec.sha256_digest]
  · show "rgs-wallet-cmd-v1:" ++ _ ≠ ""
    intro empty
    have := congrArg String.length empty
    simp [String.length_append] at this

/-- What a fresh round is prepared from. -/
structure Fresh (codec : Codec) (session : Session) (request : SpinRequest) (profile : Profile)
    (prepared : SpinResult) (now : Time) : Prop where
  reading : Reading now
  valid : validateSpinRequest request = .ok ()
  supported : SupportedSettlementProfile profile
  bound : ValidSession session
  binding : validateBinding session request now = .ok ()
  built : BuiltResult codec session request prepared
  operation : Text.identifierPattern prepared.serverTransactionID = true

/-- The record of a fresh round, as it is returned. -/
theorem RoundRow.Kept.prepared {session : Session} {request : SpinRequest} {prepared : SpinResult}
    {now : Time} {input : FeatureState} (owned : owner.Reads request.key.session input)
    (same : session = owner.session request.key.session input)
    (fresh : Fresh codec session request profile prepared now) {outcomeHash : String} {held : Bool}
    (hashed : preparedOutcomeHashFor codec { prepared with
      idleDisconnectAt := session.renewedIdleDisconnectAt now } = .ok outcomeHash)
    {record : RoundRecord}
    (written : record = preparedRecord codec session request (fingerprintFor codec request) profile
      { prepared with idleDisconnectAt := session.renewedIdleDisconnectAt now } outcomeHash held
      now) :
    (preparedRow record).Kept codec request.key owner profile session.feature
        { prepared with idleDisconnectAt := 0 } ∧
      (preparedRow record).reading codec request.key owner profile session.feature
        { prepared with idleDisconnectAt := 0 } = Postgres.persisted record := by
  obtain ⟨⟨charged, outcome, rfl, charge, credit, structured, _, canonical⟩, checked⟩ :=
    fresh.built
  set result := spinResult codec session request charged outcome with result_eq
  have binding := fresh.binding
  simp only [validateBinding, bind_ok, refuse_ok, exists_unit, not_or, not_not, not_le,
    ge_iff_le] at binding
  obtain ⟨_, _, _, active, _, _, revision, kind, sequence, limit⟩ := binding
  simp only [validatePreparedResult, bind_ok, refuse_ok, exists_unit, not_or, not_not, not_lt]
    at checked
  obtain ⟨_, ⟨_, ended⟩, _, debit, _, balance⟩ := checked
  have transported := validateSpinRequest_transport fresh.valid
  have bet : 0 < request.betMinor := by
    have valid := fresh.valid
    simp only [validateSpinRequest, bind_ok, refuse_ok, exists_unit, not_le] at valid
    exact valid.2.2.2.1
  have charges := chargedBet_kind charge kind
  have command : validateWalletCommand codec (walletCommandFor codec session request
      (fingerprintFor codec request) result.serverTransactionID
        { result with idleDisconnectAt := session.renewedIdleDisconnectAt now }) = .ok () :=
    walletCommandFor_valid fresh.bound fresh.valid fresh.operation debit credit
  subst written same
  constructor
  · refine
      { reads :=
          { unmarked := owned.unmarked, known := owned.valid.status
            bounds := ?bounds, profiled := ?profiled, columns := ?columns, request := transported
            fingerprint := rfl, featured := rfl, input := ?input
            decoded := ⟨_, rfl, ?normal⟩, described := ?described, structured := structured
            hashed := ?hashed, receipt := ?receipt, command := ?command }
        document := rfl, schema := rfl, transport := rfl, canonical := canonical
        supported := fresh.supported, digested := by rintro ⟨⟩
        whole := ⟨stored_stored _, stored_stored _, ?next, by rintro _ ⟨⟩⟩
        delivered := ?delivered }
    case bounds =>
      have start : ((request.startRevision : Nat) : Int) < maxStateRevision := by
        rw [← revision]
        exact_mod_cast limit
      have next : ((owner.session request.key.session input).sequence + 1 : Nat) ≤
          maxClientSequence := sequence
      refine ⟨Int.natCast_nonneg _, start, rfl, ?_, ?_, bet, debit, credit⟩
      · show (1 : Int) ≤ ((owner.session request.key.session input).sequence + 1 : Nat)
        omega
      · exact Int.ofNat_le.mpr next
    case profiled =>
      have valid := fresh.supported.1
      show scanWalletProfile (.value profile) = .ok profile
      simp [scanWalletProfile, bind_ok, map_ok, valid]
    case columns =>
      have now_ne : stored now ≠ 0 := by
        rw [fresh.reading.2]
        exact fresh.reading.ne
      cases held with
      | false =>
          exact RoundRow.columns_claimable fresh.supported ⟨le_refl _, le_refl _, le_refl _⟩
            (.inl rfl) (.inl rfl) now_ne
      | true => simp [checkRoundColumns, preparedRow, preparedRecord, fresh.supported]
    case input =>
      exact validateRoundInputFeature_of_persisted owned.valid.feature kind charges.2.2
    case normal => exact normalizePersistedSpinResult_paid rfl
    case described =>
      simp only [checkResultColumns, bind_ok, refuse_ok, exists_unit]
      refine ⟨?_, ?_, ?_⟩
      · simp [preparedRow, preparedRecord, result_eq, spinResult, RoundRow.request, SpinRequest.key]
      · rintro ⟨base, different⟩
        exact different (charges.1 base)
      · rintro ⟨free, charged_⟩
        exact charged_ (charges.2.1 free)
    case hashed =>
      exact (preparedOutcomeHashFor_transport result 0 rfl).trans
        ((preparedOutcomeHashFor_transport result _ rfl).symm.trans hashed)
    case receipt =>
      have unreceipted : Unreceipted (preparedRow (preparedRecord codec
          (owner.session request.key.session input) request (fingerprintFor codec request) profile
          { result with idleDisconnectAt :=
            (owner.session request.key.session input).renewedIdleDisconnectAt now } outcomeHash held
          now)).status := by
        cases held
        · exact .inl rfl
        · exact .inr (.inl rfl)
      exact (checkReceiptColumns_unreceipted unreceipted).mpr ⟨ended, rfl, balance, rfl, rfl⟩
    case command =>
      simp only [checkCommandColumns, bind_ok, refuse_ok, exists_unit, checkOr_ok]
      refine ⟨?_, ?_, command⟩
      · rintro ⟨_, ⟨⟩⟩
      · rintro ⟨_, ⟨⟩, different⟩
        exact different rfl
    case next =>
      intro next there
      cases held with
      | false =>
          obtain rfl : stored now = next := Option.some.inj there
          exact stored_stored _
      | true => cases there
    case delivered =>
      intro committed
      cases held <;> cases committed
  · cases held
    · rfl
    · rfl

end Rows

end SlotsGame.Postgres
