/-
# SlotsGame.Rgs.MemorySteps -- the reference store, one session at a time

Each operation on the entry of a session is a step of its view.  The view of an
entry reads a round together with its ledger entry and its
delivery.  A round is read as `normalizeLegacyRecoveryState` leaves it, since
that is how every claim reads it.

The ledger is keyed by operation, and an operation is named by a digest of its
round.  `WellFormed` is about rounds whose operations are distinct; `Distinct`
asks that of the round keys a store is used with.
-/
import SlotsGame.Rgs.Contract
import SlotsGame.Rgs.MemoryRepository

namespace SlotsGame.Rgs

open SlotsGame.Theory

set_option autoImplicit false

variable {ω : Type} {codec : Codec}

/-! ## Views -/

def RoundRecord.terms (record : RoundRecord) : RoundTerms :=
  { fingerprint := record.fingerprint, command := record.walletCommand
    profile := record.walletProfile, startRevision := record.request.startRevision
    outcome := record.result.outcome }

/-- A record beside its ledger entry and its delivery. -/
def RoundRecord.view (record : RoundRecord) (money : Option TransactionStatus) (awaiting : Bool) :
    RoundView :=
  let recovered := normalizeLegacyRecoveryState record
  { terms := record.terms, status := record.status, money := money
    balance := record.result.balanceMinor, phase := recovered.walletPhase
    leaseUntil := if record.walletLeaseUntil = 0 then none else some record.walletLeaseUntil
    nextAttemptAt := recovered.nextAttemptAt, awaiting := awaiting }

/-- The ledger status of an operation. -/
def MemorySession.money (entry : MemorySession) (operationID : String) :
    Option TransactionStatus :=
  (entry.walletTransactions.lookup operationID).map (·.status)

def MemorySession.awaiting (entry : MemorySession) (roundID : String) : Bool :=
  match entry.deliveries.lookup roundID with
  | some delivery => delivery.acknowledgedAt = 0
  | none => false

def MemorySession.view (entry : MemorySession) : SessionView :=
  { status := entry.session.status, pending := entry.session.pendingRoundID
    revision := entry.session.revision, sequence := entry.session.sequence
    balance := entry.session.balanceMinor, feature := entry.session.feature
    rounds := fun id => (entry.rounds.lookup id).map fun record =>
      record.view (entry.money record.walletCommand.operationID) (entry.awaiting id) }

def MemoryRepository.view (repository : MemoryRepository) (key : SessionKey) :
    Option SessionView :=
  (repository.sessions.lookup key).map MemorySession.view

/-! ## Normalised records -/

section Normalize

variable {record : RoundRecord}

theorem normalize_of_valid (valid : record.walletPhase.Valid) :
    normalizeLegacyRecoveryState record = record := by
  rw [normalizeLegacyRecoveryState, if_pos valid]

theorem normalize_of_closed (prepared : record.status ≠ .prepared)
    (walletPending : record.status ≠ .walletPending) :
    normalizeLegacyRecoveryState record = record := by
  unfold normalizeLegacyRecoveryState
  split
  · rfl
  · rw [if_neg (by simp [prepared, walletPending])]

/-- Only the recovery plan of a record is normalised. -/
theorem normalize_kept (record : RoundRecord) :
    (normalizeLegacyRecoveryState record).status = record.status ∧
      (normalizeLegacyRecoveryState record).key = record.key ∧
      (normalizeLegacyRecoveryState record).request = record.request ∧
      (normalizeLegacyRecoveryState record).walletCommand = record.walletCommand ∧
      (normalizeLegacyRecoveryState record).walletProfile = record.walletProfile ∧
      (normalizeLegacyRecoveryState record).walletLeaseUntil = record.walletLeaseUntil ∧
      (normalizeLegacyRecoveryState record).result = record.result ∧
      (normalizeLegacyRecoveryState record).fingerprint = record.fingerprint := by
  simp only [normalizeLegacyRecoveryState]
  split
  · simp
  · split <;> simp

end Normalize

/-! ## Well-formed entries -/

/-- No two of these rounds share an operation. -/
def Distinct (codec : Codec) (keys : Set RoundKey) : Prop :=
  ∀ left right : SpinRequest, left.key ∈ keys → right.key ∈ keys →
    walletOperationID codec left = walletOperationID codec right → left.key = right.key

/-- What a stored round is called, everywhere it is named. -/
structure RoundRecord.Named (codec : Codec) (keys : Set RoundKey) (session : SessionKey)
    (id : String) (record : RoundRecord) : Prop where
  key : record.key = ⟨session.operatorID, session.sessionID, id⟩
  request : record.request.key = record.key
  used : record.key ∈ keys
  operation : record.walletCommand.operationID = walletOperationID codec record.request

structure MemorySession.WellFormed (codec : Codec) (keys : Set RoundKey) (key : SessionKey)
    (entry : MemorySession) : Prop where
  named : ∀ id record, entry.rounds.lookup id = some record → record.Named codec keys key id
  ledger : ∀ id record, entry.rounds.lookup id = some record →
    ∃ transaction, entry.walletTransactions.lookup record.walletCommand.operationID =
      some transaction ∧ transaction.command.roundID = id

def MemoryRepository.WellFormed (codec : Codec) (keys : Set RoundKey)
    (repository : MemoryRepository) : Prop :=
  ∀ key entry, repository.sessions.lookup key = some entry → entry.WellFormed codec keys key

namespace MemorySession

variable {keys : Set RoundKey} {key : SessionKey} {entry after : MemorySession}

@[simp] theorem view_rounds (entry : MemorySession) (id : String) :
    entry.view.rounds id = (entry.rounds.lookup id).map fun record =>
      record.view (entry.money record.walletCommand.operationID) (entry.awaiting id) := rfl

theorem view_found {id : String} {record : RoundRecord}
    (found : entry.rounds.lookup id = some record) :
    entry.view.rounds id =
      some (record.view (entry.money record.walletCommand.operationID) (entry.awaiting id)) := by
  rw [view_rounds, found, Option.map_some]

/-- Two stored rounds with one operation are one round. -/
theorem WellFormed.operation_inj (formed : entry.WellFormed codec keys key)
    (distinct : Distinct codec keys) {id other : String} {record third : RoundRecord}
    (found : entry.rounds.lookup id = some record) (there : entry.rounds.lookup other = some third)
    (same : record.walletCommand.operationID = third.walletCommand.operationID) : id = other := by
  have named := formed.named id record found
  have named' := formed.named other third there
  rw [named.operation, named'.operation] at same
  have keys := distinct record.request third.request (by rw [named.request]; exact named.used)
    (by rw [named'.request]; exact named'.used) same
  rw [named.request, named'.request, named.key, named'.key] at keys
  exact (RoundKey.mk.inj keys).2.2

/-- Writing one round and what belongs to it. -/
theorem view_rounds_put (entry after : MemorySession) (id : String) (written : RoundRecord)
    (rounds : after.rounds = entry.rounds.insert id written)
    (ledger : ∀ other third, other ≠ id → entry.rounds.lookup other = some third →
      after.money third.walletCommand.operationID = entry.money third.walletCommand.operationID)
    (deliveries : ∀ other, other ≠ id → after.awaiting other = entry.awaiting other) :
    after.view.rounds = (entry.view.put id
      (written.view (after.money written.walletCommand.operationID) (after.awaiting id))).rounds := by
  funext other
  rw [view_rounds, rounds, Table.lookup_insert, SessionView.put_rounds]
  by_cases same : other = id
  · subst same
    simp only [if_true, Option.map_some]
  · rw [if_neg same, if_neg same, view_rounds]
    cases there : entry.rounds.lookup other with
    | none => rfl
    | some third => rw [Option.map_some, Option.map_some, ledger other third same there,
        deliveries other same]

/-- What a step on one round must keep for the entry to stay well formed. -/
theorem WellFormed.put (formed : entry.WellFormed codec keys key) (id : String)
    (written : RoundRecord) (named : written.Named codec keys key id)
    (rounds : after.rounds = entry.rounds.insert id written)
    (own : ∃ transaction, after.walletTransactions.lookup written.walletCommand.operationID =
      some transaction ∧ transaction.command.roundID = id)
    (ledger : ∀ other third, other ≠ id → entry.rounds.lookup other = some third →
      ∀ transaction, entry.walletTransactions.lookup third.walletCommand.operationID =
        some transaction → ∃ later, after.walletTransactions.lookup
          third.walletCommand.operationID = some later ∧
            later.command.roundID = transaction.command.roundID) :
    after.WellFormed codec keys key := by
  constructor
  · intro other third found
    rw [rounds, Table.lookup_insert] at found
    split at found
    case isTrue same =>
      subst same
      cases found
      exact named
    case isFalse => exact formed.named other third found
  · intro other third found
    rw [rounds, Table.lookup_insert] at found
    split at found
    case isTrue same =>
      subst same
      cases found
      exact own
    case isFalse different =>
      obtain ⟨transaction, there, belongs⟩ := formed.ledger other third found
      obtain ⟨later, kept, same⟩ := ledger other third different found transaction there
      exact ⟨later, kept, same.trans belongs⟩

/-- A change of the plan of a round: its ledger entry and deliveries stay. -/
theorem WellFormed.put_plan (formed : entry.WellFormed codec keys key) {id : String}
    {record : RoundRecord} (found : entry.rounds.lookup id = some record) (written : RoundRecord)
    (sameKey : written.key = record.key) (sameRequest : written.request = record.request)
    (sameCommand : written.walletCommand = record.walletCommand) :
    ({ entry with rounds := entry.rounds.insert id written } : MemorySession).WellFormed codec keys
        key ∧
      ({ entry with rounds := entry.rounds.insert id written } : MemorySession).view =
        entry.view.put id (written.view (entry.money record.walletCommand.operationID)
          (entry.awaiting id)) := by
  have named := formed.named id record found
  obtain ⟨transaction, there, belongs⟩ := formed.ledger id record found
  constructor
  · refine formed.put id written ⟨?_, ?_, ?_, ?_⟩ rfl ?_ ?_
    · exact sameKey.trans named.key
    · rw [sameRequest, sameKey]
      exact named.request
    · rw [sameKey]
      exact named.used
    · rw [sameCommand, sameRequest]
      exact named.operation
    · exact ⟨transaction, by rw [sameCommand]; exact there, belongs⟩
    · intro _ _ _ _ transaction there
      exact ⟨transaction, there, rfl⟩
  · have rounds := view_rounds_put entry { entry with rounds := entry.rounds.insert id written } id
      written rfl
      (fun _ _ _ _ => rfl) (fun _ _ => rfl)
    rw [sameCommand] at rounds
    exact SessionView.ext rfl rfl rfl rfl rfl rfl rounds

/-! ## Scheduling and claiming -/

theorem scheduledRecord_view {record : RoundRecord} {disposition : WalletRecoveryDisposition}
    {jitterDelay : Duration} {now : Time} {money : Option TransactionStatus} {awaiting : Bool}
    (valid : disposition.nextAction.Valid) :
    (scheduledRecord record disposition jitterDelay now).view money awaiting =
      (record.view money awaiting).schedule disposition.nextAction
        (scheduledRecord record disposition jitterDelay now).nextAttemptAt := by
  have normal : normalizeLegacyRecoveryState (scheduledRecord record disposition jitterDelay now) =
      scheduledRecord record disposition jitterDelay now := normalize_of_valid valid
  simp only [RoundRecord.view, normal]
  rfl

theorem scheduled_not_before (record : RoundRecord) (disposition : WalletRecoveryDisposition)
    (jitterDelay : Duration) (now : Time) :
    now + max disposition.minimumDelay jitterDelay ≤
      (scheduledRecord record disposition jitterDelay now).nextAttemptAt := by
  simp only [scheduledRecord]
  grind

theorem schedule_disposition_valid {claim : WalletRecoveryClaim}
    {disposition : WalletRecoveryDisposition} {jitterDelay : Duration}
    (accepted : validateWalletRecoverySchedule claim disposition jitterDelay = .ok ()) :
    disposition.nextAction.Valid ∧ claim.leaseUntil ≠ 0 := by
  simp only [validateWalletRecoverySchedule, refuse_ok, not_or, not_and, not_not] at accepted
  obtain ⟨going, valid, _, _, leased, _⟩ := accepted
  refine ⟨?_, leased⟩
  rw [validateWalletRecoveryDisposition, if_neg going] at valid
  simp only [bind_ok, refuse_ok, exists_unit, not_not] at valid
  exact valid.1

theorem schedule_step (formed : entry.WellFormed codec keys key) {claim : WalletRecoveryClaim}
    {disposition : WalletRecoveryDisposition} {jitterDelay : Duration} {now : Time} {done : Bool}
    (accepted : validateWalletRecoverySchedule claim disposition jitterDelay = .ok ())
    (ran : entry.scheduleWalletRecovery claim disposition jitterDelay now = .ok (done, after)) :
    after.WellFormed codec keys key ∧
      ((done = false ∧ after = entry) ∨
        (done = true ∧ ∃ at_, now + max disposition.minimumDelay jitterDelay ≤ at_ ∧
          entry.view.Step (.scheduled claim.record.key.roundID claim.leaseUntil
            disposition.nextAction at_) after.view)) := by
  obtain ⟨valid, leased⟩ := schedule_disposition_valid accepted
  simp only [scheduleWalletRecovery, bind_ok, require_ok] at ran
  obtain ⟨record, found, ran⟩ := ran
  split at ran
  case isTrue stale =>
    obtain ⟨rfl, rfl⟩ := Prod.mk.inj (pure_ok.mp ran)
    exact ⟨formed, .inl ⟨rfl, rfl⟩⟩
  case isFalse owned =>
    simp only [bind_ok, abortWhen_ok, exists_unit, pure_ok, Prod.mk.injEq] at ran
    obtain ⟨_, rfl, rfl⟩ := ran
    simp only [not_or, not_and, not_not, ne_eq] at owned
    obtain ⟨open_, same⟩ := owned
    obtain ⟨formed', view⟩ := formed.put_plan found
      (scheduledRecord record disposition jitterDelay now) rfl rfl rfl
    refine ⟨formed', .inr ⟨rfl, _, scheduled_not_before record disposition jitterDelay now, ?_⟩⟩
    rw [view, scheduledRecord_view valid]
    refine .scheduled _ _ _ _ _ ⟨view_found found, ?_, ?_⟩ valid
    · by_cases prepared : record.status = .prepared
      · exact .inl prepared
      · exact .inr (open_ prepared)
    · show (if record.walletLeaseUntil = 0 then none else some record.walletLeaseUntil) = _
      rw [same, if_neg leased]

/-- The claim of a due round: it reads the round's action and leases it until then. -/
theorem claimMemoryWallet_some {record : RoundRecord} {session : Session} {now : Time}
    {leaseDuration : Duration} {claim : WalletRecoveryClaim}
    (ran : claimMemoryWallet record session now leaseDuration = .ok (some claim)) :
    RecoveryRecordDue (normalizeLegacyRecoveryState record) session now ∧
      claim = { record := claimedRecord (normalizeLegacyRecoveryState record) now
                  (now + leaseDuration)
                action := (normalizeLegacyRecoveryState record).walletPhase
                leaseUntil := now + leaseDuration } := by
  simp only [claimMemoryWallet] at ran
  split at ran
  · cases ran
  case isFalse due =>
    simp only [bind_ok, refuse_ok, exists_unit, pure_ok, Option.some.injEq] at ran
    exact ⟨not_not.mp due, ran.2.symm⟩

/-- A round that is due is always granted. -/
theorem claimMemoryWallet_ok (record : RoundRecord) (session : Session) (now : Time)
    (leaseDuration : Duration) :
    ∃ claimed, claimMemoryWallet record session now leaseDuration = .ok claimed := by
  simp only [claimMemoryWallet]
  split
  · exact ⟨none, rfl⟩
  case isFalse due =>
    obtain ⟨⟨_, _, pending, revision⟩, _⟩ := not_not.mp due
    simp only [bind_ok, refuse_ok, exists_unit, pure_ok, pending, revision, ne_eq, not_true,
      or_self, not_false_eq_true, true_and]
    exact ⟨_, rfl⟩

theorem claimedRecord_view {record : RoundRecord} {now leaseUntil : Time}
    {money : Option TransactionStatus} {awaiting : Bool}
    (valid : (normalizeLegacyRecoveryState record).walletPhase.Valid) (positive : 0 < leaseUntil) :
    (claimedRecord (normalizeLegacyRecoveryState record) now leaseUntil).view money awaiting =
      (record.view money awaiting).claim leaseUntil := by
  have phase := claimedRecord_phase now leaseUntil valid
  obtain ⟨_, request, command, profile, result, fingerprint, status, lease, next⟩ :=
    claimedRecord_kept (normalizeLegacyRecoveryState record) now leaseUntil
  obtain ⟨_, _, request', command', profile', _, result', fingerprint'⟩ := normalize_kept record
  have normal : normalizeLegacyRecoveryState (claimedRecord (normalizeLegacyRecoveryState record) now
      leaseUntil) = claimedRecord (normalizeLegacyRecoveryState record) now leaseUntil :=
    normalize_of_valid (.inr phase)
  have held : leaseUntil ≠ 0 := positive.ne'
  simp only [RoundRecord.view, RoundRecord.terms, RoundView.claim, normal, request, command, profile,
    result, fingerprint, status, lease, next, phase, request', command', profile', result',
    fingerprint', if_neg held]

/-- A claim on a stored round, made from a copy of it or from the round itself. -/
theorem claim_step (formed : entry.WellFormed codec keys key) {id : String}
    {record copy : RoundRecord} {now : Time} {leaseDuration : Duration}
    {claim : WalletRecoveryClaim} (found : entry.rounds.lookup id = some record)
    (copied : normalizeLegacyRecoveryState copy = normalizeLegacyRecoveryState record)
    (ledger : (record.view (entry.money record.walletCommand.operationID)
      (entry.awaiting id)).Undetermined)
    (ran : claimMemoryWallet copy entry.session now leaseDuration = .ok (some claim))
    (clock : 0 < now) (lease : 0 < leaseDuration) :
    claim.record.key = record.key ∧ claim.leaseUntil = now + leaseDuration ∧
      claim.record.walletCommand = record.walletCommand ∧
      claim.record.walletProfile = record.walletProfile ∧
      ({ entry with rounds := entry.rounds.insert id claim.record } : MemorySession).WellFormed codec
        keys key ∧
      entry.view.Step (.claimed id claim.action claim.leaseUntil now)
        ({ entry with rounds := entry.rounds.insert id claim.record } : MemorySession).view := by
  obtain ⟨due, rfl⟩ := claimMemoryWallet_some ran
  rw [copied] at due ⊢
  obtain ⟨⟨⟨claimable, valid, _⟩, active, pending, current⟩, attempt, expired⟩ := due
  obtain ⟨status', key', request', command', profile', lease', _⟩ := normalize_kept record
  obtain ⟨sameKey, sameRequest, sameCommand, sameProfile, _⟩ :=
    claimedRecord_kept (normalizeLegacyRecoveryState record) now (now + leaseDuration)
  have positive : 0 < now + leaseDuration := by grind
  obtain ⟨formed', view⟩ := formed.put_plan found
    (claimedRecord (normalizeLegacyRecoveryState record) now (now + leaseDuration))
    (sameKey.trans key') (sameRequest.trans request') (sameCommand.trans command')
  refine ⟨sameKey.trans key', rfl, sameCommand.trans command', sameProfile.trans profile', formed',
    ?_⟩
  rw [view, claimedRecord_view valid positive]
  have named := formed.named id record found
  refine .claimed id _ _ now active ?_ (view_found found) ?_ ?_ valid attempt ?_ ledger
  · exact pending.trans (by rw [key', named.key])
  · rw [status'] at claimable
    exact claimable
  · exact current.trans (by rw [request']; rfl)
  · intro held there
    rw [lease'] at expired
    simp only [RoundRecord.view] at there
    split at there
    · cases there
    · cases there
      exact expired

/-! ## Isolating a round -/

theorem reviewedRecord_view {record : RoundRecord} {target : RoundStatus} (reason : Bytes)
    (now : Time) {money : Option TransactionStatus} (before : Option TransactionStatus)
    {awaiting : Bool} (closed : target = .rejected ∨ target = .manualReview) :
    (reviewedRecord record target reason now).view money awaiting =
      (record.view before awaiting).finish target money := by
  have normal : normalizeLegacyRecoveryState (reviewedRecord record target reason now) =
      reviewedRecord record target reason now := by
    rcases closed with rfl | rfl
    · exact normalize_of_closed (by simp [reviewedRecord]) (by simp [reviewedRecord])
    · exact normalize_of_closed (by simp [reviewedRecord]) (by simp [reviewedRecord])
  simp only [RoundRecord.view, normal]
  rfl

theorem doubted_lookup (entry : MemorySession) (roundID operationID : String) :
    (entry.doubtTransactions roundID).walletTransactions.lookup operationID =
      (entry.walletTransactions.lookup operationID).map fun transaction =>
        if transaction.command.roundID = roundID ∧ transaction.status = .pending then
          { transaction with status := .unknown }
        else transaction := by
  rw [doubtTransactions, Table.lookup_update]

/-- Putting a round in review with its ledger entry in doubt, and blocking the session
at it. -/
theorem WellFormed.isolate (formed : entry.WellFormed codec keys key) {id : String}
    {record : RoundRecord} (found : entry.rounds.lookup id = some record) (reason : Bytes)
    (now : Time) :
    ((({ entry with
        rounds := entry.rounds.insert id (reviewedRecord record .manualReview reason now) }
          : MemorySession).block id).doubtTransactions id).WellFormed codec keys key ∧
      ∃ money, (record.view (entry.money record.walletCommand.operationID)
          (entry.awaiting id)).IsolatedMoney money ∧
        ((({ entry with
          rounds := entry.rounds.insert id (reviewedRecord record .manualReview reason now) }
            : MemorySession).block id).doubtTransactions id).view =
          { (entry.view.put id ((record.view (entry.money record.walletCommand.operationID)
              (entry.awaiting id)).finish .manualReview money)).block with pending := id } := by
  set reviewed := reviewedRecord record .manualReview reason now
  set after := (({ entry with rounds := entry.rounds.insert id reviewed } : MemorySession).block
    id).doubtTransactions id
  have named := formed.named id record found
  obtain ⟨transaction, there, belongs⟩ := formed.ledger id record found
  have ledger (operationID : String) :
      after.walletTransactions.lookup operationID =
        (entry.walletTransactions.lookup operationID).map fun transaction =>
          if transaction.command.roundID = id ∧ transaction.status = .pending then
            { transaction with status := .unknown }
          else transaction :=
    doubted_lookup _ id operationID
  constructor
  · refine formed.put id reviewed
      ⟨named.key, named.request, named.used, named.operation⟩ rfl ?_ ?_
    · refine ⟨_, (ledger _).trans (congrArg _ there), ?_⟩
      dsimp only
      split <;> exact belongs
    · intro other third _ _ transaction there
      refine ⟨_, (ledger _).trans (congrArg _ there), ?_⟩
      dsimp only
      split <;> rfl
  · refine ⟨after.money record.walletCommand.operationID, ?_, ?_⟩
    · have before : entry.money record.walletCommand.operationID = some transaction.status := by
        rw [money, there, Option.map_some]
      have later : after.money record.walletCommand.operationID =
          some (if transaction.status = .pending then .unknown else transaction.status) := by
        rw [money, ledger, there, Option.map_some, Option.map_some]
        by_cases pending : transaction.status = .pending <;> simp [belongs, pending]
      rw [RoundView.IsolatedMoney, later]
      simp only [RoundRecord.view, before, Option.some.injEq]
      by_cases pending : transaction.status = .pending <;> simp [pending]
    · rw [← reviewedRecord_view reason now _ (.inr rfl)]
      have rounds := view_rounds_put entry after id reviewed rfl
        (fun other third different found => by
          obtain ⟨theirs, there, belongs⟩ := formed.ledger other third found
          rw [money, money, ledger, there]
          simp [belongs, different])
        (fun _ _ => rfl)
      exact SessionView.ext rfl rfl rfl rfl rfl rfl rounds

theorem quarantine_step (formed : entry.WellFormed codec keys key) {id : String}
    {record : RoundRecord} (found : entry.rounds.lookup id = some record)
    (claimable : record.status = .prepared ∨ record.status = .walletPending) (now : Time) :
    (quarantineMemoryWalletClaim entry id now).WellFormed codec keys key ∧
      entry.view.Step (.isolated id) (quarantineMemoryWalletClaim entry id now).view := by
  simp only [quarantineMemoryWalletClaim, found]
  obtain ⟨formed', money, doubted, view⟩ :=
    formed.isolate found persistedWalletLedgerIntegrityFailure now
  refine ⟨formed', ?_⟩
  rw [view]
  refine .isolated id _ money (view_found found) ?_ doubted id (.inr ⟨claimable, rfl⟩)
  show record.status ≠ .committed
  rcases claimable with status | status <;> simp [status]

theorem mark_step (formed : entry.WellFormed codec keys key) {id : String} {reason : Bytes} {now : Time}
    {result : RoundRecord × Bool} (ran : entry.markManualReview id reason now = .ok (result, after)) :
    after.WellFormed codec keys key ∧
      ((result.2 = false ∧ after = entry) ∨
        (result.2 = true ∧ entry.view.Step (.marked id) after.view)) := by
  simp only [markManualReview, bind_ok, require_ok] at ran
  obtain ⟨record, found, ran⟩ := ran
  simp only [abortWhen_ok, exists_unit] at ran
  obtain ⟨uncommitted, ran⟩ := ran
  split at ran
  · obtain ⟨rfl, rfl⟩ := Prod.mk.inj (pure_ok.mp ran)
    exact ⟨formed, .inl ⟨rfl, rfl⟩⟩
  · obtain ⟨rfl, rfl⟩ := Prod.mk.inj (pure_ok.mp ran)
    obtain ⟨formed', money, doubted, view⟩ := formed.isolate found reason now
    refine ⟨formed', .inr ⟨rfl, ?_⟩⟩
    rw [view]
    exact .marked id _ money (view_found found) uncommitted doubted

/-! ## Claiming one round -/

/-- A round whose binding is accepted has an open ledger entry. -/
theorem WellFormed.undetermined (formed : entry.WellFormed codec keys key) {id : String}
    {record copy : RoundRecord} (found : entry.rounds.lookup id = some record)
    (sameKey : copy.key = record.key)
    (bound : validateWalletRecoveryMemoryBinding codec entry copy = .ok ()) :
    (record.view (entry.money record.walletCommand.operationID)
      (entry.awaiting id)).Undetermined := by
  obtain ⟨transaction, there, belongs⟩ := formed.ledger id record found
  have named := formed.named id record found
  simp only [validateWalletRecoveryMemoryBinding, bind_ok, refuse_ok, exists_unit] at bound
  obtain ⟨_, agrees, _⟩ := bound
  have member : (record.walletCommand.operationID, transaction) ∈
      entry.walletTransactions.rows.filter fun row => row.2.command.roundID = copy.key.roundID := by
    rw [List.mem_filter]
    refine ⟨Table.mem_rows.mpr there, ?_⟩
    rw [sameKey, named.key]
    exact decide_eq_true belongs
  have still : transaction.status = .pending ∨ transaction.status = .unknown := by
    by_contra closed
    rw [not_or] at closed
    exact agrees ⟨_, member, .inr (.inr (.inr closed))⟩
  simp only [RoundView.Undetermined, RoundRecord.view, money, there, Option.map_some,
    Option.some.injEq]
  exact still

theorem claimWallet_ok (formed : entry.WellFormed codec keys key) {id : String}
    {leaseDuration : Duration} {now quarantineNow : Time} {result : WalletRecoveryClaim × Bool}
    (ran : entry.claimWallet codec id leaseDuration now quarantineNow = .ok (result, after))
    (clock : 0 < now) (lease : 0 < leaseDuration) :
    after.WellFormed codec keys key ∧
      ((result.2 = false ∧ after = entry) ∨
        (result.2 = true ∧ ∃ record, entry.rounds.lookup id = some record ∧
          result.1.record.key = record.key ∧ result.1.leaseUntil = now + leaseDuration ∧
          result.1.record.walletCommand = record.walletCommand ∧
          result.1.record.walletProfile = record.walletProfile ∧
          entry.view.Step (.claimed id result.1.action result.1.leaseUntil now) after.view)) := by
  simp only [claimWallet, bind_ok, require_ok] at ran
  obtain ⟨record, found, ran⟩ := ran
  split at ran
  · cases ran
  case isFalse bound =>
    simp only [bind_ok, check_ok] at ran
    obtain ⟨claimed, granted, ran⟩ := ran
    cases claimed with
    | none =>
        obtain ⟨rfl, rfl⟩ := Prod.mk.inj (pure_ok.mp ran)
        exact ⟨formed, .inl ⟨rfl, rfl⟩⟩
    | some claim =>
        obtain ⟨rfl, rfl⟩ := Prod.mk.inj (pure_ok.mp ran)
        have claimable : record.status = .prepared ∨ record.status = .walletPending := by
          have due := (claimMemoryWallet_some granted).1
          rw [← (normalize_kept record).1]
          exact due.1.1.1
        have accepted : validateWalletRecoveryMemoryBinding codec entry record = .ok () := by
          by_contra refused
          exact bound ⟨claimable, refused⟩
        obtain ⟨sameKey, until_, command, profile, formed', step⟩ :=
          claim_step formed found rfl (formed.undetermined found rfl accepted) granted clock lease
        exact ⟨formed', .inr ⟨rfl, record, found, sameKey, until_, command, profile, step⟩⟩

theorem claimWallet_committed (formed : entry.WellFormed codec keys key) {id : String}
    {leaseDuration : Duration} {now quarantineNow : Time} {error : RgsError}
    (ran : entry.claimWallet codec id leaseDuration now quarantineNow =
      .error (.committed error after)) :
    after.WellFormed codec keys key ∧ entry.view.Step (.isolated id) after.view := by
  simp only [claimWallet, bind_committed, require_committed, require_ok, false_or] at ran
  obtain ⟨record, found, ran⟩ := ran
  split at ran
  case isTrue bad =>
    cases ran
    exact quarantine_step formed found bad.1 quarantineNow
  case isFalse =>
    simp only [bind_committed, check_committed, check_ok, false_or] at ran
    obtain ⟨claimed, _, ran⟩ := ran
    cases claimed <;> simp at ran

/-! ## Completing a claim -/

/-- A round that ends under its claim: its record and the status of its operation are
written; `change` is what happens to the session and the deliveries. -/
theorem WellFormed.finish (formed : entry.WellFormed codec keys key) (distinct : Distinct codec keys)
    {id : String} {record : RoundRecord} (found : entry.rounds.lookup id = some record)
    (written : RoundRecord) (status : TransactionStatus) (changed : MemorySession)
    (sameKey : written.key = record.key) (sameRequest : written.request = record.request)
    (sameCommand : written.walletCommand = record.walletCommand)
    (rounds : changed.rounds = entry.rounds.insert id written)
    (ledger : changed.walletTransactions = entry.walletTransactions)
    (deliveries : ∀ other, other ≠ id → changed.awaiting other = entry.awaiting other) :
    (changed.setTransactionStatus record.walletCommand.operationID status).WellFormed codec keys
        key ∧
      (changed.setTransactionStatus record.walletCommand.operationID status).view.rounds =
        (entry.view.put id (written.view (some status) (changed.awaiting id))).rounds := by
  set after := changed.setTransactionStatus record.walletCommand.operationID status
  have named := formed.named id record found
  obtain ⟨transaction, there, belongs⟩ := formed.ledger id record found
  have entries (operationID : String) :
      after.walletTransactions.lookup operationID =
        if operationID = record.walletCommand.operationID then
          some { transaction with status := status }
        else entry.walletTransactions.lookup operationID := by
    show (changed.setTransactionStatus _ _).walletTransactions.lookup operationID = _
    simp only [setTransactionStatus, putTransaction, Table.lookup_insert, ledger, there,
      Option.getD_some]
  have others {other : String} {third : RoundRecord} (different : other ≠ id)
      (found' : entry.rounds.lookup other = some third) :
      third.walletCommand.operationID ≠ record.walletCommand.operationID := by
    intro same
    exact different (formed.operation_inj distinct found' found same)
  constructor
  · refine formed.put id written ⟨?_, ?_, ?_, ?_⟩ rounds ?_ ?_
    · exact sameKey.trans named.key
    · rw [sameRequest, sameKey]
      exact named.request
    · rw [sameKey]
      exact named.used
    · rw [sameCommand, sameRequest]
      exact named.operation
    · refine ⟨_, (entries _).trans (if_pos (by rw [sameCommand])), belongs⟩
    · intro other third different found' transaction there
      exact ⟨transaction, (entries _).trans ((if_neg (others different found')).trans there), rfl⟩
  · have own : after.money written.walletCommand.operationID = some status := by
      rw [money, entries, if_pos (by rw [sameCommand]), Option.map_some]
    rw [view_rounds_put entry after id written rounds
      (fun other third different found' => by
        rw [money, money, entries, if_neg (others different found')])
      deliveries, own]
    rfl

theorem leased_view {id : String} {record : RoundRecord} {claim : WalletRecoveryClaim}
    (found : entry.rounds.lookup id = some record) (owned : OwnsWalletClaim record claim) :
    entry.view.Leased id
      (record.view (entry.money record.walletCommand.operationID) (entry.awaiting id))
      claim.leaseUntil := by
  obtain ⟨claimable, leased, same⟩ := owned
  refine ⟨view_found found, claimable, ?_⟩
  show (if record.walletLeaseUntil = 0 then none else some record.walletLeaseUntil) = _
  rw [same, if_neg leased]

theorem commit_step (formed : entry.WellFormed codec keys key) (distinct : Distinct codec keys)
    {claim : WalletRecoveryClaim} {receipt : WalletReceipt} {now : Time}
    {result : RoundRecord × Bool}
    (ran : entry.commitClaim codec claim receipt now = .ok (result, after)) :
    after.WellFormed codec keys key ∧ result.2 = true ∧
      entry.view.Step (.committed claim.record.key.roundID claim.leaseUntil receipt) after.view := by
  simp only [commitClaim, bind_ok, require_ok, abortWhen_ok, check_ok, exists_unit, pure_ok,
    Prod.mk.injEq, not_not, not_or, not_le] at ran
  obtain ⟨record, found, owned, confirmed, ⟨pending, current⟩, _, resultHash, _, rfl, rfl⟩ := ran
  set id := claim.record.key.roundID
  set committed := committedRecord record receipt now
  set changed : MemorySession :=
    { entry with
      session := committedSession entry.session committed receipt
      rounds := entry.rounds.insert id committed
      deliveries := entry.deliveries.insert id
        (committedDelivery claim.record.key committed resultHash) }
  have deliveries (other : String) (different : other ≠ id) :
      changed.awaiting other = entry.awaiting other := by
    simp only [awaiting, changed, Table.lookup_insert, if_neg different]
  have waiting : changed.awaiting id = true := by
    simp only [awaiting, changed, Table.lookup_insert, if_true]
    rfl
  obtain ⟨formed', rounds⟩ := formed.finish distinct found committed .succeeded changed
    rfl rfl rfl rfl rfl deliveries
  refine ⟨formed', rfl, ?_⟩
  have view : committed.view (some .succeeded) (changed.awaiting id) =
      (record.view (entry.money record.walletCommand.operationID) (entry.awaiting id)).commit
        receipt.balanceMinor := by
    have normal : normalizeLegacyRecoveryState committed = committed :=
      normalize_of_closed (by simp [committed, committedRecord])
        (by simp [committed, committedRecord])
    simp only [RoundRecord.view, normal, waiting]
    rfl
  rw [view] at rounds
  have step := SessionView.Step.committed id _ claim.leaseUntil receipt (leased_view found owned)
    pending current confirmed
  have same_view : (changed.setTransactionStatus record.walletCommand.operationID .succeeded).view =
      { entry.view.put id ((record.view (entry.money record.walletCommand.operationID)
          (entry.awaiting id)).commit receipt.balanceMinor) with
        pending := "", revision := record.request.startRevision + 1
        sequence := record.result.sequence, balance := receipt.balanceMinor
        feature := record.result.featureState } :=
    SessionView.ext rfl rfl rfl rfl rfl rfl rounds
  rw [same_view]
  exact step

theorem release_view (entry : MemorySession) (id : String) :
    (entry.release id).view = entry.view.release id := by
  unfold release SessionView.release
  by_cases pending : entry.session.pendingRoundID = id
  · rw [if_pos pending, if_pos (show entry.view.pending = id from pending)]
    rfl
  · rw [if_neg pending, if_neg (show ¬ entry.view.pending = id from pending)]

theorem release_setTransactionStatus (entry : MemorySession) (id operationID : String)
    (status : TransactionStatus) :
    (entry.release id).setTransactionStatus operationID status =
      (entry.setTransactionStatus operationID status).release id := by
  have session : (entry.setTransactionStatus operationID status).session = entry.session := rfl
  unfold release
  rw [session]
  split <;> rfl

theorem WellFormed.release (formed : entry.WellFormed codec keys key) (id : String) :
    (entry.release id).WellFormed codec keys key := by
  unfold MemorySession.release
  split
  · exact ⟨formed.named, formed.ledger⟩
  · exact formed

theorem reject_step (formed : entry.WellFormed codec keys key) (distinct : Distinct codec keys)
    {claim : WalletRecoveryClaim} {reason : Bytes} {now : Time} {result : RoundRecord × Bool}
    (ran : entry.transitionClaimFailure claim .rejected reason true now = .ok (result, after)) :
    after.WellFormed codec keys key ∧ result.2 = true ∧
      entry.view.Step (.rejected claim.record.key.roundID claim.leaseUntil) after.view := by
  simp only [transitionClaimFailure, bind_ok, require_ok, abortWhen_ok, exists_unit, pure_ok,
    Prod.mk.injEq, not_not, if_true, reduceCtorEq, if_false] at ran
  obtain ⟨record, found, owned, rfl, rfl⟩ := ran
  set id := claim.record.key.roundID
  set recorded : MemorySession :=
    { entry with rounds := entry.rounds.insert id (reviewedRecord record .rejected reason now) }
  obtain ⟨formed', rounds⟩ := formed.finish distinct found
    (reviewedRecord record .rejected reason now) .failed recorded rfl rfl rfl rfl rfl fun _ _ => rfl
  have view : (recorded.setTransactionStatus record.walletCommand.operationID .failed).view =
      entry.view.put id ((record.view (entry.money record.walletCommand.operationID)
        (entry.awaiting id)).finish .rejected (some .failed)) := by
    rw [← reviewedRecord_view reason now _ (.inl rfl)]
    exact SessionView.ext rfl rfl rfl rfl rfl rfl rounds
  rw [release_setTransactionStatus]
  refine ⟨formed'.release id, rfl, ?_⟩
  rw [release_view, view]
  exact .rejected id _ claim.leaseUntil (leased_view found owned)

theorem review_step (formed : entry.WellFormed codec keys key) (distinct : Distinct codec keys)
    {claim : WalletRecoveryClaim} {reason : Bytes} {now : Time} {result : RoundRecord × Bool}
    (ran : entry.transitionClaimFailure claim .manualReview reason false now =
      .ok (result, after)) :
    after.WellFormed codec keys key ∧ result.2 = true ∧
      entry.view.Step (.reviewed claim.record.key.roundID claim.leaseUntil) after.view := by
  simp only [transitionClaimFailure, bind_ok, require_ok, abortWhen_ok, exists_unit, pure_ok,
    Prod.mk.injEq, not_not, if_true, Bool.false_eq_true, if_false] at ran
  obtain ⟨record, found, owned, rfl, rfl⟩ := ran
  set id := claim.record.key.roundID
  set recorded : MemorySession :=
    { entry with rounds := entry.rounds.insert id (reviewedRecord record .manualReview reason now) }
  obtain ⟨formed', rounds⟩ := formed.finish distinct found
    (reviewedRecord record .manualReview reason now) .unknown (recorded.block id) rfl rfl rfl rfl rfl fun _ _ => rfl
  refine ⟨formed', rfl, ?_⟩
  have view : ((recorded.block id).setTransactionStatus record.walletCommand.operationID
        .unknown).view =
      { (entry.view.put id ((record.view (entry.money record.walletCommand.operationID)
        (entry.awaiting id)).finish .manualReview (some .unknown))).block with pending := id } := by
    rw [← reviewedRecord_view reason now _ (.inr rfl)]
    exact SessionView.ext rfl rfl rfl rfl rfl rfl rounds
  rw [view]
  exact .reviewed id _ claim.leaseUntil (leased_view found owned)

/-! ## Deliveries and transports -/

theorem acknowledge_step (formed : entry.WellFormed codec keys key)
    {receipt : ResultDeliveryAcknowledgement} {now : Time} {result : ResultDelivery × Bool}
    (ran : entry.acknowledgeResultDelivery receipt now = .ok (result, after)) (clock : 0 < now) :
    after.WellFormed codec keys key ∧
      ((result.2 = false ∧ after = entry) ∨
        (result.2 = true ∧
          (entry.view.Step (.acknowledged receipt.roundID) after.view ∨ after.view = entry.view))) := by
  simp only [acknowledgeResultDelivery, bind_ok, require_ok, abortWhen_ok, exists_unit] at ran
  obtain ⟨_, delivery, there, _, ran⟩ := ran
  split at ran
  · obtain ⟨rfl, rfl⟩ := Prod.mk.inj (pure_ok.mp ran)
    exact ⟨formed, .inl ⟨rfl, rfl⟩⟩
  · obtain ⟨rfl, rfl⟩ := Prod.mk.inj (pure_ok.mp ran)
    refine ⟨⟨formed.named, formed.ledger⟩, .inr ⟨rfl, ?_⟩⟩
    set acknowledged := { delivery with acknowledgedAt := now }
    set result : MemorySession :=
      { entry with deliveries := entry.deliveries.insert receipt.roundID acknowledged }
    have quiet : result.awaiting receipt.roundID = false := by
      simp only [awaiting, result, Table.lookup_insert, if_true, acknowledged]
      exact decide_eq_false clock.ne'
    have kept (other : String) (different : other ≠ receipt.roundID) :
        result.awaiting other = entry.awaiting other := by
      simp only [awaiting, result, Table.lookup_insert, if_neg different]
    cases found : entry.rounds.lookup receipt.roundID with
    | none =>
        refine .inr (SessionView.ext rfl rfl rfl rfl rfl rfl ?_)
        funext other
        by_cases same : other = receipt.roundID
        · subst same
          simp only [view_rounds, result, found, Option.map_none]
        · simp only [view_rounds, kept other same]
          rfl
    | some record =>
        left
        have view : result.view = entry.view.put receipt.roundID
            { record.view (entry.money record.walletCommand.operationID)
                (entry.awaiting receipt.roundID) with awaiting := false } := by
          refine SessionView.ext rfl rfl rfl rfl rfl rfl ?_
          funext other
          rw [SessionView.put_rounds]
          by_cases same : other = receipt.roundID
          · subst same
            rw [if_pos rfl, view_rounds, quiet]
            simp only [result, found, Option.map_some]
            rfl
          · rw [if_neg same, view_rounds, view_rounds, kept other same]
            rfl
        rw [view]
        exact .acknowledged receipt.roundID _ (view_found found)

theorem resetTransport_view {idleDisconnect : Duration} {now : Time} {session : Session}
    (ran : entry.resetTransport idleDisconnect now = .ok (session, after)) :
    after.view = entry.view ∧ after.rounds = entry.rounds ∧
      after.walletTransactions = entry.walletTransactions := by
  simp only [resetTransport, bind_ok, check_ok, abortWhen_ok, exists_unit, pure_ok,
    Prod.mk.injEq] at ran
  obtain ⟨_, _, rfl, rfl⟩ := ran
  exact ⟨rfl, rfl, rfl⟩

theorem authorizeTransport_view {transportGeneration : Nat} {allowIdleRecovery : Bool} {now : Time}
    {session : Session}
    (ran : entry.authorizeTransport transportGeneration allowIdleRecovery now =
      .ok (session, after)) :
    after.view = entry.view ∧ after.rounds = entry.rounds ∧
      after.walletTransactions = entry.walletTransactions := by
  simp only [authorizeTransport, bind_ok, check_ok, abortWhen_ok, exists_unit, pure_ok,
    Prod.mk.injEq] at ran
  obtain ⟨_, _, _, rfl, rfl⟩ := ran
  exact ⟨rfl, rfl, rfl⟩

/-! ## Preparing a round -/

/-- What the repository has checked when it calls the generator. -/
structure AdmitsRound (entry : MemorySession) (request : SpinRequest) : Prop where
  fresh : entry.rounds.lookup request.roundID = none
  delivered : ¬ entry.DeliveryPending
  free : entry.session.pendingRoundID = ""
  active : entry.session.status = .active
  current : entry.session.revision = request.startRevision

theorem admitRound_fresh {request : SpinRequest} {fingerprint : String} {bindingNow idleNow : Time}
    (admitted : entry.admitRound request fingerprint bindingNow idleNow = .ok .fresh) :
    entry.AdmitsRound request := by
  simp only [admitRound] at admitted
  split at admitted
  · simp only [bind_ok, refuse_ok, exists_unit, pure_ok, reduceCtorEq, and_false] at admitted
  case _ fresh =>
    simp only [bind_ok, refuse_ok, exists_unit, pure_ok, validateSessionBinding, not_not, ne_eq]
      at admitted
    obtain ⟨delivered, free, ⟨_, _, _, active, _, _, current, _⟩, _⟩ := admitted
    exact ⟨fresh, delivered, free, active, current⟩

theorem admitRound_replay {request : SpinRequest} {fingerprint : String}
    {bindingNow idleNow : Time} {record : RoundRecord}
    (admitted : entry.admitRound request fingerprint bindingNow idleNow = .ok (.replay record)) :
    entry.rounds.lookup request.roundID = some record ∧ record.fingerprint = fingerprint := by
  simp only [admitRound] at admitted
  split at admitted
  case _ existing found =>
    simp only [bind_ok, refuse_ok, exists_unit, pure_ok, not_not, ne_eq,
      Admission.replay.injEq] at admitted
    obtain ⟨same, rfl⟩ := admitted
    exact ⟨found, same⟩
  · simp only [bind_ok, refuse_ok, pure_ok, reduceCtorEq, and_false, exists_false] at admitted

theorem not_deliveryPending (delivered : ¬ entry.DeliveryPending) (id : String) :
    entry.awaiting id = false := by
  unfold awaiting
  cases there : entry.deliveries.lookup id with
  | none => rfl
  | some delivery =>
      refine decide_eq_false ?_
      intro waiting
      exact delivered ⟨(id, delivery), Table.mem_rows.mpr there, waiting⟩

theorem persist_step (formed : entry.WellFormed codec keys key) (distinct : Distinct codec keys)
    {request : SpinRequest} {fingerprint : String} {walletProfile : Profile} {prepared : SpinResult}
    {now : Time} {result : RoundRecord × Bool} (about : request.key.session = key)
    (used : request.key ∈ keys) (named : request.roundID ≠ "")
    (admits : entry.AdmitsRound request)
    (ran : entry.persistRound codec request fingerprint walletProfile prepared now =
      .ok (result, after)) :
    after.WellFormed codec keys key ∧ result.2 = true ∧ result.1.key = request.key ∧
      ∃ round, entry.view.Step (.prepared request.roundID round) after.view ∧
        round.terms.fingerprint = fingerprint ∧ round.terms.profile = walletProfile ∧
        round.terms.outcome = result.1.result.outcome ∧
        round.command.debitMinor = round.terms.outcome.chargedBetMinor ∧
        round.command.creditMinor = round.terms.outcome.totalWinMinor := by
  simp only [persistRound, bind_ok, check_ok, exists_unit, pure_ok, Prod.mk.injEq] at ran
  obtain ⟨valid, outcomeHash, _, rfl, rfl⟩ := ran
  set renewed := entry.session.renewedIdleDisconnectAt now
  set record := preparedRecord codec entry.session request fingerprint walletProfile
    { prepared with idleDisconnectAt := renewed } outcomeHash now
  set session := { entry.session with
    pendingRoundID := request.roundID, idleDisconnectAt := renewed }
  set stored := ({ entry with session := session }.putRound record).putTransaction
    record.walletCommand.operationID
    { command := record.walletCommand, kind := .play, status := .pending }
  have operation : record.walletCommand.operationID = walletOperationID codec request := rfl
  -- the new operation is not the one of a stored round
  have others {other : String} {third : RoundRecord} (different : other ≠ request.roundID)
      (found : entry.rounds.lookup other = some third) :
      third.walletCommand.operationID ≠ record.walletCommand.operationID := by
    intro same
    have theirs := formed.named other third found
    rw [theirs.operation, operation] at same
    have keys := distinct third.request request (by rw [theirs.request]; exact theirs.used) used same
    rw [theirs.request, theirs.key] at keys
    exact different (congrArg RoundKey.roundID keys)
  have entries (operationID : String) :
      stored.walletTransactions.lookup operationID =
        if operationID = record.walletCommand.operationID then
          some { command := record.walletCommand, kind := .play, status := .pending }
        else entry.walletTransactions.lookup operationID :=
    Table.lookup_insert _ _ _ _
  have formed' : stored.WellFormed codec keys key := by
    refine formed.put request.roundID record ⟨?_, rfl, used, operation⟩ rfl ?_ ?_
    · rw [← about]
      rfl
    · exact ⟨_, (entries _).trans (if_pos rfl), rfl⟩
    · intro other third different found transaction there
      exact ⟨transaction, (entries _).trans ((if_neg (others different found)).trans there), rfl⟩
  have quiet : stored.awaiting request.roundID = false :=
    not_deliveryPending admits.delivered request.roundID
  have own : stored.money record.walletCommand.operationID = some .pending := by
    rw [money, entries, if_pos rfl, Option.map_some]
  have rounds := view_rounds_put entry stored request.roundID record rfl
    (fun other third different found => by
      rw [money, money, entries, if_neg (others different found)])
    (fun _ _ => rfl)
  rw [own, quiet] at rounds
  simp only [validatePreparedResult, bind_ok, refuse_ok, exists_unit, not_or, not_not, ne_eq]
    at valid
  obtain ⟨_, _, ⟨sequence, _⟩, _⟩ := valid
  refine ⟨formed', rfl, rfl, record.view (some .pending) false, ?_, rfl, rfl, rfl, rfl, rfl⟩
  have view : stored.view = { entry.view.put request.roundID (record.view (some .pending) false) with
      pending := request.roundID } :=
    SessionView.ext rfl rfl rfl rfl rfl rfl rounds
  rw [view]
  have normal : normalizeLegacyRecoveryState record = record := normalize_of_valid (.inl rfl)
  refine .prepared request.roundID _ admits.active admits.free ?_ ?_ named ?_ ?_ ?_ rfl ?_ rfl
  · rw [view_rounds, admits.fresh, Option.map_none]
  · intro other third found
    rw [view_rounds] at found
    obtain ⟨theirs, _, rfl⟩ := Option.map_eq_some_iff.mp found
    exact not_deliveryPending admits.delivered other
  · exact admits.current.symm
  · exact sequence
  · refine .inl ⟨rfl, ?_⟩
    simp only [RoundRecord.view, normal]
    rfl
  · simp only [RoundRecord.view]
    rfl

end MemorySession

end SlotsGame.Rgs
