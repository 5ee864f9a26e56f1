/-
# SlotsGame.Postgres.Steps -- every transaction keeps the store healthy

One section a transaction.  `_ok` says when it succeeds and what it writes;
`_healthy` says that the store it leaves is healthy, and that the row it wrote
is read back as the record it returned.  `Leaves` covers the transactions that
commit before they fail: on a healthy store only a session without rounds is
ever quarantined.
-/
import SlotsGame.Postgres.Health

namespace SlotsGame.Postgres

open SlotsGame.Game SlotsGame.Rgs SlotsGame.Theory

set_option autoImplicit false

variable {codec : Codec} {database after : Database} {key : RoundKey}

/-! ## Locks -/

/-- A session that cannot be read has no rounds. -/
theorem Database.Healthy.unread (healthy : database.Healthy codec) {session : SessionKey}
    {error : RgsError} (unread : database.lockSession session = .error error) :
    ∀ other third, database.rounds.lookup other = some third → other.session ≠ session := by
  rintro other third found rfl
  obtain ⟨owner, entry, profile, feature, result, holds⟩ := healthy.rounds other third found
  obtain ⟨read, locked⟩ := holds.lockSession
  rw [unread] at locked
  cases locked

theorem Database.Healthy.quarantineCorruptSession (healthy : database.Healthy codec)
    {session : SessionKey} {error : RgsError} (unread : database.lockSession session = .error error)
    (now : Time) : database.Follows codec [] (database.quarantineCorruptSession session now) := by
  unfold Database.quarantineCorruptSession
  split
  · exact healthy.follows
  · split
    · exact healthy.follows
    · exact healthy.putIdle (healthy.unread unread) _

theorem Database.Healthy.lockSessionOrQuarantine (healthy : database.Healthy codec)
    (session : SessionKey) (now : Time) :
    Leaves (database.Follows codec []) (database.lockSessionOrQuarantine session now) := by
  intro error left stopped
  unfold Database.lockSessionOrQuarantine at stopped
  split at stopped
  · cases stopped
  case h_2 unread =>
    split at stopped
    · cases stopped
      exact healthy.quarantineCorruptSession unread now
    · cases stopped

theorem Database.Healthy.lockRoundOrQuarantine {holds : Database → Prop}
    (healthy : database.Healthy codec) (key : RoundKey) (reason : Bytes) (now : Time) :
    Leaves holds (database.lockRoundOrQuarantine codec key reason now) := by
  intro error left stopped
  unfold Database.lockRoundOrQuarantine at stopped
  split at stopped
  · cases stopped
  case h_2 unread =>
    rw [(healthy.lockRound_error unread).1] at stopped
    cases stopped

/-! ## Sessions -/

theorem Database.Healthy.createSession (healthy : database.Healthy codec) {session : Session}
    (created : database.createSession session = .ok ((), after)) : database.Follows codec [] after := by
  simp only [Database.createSession, bind_ok, check_ok, abortWhen_ok, exists_unit, pure_ok,
    Prod.mk.injEq, true_and, not_or, not_not] at created
  obtain ⟨_, _, ⟨absent, _⟩, rfl⟩ := created
  refine healthy.putIdle ?_ _
  intro other third found same
  obtain ⟨_, _, _, _, _, holds⟩ := healthy.rounds other third found
  have owned := holds.owned
  rw [same, absent] at owned
  cases owned

theorem authorizeSessionTransport_ok {session : SessionKey} {transportGeneration : Nat}
    {allowIdleRecovery : Bool} {now : Time} {authorized : Session} :
    database.authorizeSessionTransport session transportGeneration allowIdleRecovery now =
        .ok authorized ↔
      (transportGeneration ≠ 0 ∧ transportGeneration ≤ maxStateRevision) ∧
      ∃ owner feature, database.sessions.lookup session = some owner ∧
        owner.Reads session feature ∧ owner.transportGeneration.toNat = transportGeneration ∧
        authorizeLifetime (owner.session session feature) now = .ok () ∧
        (allowIdleRecovery = false → now < owner.idleDisconnectAt) ∧
        authorized = { owner.session session feature with serverTime := now } := by
  simp only [Database.authorizeSessionTransport, bind_ok, refuse_ok, exists_unit, pure_ok, not_or,
    not_not, not_lt, not_and, not_le, gt_iff_lt]
  constructor
  · rintro ⟨bounds, read, locked, current, lifetime, awake, rfl⟩
    obtain ⟨owner, feature, owned, reads, rfl⟩ := lockSession_ok.mp locked
    exact ⟨bounds, owner, feature, owned, reads, current, lifetime, awake, rfl⟩
  · rintro ⟨bounds, owner, feature, owned, reads, current, lifetime, awake, rfl⟩
    exact ⟨bounds, _, lockSession_ok.mpr ⟨owner, feature, owned, reads, rfl⟩, current, lifetime,
      awake, rfl⟩

/-- A transport is renewed within its session's lifetime. -/
theorem SessionRow.Reads.reset {session : SessionKey} {row : SessionRow} {feature : FeatureState}
    (reads : row.Reads session feature) {idleDisconnect : Duration} {deadline : Time}
    (idle : validateResetIdleDisconnect idleDisconnect = .ok ())
    (generation : row.transportGeneration.toNat < maxStateRevision)
    (reachable : 0 < stored deadline) (bounded : deadline ≤ row.expiresAt) :
    { row with
      idleDisconnectSeconds := idleDisconnect / Duration.second
      idleDisconnectAt := stored deadline
      transportGeneration := row.transportGeneration + 1 }.Reads session feature := by
  simp only [validateResetIdleDisconnect, refuse_ok, not_or, not_lt, not_not] at idle
  obtain ⟨least, most, whole⟩ := idle
  obtain ⟨sequence, revision, _, _, positive⟩ := reads.bounds
  have seconds : idleDisconnect / Duration.second * Duration.second = idleDisconnect :=
    Int.ediv_mul_cancel (Int.dvd_of_emod_eq_zero whole)
  have least' : 1 ≤ idleDisconnect / Duration.second :=
    (Int.le_ediv_iff_mul_le (by decide)).mpr (by simpa using least)
  have most' : idleDisconnect / Duration.second ≤ 86400 := by
    have : idleDisconnect / Duration.second < 86400 + 1 :=
      (Int.ediv_lt_iff_lt_mul (by decide)).mpr (lt_of_le_of_lt most (by decide))
    exact Int.lt_add_one_iff.mp this
  refine
    { reads with
      bounds := ⟨sequence, revision, least', most', ?_⟩
      valid := { reads.valid with idle := ?_, deadline := ?_, generation := ?_ } }
  · show 1 ≤ row.transportGeneration + 1
    omega
  · show _ ≤ idleDisconnect / Duration.second * Duration.second ∧
      idleDisconnect / Duration.second * Duration.second ≤ _
    rw [seconds]
    exact ⟨least, most⟩
  · exact ⟨ne_of_gt reachable, le_trans (stored_le deadline) bounded⟩
  · show (row.transportGeneration + 1).toNat ≠ 0 ∧
      (row.transportGeneration + 1).toNat ≤ maxStateRevision
    exact ⟨by omega, by omega⟩

/-- The idle deadline of a reset, within the session's lifetime. -/
def resetDeadline (expiresAt : Time) (idleDisconnect : Duration) (now : Time) : Time :=
  if now + idleDisconnect > expiresAt then expiresAt else now + idleDisconnect

theorem resetDeadline_le (expiresAt : Time) (idleDisconnect : Duration) (now : Time) :
    resetDeadline expiresAt idleDisconnect now ≤ expiresAt := by
  unfold resetDeadline
  split
  · exact le_refl _
  · next later => exact not_lt.mp later

/-- The row of a session whose transport is reset. -/
def SessionRow.reset (row : SessionRow) (idleDisconnect : Duration) (deadline : Time) : SessionRow :=
  { row with
    idleDisconnectSeconds := idleDisconnect / Duration.second
    idleDisconnectAt := stored deadline
    transportGeneration := row.transportGeneration + 1 }

theorem resetSessionTransport_ok {session : SessionKey} {idleDisconnect : Duration} {now : Time}
    {reset : Session} :
    database.resetSessionTransport session idleDisconnect now = .ok (reset, after) ↔
      validateResetIdleDisconnect idleDisconnect = .ok () ∧
      ∃ owner feature, database.sessions.lookup session = some owner ∧
        owner.Reads session feature ∧
        authorizeLifetime (owner.session session feature) now = .ok () ∧
        owner.transportGeneration.toNat < maxStateRevision ∧
        reset =
          { owner.session session feature with
            idleDisconnect := idleDisconnect
            idleDisconnectAt := resetDeadline owner.expiresAt idleDisconnect now
            transportGeneration := owner.transportGeneration.toNat + 1, serverTime := now } ∧
        after = database.putSession session
          (owner.reset idleDisconnect (resetDeadline owner.expiresAt idleDisconnect now)) := by
  simp only [Database.resetSessionTransport, bind_ok, check_ok, abortWhen_ok, require_ok,
    exists_unit, pure_ok, Prod.mk.injEq, not_not, ge_iff_le, not_le]
  constructor
  · rintro ⟨idle, locked, read, authorized, generation, row, found, _, rfl, rfl⟩
    obtain ⟨owner, feature, owned, reads, rfl⟩ := lockSession_ok.mp read
    rw [owned, Option.some.injEq] at found
    subst found
    exact ⟨idle, owner, feature, owned, reads, authorized, generation, rfl, rfl⟩
  · rintro ⟨idle, owner, feature, owned, reads, authorized, generation, rfl, rfl⟩
    obtain ⟨_, _, _, _, positive⟩ := reads.bounds
    refine ⟨idle, _, lockSession_ok.mpr ⟨owner, feature, owned, reads, rfl⟩, authorized, generation,
      owner, owned, ?_, rfl, rfl⟩
    exact (Int.toNat_of_nonneg (by omega)).symm

/-- A transport that has been reset is read back. -/
theorem SessionRow.Reads.reset_within {session : SessionKey} {row : SessionRow}
    {feature : FeatureState} (reads : row.Reads session feature) {idleDisconnect : Duration}
    {now : Time} (reading : Reading now)
    (idle : validateResetIdleDisconnect idleDisconnect = .ok ())
    (authorized : authorizeLifetime (row.session session feature) now = .ok ())
    (generation : row.transportGeneration.toNat < maxStateRevision) :
    (row.reset idleDisconnect (resetDeadline row.expiresAt idleDisconnect now)).Reads session
      feature := by
  simp only [authorizeLifetime, bind_ok, refuse_ok, exists_unit, not_or, not_le] at authorized
  have alive : now < row.expiresAt := authorized.2.2
  have idle_ := idle
  simp only [validateResetIdleDisconnect, refuse_ok, not_or, not_lt] at idle_
  have positive : (0 : Int) ≤ idleDisconnect := le_trans (by decide) idle_.1
  refine reads.reset idle generation ?_ (resetDeadline_le _ _ _)
  unfold resetDeadline
  split
  · have := stored_mono (le_of_lt alive)
    rw [reading.2] at this
    exact lt_of_lt_of_le reading.1 this
  · exact stored_add reading positive

theorem Database.Healthy.resetSessionTransport (healthy : database.Healthy codec)
    {session : SessionKey} {idleDisconnect : Duration} {now : Time} (reading : Reading now)
    {reset : Session}
    (ran : database.resetSessionTransport session idleDisconnect now = .ok (reset, after)) :
    database.Follows codec [] after := by
  obtain ⟨idle, owner, feature, owned, reads, authorized, generation, _, rfl⟩ :=
    resetSessionTransport_ok.mp ran
  exact healthy.putSession owned (reads.reset_within reading idle authorized generation)
    ⟨rfl, rfl, rfl, rfl, rfl, rfl, rfl, id⟩ ⟨rfl, rfl⟩

/-! ## Deliveries -/

/-- A committed round that is read back is stored with the digest of its result. -/
theorem Database.Holds.delivery {row : RoundRow} {owner : SessionRow} {entry : WalletRow}
    {profile : Profile} {feature : FeatureState} {result : SpinResult}
    (holds : database.Holds codec key row owner entry profile feature result)
    (committed : row.status = .committed) :
    committedResultHashFor codec result = .ok (row.resultHash.getD "") ∧
      (result.sequence : Int) = row.sequence := by
  obtain ⟨hash, stored_, hashed⟩ := holds.kept.delivered committed
  have described := holds.kept.reads.described
  simp only [checkResultColumns, bind_ok, refuse_ok, exists_unit, not_or, not_not] at described
  exact ⟨by rw [stored_, hashed]; rfl, described.1.2.2.2.2.2.2.2.2.2.1⟩

theorem failQuarantined_ok {α : Type} {reason : Bytes} {now : Time} {a : α} :
    (database.failQuarantined key reason now : Except (Abort Database RgsError) α) ≠ .ok a := by
  unfold Database.failQuarantined
  split <;> simp

theorem Database.Healthy.getRound (healthy : database.Healthy codec) (now : Time) :
    Leaves (database.Follows codec []) (database.getRound codec key now) := by
  unfold Database.getRound
  cases locked : database.lockRound codec key with
  | ok record => exact Leaves.ok _
  | error error =>
      rw [(healthy.lockRound_error locked).1]
      exact Leaves.rolledBack _

theorem getRound_ok {now : Time} {record : RoundRecord} :
    database.getRound codec key now = .ok (record, after) ↔
      database.lockRound codec key = .ok record ∧ after = database := by
  unfold Database.getRound
  cases database.lockRound codec key with
  | ok found => simp [eq_comm]
  | error error =>
      simp only [reduceCtorEq, false_and, iff_false]
      split <;> simp

theorem Database.Healthy.getPendingResultDelivery (healthy : database.Healthy codec)
    (session : SessionKey) (now : Time) :
    Leaves (database.Follows codec []) (database.getPendingResultDelivery codec session now) := by
  unfold Database.getPendingResultDelivery
  cases pending : database.pendingDelivery session with
  | none =>
      refine Leaves.bind ?_ fun _ _ => Leaves.rolledBack _
      refine Leaves.bind (healthy.lockSessionOrQuarantine _ _) fun _ _ => Leaves.ok _
  | some round =>
      obtain ⟨roundKey, row⟩ := round
      have selected := List.find?_some pending
      have found := Table.mem_rows.mp (List.mem_of_find?_eq_some pending)
      simp only [decide_eq_true_eq] at selected
      refine Leaves.bind (Leaves.abortWhen _ _) fun _ _ => ?_
      refine Leaves.bind (healthy.getRound now) ?_
      rintro ⟨record, _⟩ got
      obtain ⟨locked, rfl⟩ := getRound_ok.mp got
      obtain ⟨kept, _, _, _, _, result, holds, rfl⟩ := healthy.lockRound_ok.mp locked
      rw [holds.found, Option.some.injEq] at found
      subst found
      obtain ⟨hashed, sequence⟩ := holds.delivery selected.2.1
      have sound : ¬ (committedResultHashFor codec result ≠ .ok (kept.resultHash.getD "") ∨
          kept.status ≠ .committed ∨ (result.sequence : Int) ≠ kept.sequence) := by
        simp [hashed, sequence, selected.2.1]
      dsimp only
      split
      · next bad => exact absurd bad sound
      · exact Leaves.ok _

/-- Looking for a delivery changes nothing. -/
theorem getPendingResultDelivery_kept {session : SessionKey} {now : Time}
    {delivery : ResultDelivery}
    (ran : database.getPendingResultDelivery codec session now = .ok (delivery, after)) :
    after = database := by
  unfold Database.getPendingResultDelivery at ran
  split at ran
  · rw [bind_ok] at ran
    obtain ⟨_, _, absent⟩ := ran
    cases absent
  · simp only [bind_ok, abortWhen_ok, exists_unit, Prod.exists, getRound_ok] at ran
    obtain ⟨_, record, _, ⟨_, rfl⟩, ran⟩ := ran
    split at ran
    · split at ran
      · exact absurd ran failQuarantined_ok
      · cases ran
    · exact (Prod.mk.inj (pure_ok.mp ran)).2.symm

theorem Database.Healthy.acknowledge_leaves {holds : Database → Prop}
    (healthy : database.Healthy codec) (receipt : ResultDeliveryAcknowledgement) (now : Time) :
    Leaves holds (database.acknowledgeResultDelivery codec receipt now) := by
  unfold Database.acknowledgeResultDelivery
  refine Leaves.bind (Leaves.check _) fun _ _ => ?_
  refine Leaves.bind (Leaves.check _) fun session _ => ?_
  refine Leaves.bind (Leaves.abortWhen _ _) fun _ _ => ?_
  refine Leaves.bind (healthy.lockRoundOrQuarantine _ _ _) fun record got => ?_
  refine Leaves.bind (Leaves.abortWhen _ _) fun _ committed => ?_
  refine Leaves.bind (Leaves.require _ _) fun row found => ?_
  obtain ⟨kept, _, _, _, _, result, holds, rfl⟩ :=
    healthy.lockRound_ok.mp (lockRoundOrQuarantine_ok.mp got)
  rw [abortWhen_ok, not_not] at committed
  rw [require_ok, holds.found, Option.some.injEq] at found
  subst found
  obtain ⟨hashed, _⟩ := holds.delivery committed
  have sound : ¬ committedResultHashFor codec result ≠ .ok (kept.resultHash.getD "") :=
    not_not.mpr hashed
  split
  · next bad => exact absurd bad sound
  · refine Leaves.bind (Leaves.abortWhen _ _) fun _ _ => ?_
    refine Leaves.bind (Leaves.abortWhen _ _) fun _ _ => ?_
    split
    · exact Leaves.ok _
    · exact Leaves.ok _

/-- An acknowledgement writes nothing but its instant, once. -/
theorem acknowledge_ok {receipt : ResultDeliveryAcknowledgement} {now : Time}
    {delivery : ResultDelivery} {changed : Bool} :
    database.acknowledgeResultDelivery codec receipt now = .ok ((delivery, changed), after) ↔
      validateResultDeliveryAcknowledgement receipt = .ok () ∧
      ∃ session record row,
        database.lockSession ⟨receipt.operatorID, receipt.sessionID⟩ = .ok session ∧
        receipt.transportGeneration = session.transportGeneration ∧
        database.lockRound codec ⟨receipt.operatorID, receipt.sessionID, receipt.roundID⟩ =
          .ok record ∧
        record.status = .committed ∧
        database.rounds.lookup ⟨receipt.operatorID, receipt.sessionID, receipt.roundID⟩ =
          some row ∧
        committedResultHashFor codec record.result = .ok (row.resultHash.getD "") ∧
        row.resultDeliveryRequired = true ∧ record.result.sequence = receipt.sequence ∧
        row.resultHash.getD "" = receipt.resultHash ∧
        match row.resultAcknowledgedAt with
        | some acknowledgedAt =>
            delivery = deliveryOf record receipt.resultHash acknowledgedAt ∧ changed = false ∧
              after = database
        | none =>
            delivery = deliveryOf record receipt.resultHash now ∧ changed = true ∧
              after = database.putRound ⟨receipt.operatorID, receipt.sessionID, receipt.roundID⟩
                { row with resultAcknowledgedAt := some (stored now) } := by
  simp only [Database.acknowledgeResultDelivery, bind_ok, check_ok, abortWhen_ok, require_ok,
    lockRoundOrQuarantine_ok, exists_unit, not_not]
  constructor
  · rintro ⟨valid, session, read, generation, record, locked, committed, row, found, rest⟩
    refine ⟨valid, session, record, row, read, generation, locked, committed, found, ?_⟩
    split at rest
    · exact absurd rest failQuarantined_ok
    · next hashed =>
      simp only [bind_ok, abortWhen_ok, exists_unit, not_or, not_not, Bool.not_eq_false] at rest
      obtain ⟨required, ⟨sequence, hash⟩, written⟩ := rest
      refine ⟨not_not.mp hashed, required, sequence, hash, ?_⟩
      split at written
      · next at_ acknowledged =>
        simp only [pure_ok, Prod.mk.injEq] at written
        obtain ⟨⟨rfl, rfl⟩, rfl⟩ := written
        simp [acknowledged]
      · next acknowledged =>
        simp only [pure_ok, Prod.mk.injEq] at written
        obtain ⟨⟨rfl, rfl⟩, rfl⟩ := written
        simp [acknowledged]
  · rintro ⟨valid, session, record, row, read, generation, locked, committed, found, hashed,
      required, sequence, hash, written⟩
    refine ⟨valid, session, read, generation, record, locked, committed, row, found, ?_⟩
    rw [if_neg (not_not.mpr hashed)]
    simp only [bind_ok, abortWhen_ok, exists_unit, not_or, not_not, Bool.not_eq_false]
    refine ⟨required, ⟨sequence, hash⟩, ?_⟩
    split at written
    · next at_ acknowledged =>
      obtain ⟨rfl, rfl, rfl⟩ := written
      simp [acknowledged]
    · next acknowledged =>
      obtain ⟨rfl, rfl, rfl⟩ := written
      simp [acknowledged]

theorem Database.Healthy.acknowledge (healthy : database.Healthy codec)
    {receipt : ResultDeliveryAcknowledgement} {now : Time} {reply : ResultDelivery × Bool}
    (ran : database.acknowledgeResultDelivery codec receipt now = .ok (reply, after)) :
    database.Follows codec [] after := by
  obtain ⟨delivery, changed⟩ := reply
  obtain ⟨_, _, record, row, _, _, locked, ended, found, _, _, _, _, written⟩ :=
    acknowledge_ok.mp ran
  split at written
  · rw [written.2.2]
    exact healthy.follows
  · obtain ⟨owner, entry, profile, feature, result, holds⟩ := healthy.rounds _ row found
    rw [written.2.2]
    have committed : row.status = .committed := by
      rw [holds.lockRound, Except.ok.injEq] at locked
      rw [← locked] at ended
      exact ended
    have kept := holds.kept.acknowledged (stored now)
    have wrote := healthy.putRound holds kept ⟨rfl, rfl, rfl, rfl, rfl, rfl, rfl, rfl, rfl⟩ id
      (.inl rfl)
    refine ⟨wrote.healthy, fun other record _ read => ?_, fun other third _ open_ => ?_,
      fun _ _ => rfl, wrote.unmarked⟩
    · by_cases this : other = ⟨receipt.operatorID, receipt.sessionID, receipt.roundID⟩
      · -- the record of a round says nothing of its acknowledgement
        rw [this] at read ⊢
        rw [lockRound_putRound holds.owned kept, ← read, holds.lockRound]
        rfl
      · exact wrote.keeps other record (by simpa using this) read
    · by_cases this : other = ⟨receipt.operatorID, receipt.sessionID, receipt.roundID⟩
      · rw [this, found]
        simp only [Database.putRound, Table.lookup_insert, if_true, Option.some.injEq]
        constructor
        · rintro rfl
          exact absurd committed open_
        · rintro rfl
          exact absurd committed open_
      · exact wrote.rows other third (by simpa using this) open_

/-! ## Preparing a round -/

section Preparing

variable {request : SpinRequest} {fingerprint : String} {now podNow : Time} {session : Session}
  {record : RoundRecord} {assessment : Option RiskAssessment}

theorem admitRound_fresh :
    database.admitRound codec request fingerprint now podNow = .ok (.fresh session) ↔
      database.lockSession request.key.session = .ok session ∧
      (∃ error, database.lockRound codec request.key = .error error ∧
        error.kind = .roundNotFound) ∧
      ¬ database.DeliveryPending request.key.session ∧
      validateBinding session request now = .ok () ∧ session.pendingRoundID = "" := by
  simp only [Database.admitRound, bind_ok, lockSessionOrQuarantine_ok]
  cases locked : database.lockRound codec request.key with
  | ok existing => simp [map_ok]
  | error error =>
      by_cases corrupt : error.kind = .manualReview
      · simp [corrupt, failQuarantined_ok]
      · simp only [corrupt, if_false, bind_ok, abortWhen_ok, check_ok, exists_unit, not_not,
          pure_ok, Admission.fresh.injEq]
        constructor
        · rintro ⟨_, read, absent, delivered, binding, free, rfl⟩
          exact ⟨read, ⟨error, rfl, absent⟩, delivered, binding, free⟩
        · rintro ⟨read, ⟨_, ⟨⟩, absent⟩, delivered, binding, free⟩
          exact ⟨session, read, absent, delivered, binding, free, rfl⟩

theorem admitRound_replay :
    database.admitRound codec request fingerprint now podNow = .ok (.replay record) ↔
      (∃ session, database.lockSession request.key.session = .ok session) ∧
      database.lockRound codec request.key = .ok record ∧ record.fingerprint = fingerprint := by
  simp only [Database.admitRound, bind_ok, lockSessionOrQuarantine_ok]
  cases locked : database.lockRound codec request.key with
  | ok existing =>
      simp only [bind_ok, abortWhen_ok, exists_unit, not_not, pure_ok, Admission.replay.injEq,
        Except.ok.injEq]
      constructor
      · rintro ⟨session, read, same, rfl⟩
        exact ⟨⟨session, read⟩, rfl, same⟩
      · rintro ⟨⟨session, read⟩, rfl, same⟩
        exact ⟨session, read, same, rfl⟩
  | error error =>
      by_cases corrupt : error.kind = .manualReview
      · simp [corrupt, failQuarantined_ok]
      · simp [corrupt, bind_ok, map_ok]

theorem Database.Healthy.admitRound (healthy : database.Healthy codec) (request : SpinRequest)
    (fingerprint : String) (now podNow : Time) :
    Leaves (database.Follows codec [])
      (database.admitRound codec request fingerprint now podNow) := by
  unfold Database.admitRound
  refine Leaves.bind (healthy.lockSessionOrQuarantine _ _) fun _ _ => ?_
  cases locked : database.lockRound codec request.key with
  | ok existing => exact Leaves.bind (Leaves.abortWhen _ _) fun _ _ => Leaves.ok _
  | error error =>
      rw [(healthy.lockRound_error locked).1]
      refine Leaves.bind (Leaves.abortWhen _ _) fun _ _ => ?_
      refine Leaves.bind (Leaves.abortWhen _ _) fun _ _ => ?_
      refine Leaves.bind (Leaves.check _) fun _ _ => ?_
      exact Leaves.bind (Leaves.abortWhen _ _) fun _ _ => Leaves.ok _

/-- The bundle of a prepared round, out of its session's row. -/
def Database.bundle (database : Database) (record : RoundRecord) (owner : SessionRow)
    (assessment : Option RiskAssessment) (now : Time) : Database :=
  let written := ((database.putRound record.key (preparedRow record)).putTransaction
    ((preparedRow record).transaction record.key) (preparedTransaction record)).putSession
      record.key.session (owner.prepared record.key.roundID now)
  match assessment with
  | none => written.registerRecoveryOperator record.key.operatorID
  | some assessment => written.putReview record.key (preparedReview assessment now)

theorem bundle_writes (owner : SessionRow) :
    database.Writes (database.bundle record owner assessment now) record.key (preparedRow record)
      (owner.prepared record.key.roundID now) (preparedTransaction record) := by
  have plain : ∀ database' : Database,
      database'.rounds = database.rounds.insert record.key (preparedRow record) →
      database'.sessions = database.sessions.insert record.key.session
        (owner.prepared record.key.roundID now) →
      database'.walletTransactions = database.walletTransactions.insert
        ((preparedRow record).transaction record.key) (preparedTransaction record) →
      (∀ other, other ≠ record.key →
        database'.riskReviews.lookup other = database.riskReviews.lookup other) →
      database.Writes database' record.key (preparedRow record)
        (owner.prepared record.key.roundID now) (preparedTransaction record) := by
    intro database' rounds sessions transactions reviews
    exact
      { rounds := fun other => by rw [rounds, Table.lookup_insert]
        sessions := fun other => by rw [sessions, Table.lookup_insert]
        transactions := fun other => by rw [transactions, Table.lookup_insert]
        reviews := reviews }
  unfold Database.bundle
  cases assessment with
  | some assessment =>
      exact plain _ rfl rfl rfl fun other apart => by
        simp [Database.putReview, Database.putSession, Database.putTransaction, Database.putRound,
          apart]
  | none =>
      unfold Database.registerRecoveryOperator
      dsimp only
      split
      · exact plain _ rfl rfl rfl fun _ _ => rfl
      · exact plain _ rfl rfl rfl fun _ _ => rfl

theorem writePrepared_ok :
    database.writePrepared record assessment now = .ok after ↔
      Text.identifierPattern record.result.serverTransactionID = true ∧
      database.rounds.lookup record.key = none ∧
      (∀ round ∈ database.rounds.rows, round.1.operatorID = record.key.operatorID →
        round.2.serverTransactionID ≠ record.result.serverTransactionID) ∧
      database.walletTransactions.lookup ((preparedRow record).transaction record.key) = none ∧
      ∃ owner, database.sessions.lookup record.key.session = some owner ∧
        owner.revision = record.request.startRevision ∧ owner.pendingRoundID = none ∧
        after = database.bundle record owner assessment now := by
  simp only [Database.writePrepared, bind_ok, abortWhen_ok, require_ok, exists_unit, not_or,
    not_not, not_exists, not_and, Bool.not_eq_false]
  constructor
  · rintro ⟨pattern, ⟨fresh, apart, unbooked⟩, owner, owned, ⟨revision, free⟩, written⟩
    refine ⟨pattern, fresh, apart, unbooked, owner, owned, revision, free, ?_⟩
    cases assessment with
    | none => exact (pure_ok.mp written).symm
    | some assessment => exact (pure_ok.mp written).symm
  · rintro ⟨pattern, fresh, apart, unbooked, owner, owned, revision, free, rfl⟩
    refine ⟨pattern, ⟨fresh, apart, unbooked⟩, owner, owned, ⟨revision, free⟩, ?_⟩
    cases assessment with
    | none => rfl
    | some assessment => rfl

theorem persistRound_ok {riskCodec : RiskCodec} {policy : HighValueRiskPolicy} {profile : Profile}
    {prepared : SpinResult} {changed : Bool} :
    database.persistRound codec riskCodec policy session request fingerprint profile prepared now =
        .ok ((record, changed), after) ↔
      changed = true ∧ validatePrepared session request prepared = .ok () ∧
      ∃ outcomeHash assessment,
        preparedOutcomeHashFor codec
          { prepared with idleDisconnectAt := session.renewedIdleDisconnectAt now } =
            .ok outcomeHash ∧
        policy.assess codec riskCodec
          { prepared with idleDisconnectAt := session.renewedIdleDisconnectAt now } now =
            .ok assessment ∧
        record = preparedRecord codec session request fingerprint profile
          { prepared with idleDisconnectAt := session.renewedIdleDisconnectAt now } outcomeHash
          assessment.isSome now ∧
        database.writePrepared record assessment now = .ok after := by
  simp only [Database.persistRound, bind_ok, check_ok, exists_unit, pure_ok, Prod.mk.injEq]
  constructor
  · rintro ⟨valid, outcomeHash, hashed, assessment, assessed, written, wrote, ⟨rfl, rfl⟩, rfl⟩
    exact ⟨rfl, valid, outcomeHash, assessment, hashed, assessed, rfl, wrote⟩
  · rintro ⟨rfl, valid, outcomeHash, assessment, hashed, assessed, rfl, wrote⟩
    exact ⟨valid, outcomeHash, hashed, assessment, assessed, after, wrote, ⟨rfl, rfl⟩, rfl⟩

/-- A session that waits for its new round is read back. -/
theorem SessionRow.Reads.prepared {key : SessionKey} {row : SessionRow} {feature : FeatureState}
    (reads : row.Reads key feature) (reading : Reading now) (alive : now < row.expiresAt)
    {roundID : String} (pattern : Text.identifierPattern roundID = true) :
    (row.prepared roundID now).Reads key feature := by
  obtain ⟨_, _, least, _, _⟩ := reads.bounds
  refine
    { reads with
      valid := { reads.valid with deadline := ⟨?_, ?_⟩, pending := .inr pattern } }
  · show min row.expiresAt (now + row.idleDisconnectSeconds * Duration.second) ≠ 0
    have later : 0 ≤ row.idleDisconnectSeconds * Duration.second :=
      Int.mul_nonneg (by omega) (by decide)
    refine ne_of_gt (lt_min (lt_trans reading.1 alive) ?_)
    exact lt_of_lt_of_le reading.1 (le_add_of_nonneg_right later)
  · exact min_le_left _ _

/-- The bundle of a fresh round: the store stays healthy, and the round is read
back as it was returned. -/
theorem Database.Healthy.persist (healthy : database.Healthy codec) {riskCodec : RiskCodec}
    {policy : HighValueRiskPolicy} {profile : Profile} {prepared : SpinResult} {changed : Bool}
    (reading : Reading now) (valid : validatePrepareArguments codec request fingerprint profile =
      .ok ())
    (admitted : database.admitRound codec request fingerprint now podNow = .ok (.fresh session))
    (built : BuiltResult codec session request prepared)
    (ran : database.persistRound codec riskCodec policy session request fingerprint profile prepared
      now = .ok ((record, changed), after)) :
    database.Follows codec [request.key] after ∧ changed = true ∧ record.key = request.key ∧
      after.lockRound codec request.key = .ok (persisted record) := by
  obtain ⟨new, _, outcomeHash, assessment, hashed, _, written, wrote⟩ := persistRound_ok.mp ran
  obtain ⟨read, _, _, binding, _⟩ := admitRound_fresh.mp admitted
  obtain ⟨owner, input, owned, reads, same⟩ := lockSession_ok.mp read
  simp only [validatePrepareArguments, bind_ok, refuse_ok, exists_unit, not_or, not_not] at valid
  obtain ⟨valid, rfl, supported⟩ := valid
  have keyed : record.key = request.key := by rw [written]; rfl
  obtain ⟨pattern, fresh, _, unbooked, found, there, _, free, rfl⟩ := writePrepared_ok.mp wrote
  rw [keyed, owned, Option.some.injEq] at there
  subst there
  have operation : Text.identifierPattern prepared.serverTransactionID = true := by
    rw [written] at pattern
    exact pattern
  have bound : ValidSession session := by
    rw [same]
    exact reads.valid
  have made : Fresh codec session request profile prepared now :=
    ⟨reading, valid, supported, bound, binding, built, operation⟩
  obtain ⟨kept, spelled⟩ := RoundRow.Kept.prepared reads same made hashed written
  simp only [validateBinding, bind_ok, refuse_ok, exists_unit, not_or, not_not, not_le] at binding
  obtain ⟨_, ⟨game, version, hash, currency⟩, _, _, ⟨_, alive⟩, _⟩ := binding
  have round : Text.identifierPattern request.roundID = true := by
    simp only [validateSpinRequest, bind_ok, exists_unit, validateIdentifiers, forM_ok,
      List.forall_mem_cons, refuse_ok, Bool.not_eq_false] at valid
    exact valid.1.2.2.1
  have waiting := reads.prepared reading (by rw [same] at alive; exact alive) round
  have continues : owner.Continues (owner.prepared request.key.roundID now) :=
    ⟨rfl, rfl, rfl, rfl, rfl, rfl, rfl, id⟩
  have writes : database.Writes (database.bundle record owner assessment now) record.key
      (preparedRow record) (owner.prepared record.key.roundID now) (preparedTransaction record) :=
    bundle_writes owner
  rw [keyed] at writes
  have kept' := kept.under waiting continues
  refine ⟨healthy.write writes kept' ?owns ?books ?continues (.inr ?alone) ?same ?unique
    (.inl rfl), new, keyed, ?_⟩
  case owns =>
    subst written same
    refine ⟨⟨input, waiting⟩, game, version, hash, currency, fun _ => ⟨rfl, ?_⟩, fun review => ?_,
      fun mark => absurd rfl mark⟩
    · assumption
    · simp only [preparedRow, preparedRecord] at review
      split at review <;> cases review
  case books =>
    subst written
    exact ⟨rfl, rfl, rfl, rfl, rfl, rfl, fun _ => rfl⟩
  case continues =>
    intro old found
    rw [owned, Option.some.injEq] at found
    subst found
    exact continues
  case alone =>
    intro other third _ session found waits
    obtain ⟨_, _, _, _, _, holds⟩ := healthy.rounds other third found
    have sibling := holds.owned
    rw [session, owned, Option.some.injEq] at sibling
    subst sibling
    have pending := (holds.owns.waits waits).1
    rw [free] at pending
    cases pending
  case same =>
    intro old found
    rw [← keyed, fresh] at found
    cases found
  case unique =>
    intro old found
    rw [← keyed, unbooked] at found
    cases found
  · rw [writes.lockRound kept', RoundRow.reading_owner continues, spelled]

end Preparing

/-! ## Claiming the wallet -/

section Claiming

variable {session : Session} {record : RoundRecord} {now podNow : Time} {lease : Duration}
  {claim : WalletRecoveryClaim} {granted : Bool}

/-- The round may be claimed now. -/
structure Due (session : Session) (record : RoundRecord) (now : Time) : Prop where
  claimable : record.status = .prepared ∨ record.status = .walletPending
  active : session.status = .active
  phase : record.walletPhase.Valid
  due : record.nextAttemptAt ≤ now
  lease : record.walletLeaseUntil ≤ now

/-- The claim that is granted. -/
def grantedClaim (record : RoundRecord) (now : Time) (lease : Duration) : WalletRecoveryClaim :=
  { record := claimedRecord record now (now + lease), action := record.walletPhase
    leaseUntil := (claimedRecord record now (now + lease)).walletLeaseUntil }

theorem claimWalletLocked_ok :
    database.claimWalletLocked session record now lease = .ok ((claim, granted), after) ↔
      (¬ Due session record now ∧ claim = { record := record } ∧ granted = false ∧
        after = database) ∨
      (Due session record now ∧ session.pendingRoundID = record.key.roundID ∧
        session.revision = record.request.startRevision ∧ granted = true ∧
        claim = grantedClaim record now lease ∧
        ∃ row, database.rounds.lookup record.key = some row ∧
          after = database.putRound record.key
            (row.claimed record.walletPhase (claimedRecord record now (now + lease)))) := by
  unfold Database.claimWalletLocked
  by_cases closed : record.status ≠ .prepared ∧ record.status ≠ .walletPending
  · have idle : ¬ Due session record now := by
      rintro ⟨status | status, _⟩
      · exact closed.1 status
      · exact closed.2 status
    simp only [closed, ne_eq, not_false_eq_true, and_self, if_true, Except.ok.injEq, Prod.mk.injEq,
      idle, true_and, false_and, or_false]
    constructor
    · rintro ⟨⟨rfl, rfl⟩, rfl⟩
      exact ⟨rfl, rfl, rfl⟩
    · rintro ⟨rfl, rfl, rfl⟩
      exact ⟨⟨rfl, rfl⟩, rfl⟩
  · rw [if_neg closed]
    by_cases waits : session.status ≠ .active ∨ ¬ record.walletPhase.Valid ∨
        record.nextAttemptAt > now ∨ record.walletLeaseUntil > now
    · have idle : ¬ Due session record now := by
        rintro ⟨_, active, phase, due, lease⟩
        rcases waits with other | other | other | other
        · exact other active
        · exact other phase
        · exact absurd due (not_le.mpr other)
        · exact absurd lease (not_le.mpr other)
      rw [if_pos waits]
      simp only [Except.ok.injEq, Prod.mk.injEq, idle, not_false_eq_true, true_and, false_and,
        or_false]
      constructor
      · rintro ⟨⟨rfl, rfl⟩, rfl⟩
        exact ⟨rfl, rfl, rfl⟩
      · rintro ⟨rfl, rfl, rfl⟩
        exact ⟨⟨rfl, rfl⟩, rfl⟩
    · have due : Due session record now := by
        simp only [not_or, not_not, gt_iff_lt, not_lt] at waits
        obtain ⟨active, phase, due, lease⟩ := waits
        exact ⟨by tauto, active, phase, due, lease⟩
      rw [if_neg waits]
      simp only [bind_ok, abortWhen_ok, require_ok, exists_unit, pure_ok, not_or, not_not,
        Prod.mk.injEq, due, not_true, false_and, false_or, true_and]
      constructor
      · rintro ⟨⟨pending, revision⟩, row, found, ⟨rfl, rfl⟩, rfl⟩
        exact ⟨pending, revision, rfl, rfl, row, found, rfl⟩
      · rintro ⟨pending, revision, rfl, rfl, row, found, rfl⟩
        exact ⟨⟨pending, revision⟩, row, found, ⟨rfl, rfl⟩, rfl⟩

/-- A granted claim is read back as its record; a claim that is not granted changes
nothing. -/
theorem Database.Healthy.claimWalletLocked (healthy : database.Healthy codec)
    (reading : Reading now) (later : 0 ≤ lease)
    (locked : database.lockRound codec key = .ok record)
    (ran : database.claimWalletLocked session record now lease = .ok ((claim, granted), after)) :
    (granted = false ∧ after = database) ∨
      (granted = true ∧ database.Follows codec [key] after ∧ claim.record.key = key ∧
        after.lockRound codec key = .ok (persisted claim.record)) := by
  rcases claimWalletLocked_ok.mp ran with
    ⟨_, _, rfl, rfl⟩ | ⟨due, _, _, rfl, rfl, row, found, rfl⟩
  · exact .inl ⟨rfl, rfl⟩
  · obtain ⟨row', owner, entry, profile, feature, result, holds, same⟩ :=
      healthy.lockRound_ok.mp locked
    have keyed : record.key = key := by rw [same]; rfl
    rw [keyed, holds.found, Option.some.injEq] at found
    subst found
    have claimable : row'.status = .prepared ∨ row'.status = .walletPending := by
      have claimable := due.claimable
      rw [same] at claimable
      exact claimable
    obtain ⟨kept, spelled⟩ := holds.kept.claimed claimable reading later same
    have waiting := RoundRow.waiting_of_claimable claimable
    have next := healthy.putRound holds kept ⟨rfl, rfl, rfl, rfl, rfl, rfl, rfl, rfl, rfl⟩
      (fun _ => waiting) (.inr ⟨waiting, by rintro ⟨⟩⟩)
    rw [keyed]
    refine .inr ⟨rfl, next, (claimedRecord_kept record now (now + lease)).1.trans keyed, ?_⟩
    rw [lockRound_putRound holds.owned kept, spelled]
    rfl

theorem lockClaimLedger_ok {u : Unit} :
    database.lockClaimLedger codec session record podNow = .ok u ↔
      lockAndValidateWalletClaimLedger codec database session record = .ok () := by
  unfold Database.lockClaimLedger
  split
  · simp_all
  · next refused =>
    rw [refused]
    simp only [reduceCtorEq, iff_false]
    exact failQuarantined_ok

theorem claimWallet_ok :
    database.claimWallet codec key lease now podNow = .ok ((claim, granted), after) ↔
      validateLease lease = .ok () ∧ ∃ session record,
        database.lockSession key.session = .ok session ∧
        database.lockRound codec key = .ok record ∧
        ((record.status = .prepared ∨ record.status = .walletPending) →
          lockAndValidateWalletClaimLedger codec database session record = .ok ()) ∧
        database.claimWalletLocked session record now lease = .ok ((claim, granted), after) := by
  simp only [Database.claimWallet, bind_ok, check_ok, lockSessionOrQuarantine_ok,
    lockRoundOrQuarantine_ok, exists_unit]
  constructor
  · rintro ⟨valid, session, read, record, locked, ran⟩
    refine ⟨valid, session, record, read, locked, ?_⟩
    split at ran
    · rw [bind_ok] at ran
      obtain ⟨_, ledger, ran⟩ := ran
      exact ⟨fun _ => lockClaimLedger_ok.mp ledger, ran⟩
    · next closed => exact ⟨fun claimable => absurd claimable closed, ran⟩
  · rintro ⟨valid, session, record, read, locked, ledger, ran⟩
    refine ⟨valid, session, read, record, locked, ?_⟩
    split
    · next claimable =>
      rw [bind_ok]
      exact ⟨(), lockClaimLedger_ok.mpr (ledger claimable), ran⟩
    · exact ran

theorem claimWalletLocked_leaves {holds : Database → Prop} :
    Leaves holds (database.claimWalletLocked session record now lease) := by
  unfold Database.claimWalletLocked
  split
  · exact Leaves.ok _
  · split
    · exact Leaves.ok _
    · refine Leaves.bind (Leaves.abortWhen _ _) fun _ _ => ?_
      exact Leaves.bind (Leaves.require _ _) fun _ _ => Leaves.ok _

/-- The ledger of a claimable round is never in doubt. -/
theorem Database.Healthy.lockClaimLedger (healthy : database.Healthy codec)
    (read : database.lockSession key.session = .ok session)
    (locked : database.lockRound codec key = .ok record)
    (claimable : record.status = .prepared ∨ record.status = .walletPending) :
    database.lockClaimLedger codec session record podNow = .ok () := by
  obtain ⟨row, owner, entry, profile, feature, result, holds, rfl⟩ := healthy.lockRound_ok.mp locked
  exact lockClaimLedger_ok.mpr (healthy.claims holds claimable read)

theorem Database.Healthy.claimWallet_leaves (healthy : database.Healthy codec) :
    Leaves (database.Follows codec []) (database.claimWallet codec key lease now podNow) := by
  unfold Database.claimWallet
  refine Leaves.bind (Leaves.check _) fun _ _ => ?_
  refine Leaves.bind (healthy.lockSessionOrQuarantine _ _) fun session read => ?_
  refine Leaves.bind (healthy.lockRoundOrQuarantine _ _ _) fun record locked => ?_
  split
  · next claimable =>
    rw [healthy.lockClaimLedger (lockSessionOrQuarantine_ok.mp read)
      (lockRoundOrQuarantine_ok.mp locked) claimable]
    exact Leaves.bind (Leaves.ok _) fun _ _ => claimWalletLocked_leaves
  · exact claimWalletLocked_leaves

theorem Database.Healthy.claimWallet (healthy : database.Healthy codec) (reading : Reading now)
    (ran : database.claimWallet codec key lease now podNow = .ok ((claim, granted), after)) :
    (granted = false ∧ after = database) ∨
      (granted = true ∧ database.Follows codec [key] after ∧ claim.record.key = key ∧
        after.lockRound codec key = .ok (persisted claim.record)) := by
  obtain ⟨valid, session, record, _, locked, _, claimed⟩ := claimWallet_ok.mp ran
  simp only [validateLease, refuse_ok, not_or, not_le] at valid
  exact healthy.claimWalletLocked reading (le_of_lt valid.1) locked claimed

/-! ### A batch of claims -/

/-- Every candidate is still claimable when its session is locked. -/
def Database.Current (database : Database) (keys : List RoundKey) : Prop :=
  ∀ key ∈ keys, ∃ row, database.rounds.lookup key = some row ∧
    (row.status = .prepared ∨ row.status = .walletPending)

theorem lockCandidate_ok {candidate : Session × RoundRecord} :
    database.lockCandidate codec podNow key = .ok candidate ↔
      database.lockSession key.session = .ok candidate.1 ∧
      database.lockRound codec key = .ok candidate.2 ∧
      lockAndValidateWalletClaimLedger codec database candidate.1 candidate.2 = .ok () := by
  obtain ⟨session, record⟩ := candidate
  simp only [Database.lockCandidate, bind_ok, lockSessionOrQuarantine_ok, lockRoundOrQuarantine_ok,
    lockClaimLedger_ok, exists_unit, pure_ok, Prod.mk.injEq]
  constructor
  · rintro ⟨session, read, record, locked, ledger, rfl, rfl⟩
    exact ⟨read, locked, ledger⟩
  · rintro ⟨read, locked, ledger⟩
    exact ⟨session, read, record, locked, ledger, rfl, rfl⟩

theorem Database.Healthy.lockCandidate (healthy : database.Healthy codec) {keys : List RoundKey}
    (current : database.Current keys) (member : key ∈ keys) :
    Leaves (database.Follows codec []) (database.lockCandidate codec podNow key) := by
  unfold Database.lockCandidate
  refine Leaves.bind (healthy.lockSessionOrQuarantine _ _) fun session read => ?_
  refine Leaves.bind (healthy.lockRoundOrQuarantine _ _ _) fun record locked => ?_
  obtain ⟨row, found, claimable⟩ := current key member
  have locked := lockRoundOrQuarantine_ok.mp locked
  have open_ : record.status = .prepared ∨ record.status = .walletPending := by
    obtain ⟨_, _, _, _, _, _, holds, rfl⟩ := healthy.lockRound_ok.mp locked
    rw [holds.found, Option.some.injEq] at found
    subst found
    exact claimable
  rw [healthy.lockClaimLedger (lockSessionOrQuarantine_ok.mp read) locked open_]
  exact Leaves.bind (Leaves.ok _) fun _ _ => Leaves.ok _

theorem claimCandidate_leaves {holds : Database → Prop}
    (claimed : List WalletRecoveryClaim × Database) (candidate : Session × RoundRecord) :
    Leaves holds (claimCandidate now lease claimed candidate) := by
  unfold claimCandidate
  exact Leaves.bind claimWalletLocked_leaves fun _ _ => Leaves.ok _

theorem Database.Healthy.claimRecoverable_leaves (healthy : database.Healthy codec) {limit : Int}
    {keys : List RoundKey} (current : database.Current keys) :
    Leaves (database.Follows codec [])
      (database.claimRecoverableRounds codec limit lease keys now podNow) := by
  unfold Database.claimRecoverableRounds
  refine Leaves.bind (Leaves.check _) fun _ _ => ?_
  refine Leaves.bind (Leaves.mapM fun key member => healthy.lockCandidate current member) ?_
  intro _ _
  refine Leaves.bind (Leaves.foldlM claimCandidate_leaves _ _) fun _ _ => Leaves.ok _

/-- The keys of the rounds that are claimed. -/
def claimKeys (claims : List WalletRecoveryClaim) : List RoundKey :=
  claims.map fun claim => claim.record.key

/-- The candidates claimed so far. -/
structure Batch (codec : Codec) (database : Database) (claimed : List (Session × RoundRecord))
    (state : List WalletRecoveryClaim × Database) : Prop where
  follows : database.Follows codec (claimKeys state.1) state.2
  among : ∀ key ∈ claimKeys state.1, key ∈ claimed.map fun candidate => candidate.2.key
  written : ∀ claim ∈ state.1,
    state.2.lockRound codec claim.record.key = .ok (persisted claim.record)

theorem Batch.next {claimed : List (Session × RoundRecord)}
    {state : List WalletRecoveryClaim × Database} (batch : Batch codec database claimed state)
    (reading : Reading now) (later : 0 ≤ lease) {candidate : Session × RoundRecord}
    (locked : database.lockRound codec candidate.2.key = .ok candidate.2)
    (fresh : candidate.2.key ∉ claimed.map fun candidate => candidate.2.key)
    {next : List WalletRecoveryClaim × Database}
    (stepped : claimCandidate now lease state candidate = .ok next) :
    Batch codec database (claimed ++ [candidate]) next := by
  simp only [claimCandidate, bind_ok, pure_ok, Prod.exists] at stepped
  obtain ⟨claim, granted, after, ran, rfl⟩ := stepped
  have unclaimed : candidate.2.key ∉ claimKeys state.1 := fun there => fresh (batch.among _ there)
  have among : ∀ key ∈ claimKeys state.1,
      key ∈ (claimed ++ [candidate]).map fun candidate => candidate.2.key := by
    intro key member
    rw [List.map_append]
    exact List.mem_append_left _ (batch.among key member)
  rcases batch.follows.healthy.claimWalletLocked reading later
    (batch.follows.keeps _ _ unclaimed locked) ran with
    ⟨rfl, rfl⟩ | ⟨rfl, follows, keyed, written⟩
  · exact ⟨batch.follows, among, batch.written⟩
  · have keys : claimKeys (state.1 ++ [claim]) = claimKeys state.1 ++ [candidate.2.key] := by
      simp [claimKeys, keyed]
    refine
      { follows :=
          ⟨follows.healthy, ?keeps, ?rows, ?reviews,
            fun unmarked => follows.unmarked (batch.follows.unmarked unmarked)⟩
        among := ?among, written := ?written }
    case keeps =>
      show database.Keeps codec (claimKeys (state.1 ++ [claim])) after
      rw [keys]
      intro other record apart read
      rw [List.mem_append, not_or] at apart
      exact follows.keeps other record apart.2 (batch.follows.keeps other record apart.1 read)
    case rows =>
      show ∀ other third, other ∉ claimKeys (state.1 ++ [claim]) → _
      rw [keys]
      intro other third apart open_
      rw [List.mem_append, not_or] at apart
      exact (follows.rows other third apart.2 open_).trans
        (batch.follows.rows other third apart.1 open_)
    case reviews =>
      show ∀ other, other ∉ claimKeys (state.1 ++ [claim]) → _
      rw [keys]
      intro other apart
      rw [List.mem_append, not_or] at apart
      exact (follows.reviews other apart.2).trans (batch.follows.reviews other apart.1)
    case among =>
      show ∀ key ∈ claimKeys (state.1 ++ [claim]), _
      rw [keys]
      intro key member
      rcases List.mem_append.mp member with member | member
      · exact among key member
      · rw [List.mem_singleton.mp member]
        simp
    case written =>
      intro other member
      rcases List.mem_append.mp member with member | member
      · -- a later claim leaves the rounds that are claimed already alone
        refine follows.keeps _ _ ?_ (batch.written other member)
        intro same
        apply unclaimed
        rw [← List.mem_singleton.mp same]
        exact List.mem_map_of_mem member
      · rw [List.mem_singleton.mp member, keyed]
        exact written

theorem Database.Healthy.claimRecoverable (healthy : database.Healthy codec) (reading : Reading now)
    {limit : Int} {keys : List RoundKey} (distinct : keys.Nodup) {claims : List WalletRecoveryClaim}
    (ran : database.claimRecoverableRounds codec limit lease keys now podNow =
      .ok (claims, after)) :
    database.Follows codec (claimKeys claims) after ∧
      ∀ claim ∈ claims, after.lockRound codec claim.record.key = .ok (persisted claim.record) := by
  simp only [Database.claimRecoverableRounds, bind_ok, check_ok, exists_unit, pure_ok,
    Prod.exists, Prod.mk.injEq] at ran
  obtain ⟨valid, candidates, locked, claims, claimed, folded, rfl, rfl⟩ := ran
  simp only [validateRecoveryBatch, refuse_ok, not_or, not_le] at valid
  have locked := mapM_ok.mp locked
  have each : List.Forall₂ (fun key candidate => candidate.2.key = key ∧
      database.lockRound codec candidate.2.key = .ok candidate.2) keys candidates := by
    refine locked.imp fun key candidate got => ?_
    have read := (lockCandidate_ok.mp got).2.1
    obtain ⟨row, owner, _, profile, feature, result, _, same⟩ := healthy.lockRound_ok.mp read
    have keyed : candidate.2.key = key := by rw [same]; rfl
    exact ⟨keyed, by rw [keyed]; exact read⟩
  have named : candidates.map (fun candidate => candidate.2.key) = keys := by
    have same := List.forall₂_map_right_iff.mpr (each.imp fun _ _ both => both.1.symm)
    rw [List.forall₂_eq_eq_eq] at same
    exact same.symm
  have batch : Batch codec database candidates (claims, claimed) := by
    refine foldlM_ok_prefix (Batch codec database) folded
      ⟨healthy.follows, by simp [claimKeys], by simp⟩ ?_
    intro before candidate rest state next split batch stepped
    have fresh : candidate.2.key ∉ before.map fun candidate => candidate.2.key := by
      rw [← named, split, List.map_append, List.map_cons] at distinct
      intro member
      exact (List.nodup_append.mp distinct).2.2 _ member _ (List.mem_cons_self) rfl
    have read : database.lockRound codec candidate.2.key = .ok candidate.2 := by
      have member : candidate ∈ candidates := by simp [split]
      obtain ⟨index, bound, at_⟩ := List.getElem_of_mem member
      have := (List.forall₂_iff_get.mp each).2 index (each.length_eq ▸ bound) bound
      simp only [List.get_eq_getElem, at_] at this
      exact this.2
    exact batch.next reading (le_of_lt valid.2.2.1) read fresh stepped
  have touched : claimed.Follows codec [] (claimed.touchRecoveryOperators claims now) :=
    batch.follows.healthy.congr rfl rfl rfl fun _ _ => rfl
  refine ⟨batch.follows.trans touched (by simp), fun claim member => ?_⟩
  exact (lockRound_congr rfl rfl).trans (batch.written claim member)

/-! The candidate statement names no round twice. -/

theorem recoverableRounds_distinct (now : Time) :
    ((database.recoverableRounds now).map fun candidate => candidate.key).Nodup := by
  have distinct : (database.rounds.rows.map Prod.fst).Nodup := by
    rw [List.Nodup, List.pairwise_map]
    exact Table.rows_distinct database.rounds
  refine List.Nodup.sublist ?_ distinct
  unfold Database.recoverableRounds
  induction database.rounds.rows with
  | nil => simp
  | cons row rest ih =>
      obtain ⟨key, row⟩ := row
      rw [List.filterMap_cons]
      split
      · exact ih.cons _
      · next candidate chosen =>
        have keyed : candidate.key = key := by
          dsimp only at chosen
          split at chosen
          · split at chosen
            · cases chosen
              rfl
            · cases chosen
          · cases chosen
        rw [List.map_cons, keyed]
        exact ih.cons_cons key

theorem rankCandidates_keys (candidates : List RecoveryCandidate) (operatorID : String) :
    ((rankCandidates candidates operatorID).map fun ranked => ranked.2.key).Perm
      ((candidates.filter fun candidate => candidate.key.operatorID = operatorID).map
        fun candidate => candidate.key) := by
  set sorted := (candidates.filter fun candidate => candidate.key.operatorID = operatorID).mergeSort
    RecoveryCandidate.before with sorted_eq
  have same : (rankCandidates candidates operatorID).map (fun ranked => ranked.2.key) =
      sorted.map fun candidate => candidate.key := by
    calc
      _ = ((sorted.zipIdx 1).map Prod.fst).map fun candidate => candidate.key := by
        rw [rankCandidates, ← sorted_eq, List.map_map, List.map_map]
        rfl
      _ = _ := by rw [List.zipIdx_map_fst]
  rw [same]
  exact (List.mergeSort_perm _ _).map _

theorem recoverableRoundKeys_distinct (now : Time) (limit : Nat) (locked : SessionKey → Bool)
    (lockedOperator : String → Bool) :
    (database.recoverableRoundKeys now limit locked lockedOperator).Nodup := by
  have distinct : ((database.recoverableRounds now).map fun candidate => candidate.key).Nodup :=
    recoverableRounds_distinct now
  set candidates := database.recoverableRounds now with chosen
  unfold Database.recoverableRoundKeys
  rw [← chosen]
  refine List.Nodup.sublist (List.take_sublist _ _) (List.Nodup.filter _ ?_)
  refine ((List.mergeSort_perm _ _).map _).nodup_iff.mpr ?_
  rw [List.map_flatMap]
  refine List.nodup_flatMap.mpr ⟨?_, ?_⟩
  · intro operatorID _
    refine (rankCandidates_keys candidates operatorID).nodup_iff.mpr ?_
    exact distinct.sublist (List.filter_sublist.map _)
  · refine (List.nodup_dedup _).imp ?_
    intro left right different key inLeft inRight
    have operator {operatorID : String}
        (member : key ∈ (rankCandidates candidates operatorID).map fun ranked => ranked.2.key) :
        key.operatorID = operatorID := by
      have member := (rankCandidates_keys candidates operatorID).mem_iff.mp member
      simp only [List.mem_map, List.mem_filter, decide_eq_true_eq] at member
      obtain ⟨candidate, ⟨_, same⟩, rfl⟩ := member
      exact same
    exact different ((operator inLeft).symm.trans (operator inRight))

end Claiming

/-! ## Completing a claim -/

section Completing

variable {session : Session} {record : RoundRecord} {podNow : Time} {claim : WalletRecoveryClaim}
  {receipt : WalletReceipt} {rows : Completion} {changed : Bool}

theorem lockCompletion_ok :
    database.lockCompletion claim record = .ok rows ↔
      database.rounds.lookup claim.record.key = some rows.round ∧ rows.round.LeasedTo claim ∧
      rows.transaction = ⟨claim.record.key.operatorID, record.result.serverTransactionID⟩ ∧
      database.walletTransactions.lookup rows.transaction = some rows.entry ∧ rows.entry.Open ∧
      database.sessions.lookup claim.record.key.session = some rows.owner ∧
      rows.owner.revision = record.request.startRevision ∧
      rows.owner.pendingRoundID = some claim.record.key.roundID := by
  simp only [Database.lockCompletion, bind_ok, require_ok, abortWhen_ok, exists_unit, pure_ok,
    not_not, not_or]
  constructor
  · rintro ⟨round, found, leased, entry, booked, opened, owner, owned, ⟨revision, pending⟩, rfl⟩
    exact ⟨found, leased, rfl, booked, opened, owned, revision, pending⟩
  · rintro ⟨found, leased, transaction, booked, opened, owned, revision, pending⟩
    rw [transaction] at booked
    exact ⟨rows.round, found, leased, rows.entry, booked, opened, rows.owner, owned,
      ⟨revision, pending⟩, by rw [← transaction]⟩

/-- The rows a completion finds are the round's. -/
theorem Database.Holds.completion {row : RoundRow} {owner : SessionRow} {entry : WalletRow}
    {profile : Profile} {feature : FeatureState} {result : SpinResult}
    (holds : database.Holds codec claim.record.key row owner entry profile feature result)
    (named : record.result.serverTransactionID = row.serverTransactionID)
    (locked : database.lockCompletion claim record = .ok rows) :
    rows = { round := row, transaction := row.transaction claim.record.key, entry := entry
             owner := owner } := by
  obtain ⟨found, _, transaction, booked, _, owned, _, _⟩ := lockCompletion_ok.mp locked
  rw [holds.found, Option.some.injEq] at found
  rw [holds.owned, Option.some.injEq] at owned
  have same : rows.transaction = row.transaction claim.record.key := by
    rw [transaction, named]
    rfl
  rw [same, holds.booked, Option.some.injEq] at booked
  subst found owned booked
  rw [← same]

theorem complete_writes (database : Database) (rows : Completion) (key : RoundKey)
    (round : RoundRow) (money : TransactionStatus) (owner : SessionRow) (transaction : rows.transaction = round.transaction key) :
    database.Writes (database.complete key rows round money owner) key round owner
      { rows.entry with status := money } where
  rounds other := by
    show (database.rounds.insert key round).lookup other = _
    rw [Table.lookup_insert]
  sessions other := by
    show (database.sessions.insert key.session owner).lookup other = _
    rw [Table.lookup_insert]
  transactions other := by
    show (database.walletTransactions.insert rows.transaction _).lookup other = _
    rw [Table.lookup_insert, transaction]
  reviews _ _ := rfl

theorem commitClaim_ok :
    database.commitClaim codec claim receipt podNow = .ok ((record, changed), after) ↔
      ∃ session before hash rows,
        database.lockSession claim.record.key.session = .ok session ∧
        database.lockRound codec claim.record.key = .ok before ∧ OwnsWalletClaim before claim ∧
        validateWalletReceipt before.walletCommand receipt = .ok () ∧
        session.pendingRoundID = claim.record.key.roundID ∧
        session.revision = before.request.startRevision ∧
        before.request.startRevision < maxStateRevision ∧
        record = committedRecord before receipt podNow ∧ changed = true ∧
        committedResultHashFor codec record.result = .ok hash ∧
        database.lockCompletion claim record = .ok rows ∧
        ¬ database.DeliveryPending claim.record.key.session ∧
        after = database.complete claim.record.key rows
          (rows.round.committed record receipt hash podNow) .succeeded
          (rows.owner.committed record receipt) := by
  simp only [Database.commitClaim, bind_ok, check_ok, lockSessionOrQuarantine_ok, abortWhen_ok,
    exists_unit, pure_ok, Prod.mk.injEq, not_not, not_or, not_le, ge_iff_le]
  constructor
  · rintro ⟨session, read, before, locked, owns, confirmed, ⟨pending, revision⟩, limit, hash, hashed,
      rows, rowed, delivered, ⟨rfl, rfl⟩, rfl⟩
    exact ⟨session, before, hash, rows, read, locked, owns, confirmed, pending, revision, limit,
      rfl, rfl, hashed, rowed, delivered, rfl⟩
  · rintro ⟨session, before, hash, rows, read, locked, owns, confirmed, pending, revision, limit,
      rfl, rfl, hashed, rowed, delivered, rfl⟩
    exact ⟨session, read, before, locked, owns, confirmed, ⟨pending, revision⟩, limit, hash, hashed,
      rows, rowed, delivered, ⟨rfl, rfl⟩, rfl⟩

theorem lockCompletion_leaves {holds : Database → Prop} :
    Leaves holds (database.lockCompletion claim record) := by
  unfold Database.lockCompletion
  refine Leaves.bind (Leaves.require _ _) fun _ _ => ?_
  refine Leaves.bind (Leaves.abortWhen _ _) fun _ _ => ?_
  refine Leaves.bind (Leaves.require _ _) fun _ _ => ?_
  refine Leaves.bind (Leaves.abortWhen _ _) fun _ _ => ?_
  refine Leaves.bind (Leaves.require _ _) fun _ _ => ?_
  exact Leaves.bind (Leaves.abortWhen _ _) fun _ _ => Leaves.ok _

theorem Database.Healthy.commitClaim_leaves (healthy : database.Healthy codec) :
    Leaves (database.Follows codec []) (database.commitClaim codec claim receipt podNow) := by
  unfold Database.commitClaim
  refine Leaves.bind (healthy.lockSessionOrQuarantine _ _) fun _ _ => ?_
  refine Leaves.bind (Leaves.check _) fun _ _ => ?_
  refine Leaves.bind (Leaves.abortWhen _ _) fun _ _ => ?_
  refine Leaves.bind (Leaves.check _) fun _ _ => ?_
  refine Leaves.bind (Leaves.abortWhen _ _) fun _ _ => ?_
  refine Leaves.bind (Leaves.abortWhen _ _) fun _ _ => ?_
  refine Leaves.bind (Leaves.check _) fun _ _ => ?_
  refine Leaves.bind lockCompletion_leaves fun _ _ => ?_
  exact Leaves.bind (Leaves.abortWhen _ _) fun _ _ => Leaves.ok _

/-- The session of a committed round is read back, after the round. -/
theorem SessionRow.Reads.committed {owner : SessionRow} {key : SessionKey} {input : FeatureState}
    (reads : owner.Reads key input) {record : RoundRecord} {receipt : WalletReceipt}
    (balance : 0 ≤ receipt.balanceMinor) (sequence : record.result.sequence ≤ maxClientSequence)
    (revision : record.result.endRevision ≤ maxStateRevision)
    (feature : validatePersistedFeatureState record.result.featureState = .ok ()) :
    (owner.committed record receipt).Reads key record.result.featureState := by
  obtain ⟨_, _, least, most, generation⟩ := reads.bounds
  refine
    { unmarked := reads.unmarked
      bounds := ⟨Int.natCast_nonneg _, Int.natCast_nonneg _, least, most, generation⟩
      featured := rfl
      valid :=
        { reads.valid with
          balance := balance, sequence := ?_, revision := ?_, pending := .inl rfl
          feature := feature } }
  · exact sequence
  · exact revision

theorem Database.Healthy.commitClaim (healthy : database.Healthy codec)
    (ran : database.commitClaim codec claim receipt podNow = .ok ((record, changed), after)) :
    database.Follows codec [claim.record.key] after ∧ changed = true ∧
      record.key = claim.record.key ∧
      after.lockRound codec claim.record.key = .ok (persisted record) := by
  obtain ⟨session, before, hash, rows, _, locked, owns, confirmed, _, _, limit, rfl, new, hashed,
    rowed, _, rfl⟩ := commitClaim_ok.mp ran
  obtain ⟨row, owner, entry, profile, feature, result, holds, same⟩ :=
    healthy.lockRound_ok.mp locked
  have claimable : row.status = .prepared ∨ row.status = .walletPending := by
    have claimable := owns.1
    rw [same] at claimable
    exact claimable
  have waiting := RoundRow.waiting_of_claimable claimable
  obtain ⟨input, reads⟩ := holds.owns.reads
  have described := holds.kept.reads.described
  simp only [checkResultColumns, bind_ok, refuse_ok, exists_unit, not_or, not_not] at described
  obtain ⟨⟨_, _, _, _, _, _, _, _, _, sequence, operation, _⟩, _⟩ := described
  obtain ⟨_, _, _, _, bounded, _⟩ := holds.kept.reads.bounds
  have balance : 0 ≤ receipt.balanceMinor := by
    simp only [validateWalletReceipt, refuse_ok, not_or, not_lt] at confirmed
    exact confirmed.2.2.2.2.2.2.2
  have feature' := validatePersisted_of_outcome
    (validateOutcomeStructure_ok.mp holds.kept.reads.structured).choose_spec.2.choose_spec.2.2.2.1
    holds.kept.canonical
  obtain ⟨kept, spelled⟩ := holds.kept.committed same confirmed hashed
  have rows_eq := holds.completion (by rw [same]; exact operation) rowed
  have reads' : (owner.committed (committedRecord before receipt podNow) receipt).Reads
      claim.record.key.session (committedRecord before receipt podNow).result.featureState := by
    refine reads.committed balance ?_ ?_ ?_
    · rw [same]
      exact_mod_cast sequence ▸ bounded
    · exact limit
    · rw [same]
      exact feature'
  have continues : owner.Continues (owner.committed (committedRecord before receipt podNow) receipt) :=
    ⟨rfl, rfl, rfl, rfl, rfl, rfl, rfl, id⟩
  have writes := complete_writes database rows claim.record.key
    (row.committed (committedRecord before receipt podNow) receipt hash podNow) .succeeded
    (owner.committed (committedRecord before receipt podNow) receipt) (by rw [rows_eq]; rfl)
  rw [rows_eq] at writes ⊢
  refine ⟨healthy.end_ holds waiting kept ⟨rfl, rfl, rfl, rfl, rfl, rfl, rfl, rfl, rfl⟩ ?_ reads'
    continues (by rintro ⟨⟩) .succeeded writes, new, by rw [same]; rfl, ?_⟩
  · rintro (status | status | status) <;> cases status
  · rw [writes.lockRound (kept.under reads' continues), RoundRow.reading_owner continues, spelled]

/-- The two ends a claim can bring about without a receipt. -/
def Failure (target : RoundStatus) : Prop :=
  target = .rejected ∨ target = .manualReview

theorem Database.Healthy.transitionClaimFailure_ok (healthy : database.Healthy codec)
    {target : RoundStatus} (failure : Failure target) {reason : Bytes} {clearPending : Bool} :
    database.transitionClaimFailure codec claim target reason clearPending podNow =
        .ok ((record, changed), after) ↔
      ∃ session before rows,
        database.lockSession claim.record.key.session = .ok session ∧
        database.lockRound codec claim.record.key = .ok before ∧ OwnsWalletClaim before claim ∧
        session.pendingRoundID = claim.record.key.roundID ∧
        session.revision = before.request.startRevision ∧ TextColumn (boundedReason reason) ∧
        record = reviewedRecord before target reason podNow ∧ changed = true ∧
        database.lockCompletion claim record = .ok rows ∧
        after = database.complete claim.record.key rows (rows.round.failed record podNow)
          (if target = .manualReview then .unknown else .failed)
          (if clearPending then { rows.owner with pendingRoundID := none }
            else { rows.owner with status := .blocked }) := by
  simp only [Database.transitionClaimFailure, bind_ok, lockSessionOrQuarantine_ok]
  cases locked : database.lockRound codec claim.record.key with
  | error error =>
      rw [(healthy.lockRound_error locked).1]
      simp
  | ok before =>
      simp only [Except.ok.injEq, bind_ok, abortWhen_ok, exists_unit, not_not]
      constructor
      · rintro ⟨session, read, owns, ran⟩
        have apart : before.status ≠ target ∧ before.status ≠ .committed ∧
            before.status ≠ .manualReview := by
          rcases owns.1 with status | status <;> rcases failure with rfl | rfl <;> simp [status]
        rw [if_neg apart.1] at ran
        simp only [bind_ok, abortWhen_ok, exists_unit, not_or, not_not, pure_ok, Prod.mk.injEq]
          at ran
        obtain ⟨_, _, ⟨pending, revision⟩, text, rows, rowed, ⟨rfl, rfl⟩, rfl⟩ := ran
        exact ⟨session, before, rows, read, rfl, owns, pending, revision, text, rfl, rfl, rowed,
          rfl⟩
      · rintro ⟨session, _, rows, read, rfl, owns, pending, revision, text, rfl, rfl, rowed, rfl⟩
        have apart : before.status ≠ target ∧ before.status ≠ .committed ∧
            before.status ≠ .manualReview := by
          rcases owns.1 with status | status <;> rcases failure with rfl | rfl <;> simp [status]
        refine ⟨session, read, owns, ?_⟩
        rw [if_neg apart.1]
        simp only [bind_ok, abortWhen_ok, exists_unit, not_or, not_not, pure_ok, Prod.mk.injEq]
        exact ⟨apart.2.1, fun review => apart.2.2 review.1, ⟨pending, revision⟩, text, rows, rowed,
          by simp⟩

theorem Database.Healthy.transitionClaimFailure_leaves (healthy : database.Healthy codec)
    {target : RoundStatus} {reason : Bytes} {clearPending : Bool} :
    Leaves (database.Follows codec [])
      (database.transitionClaimFailure codec claim target reason clearPending podNow) := by
  unfold Database.transitionClaimFailure
  refine Leaves.bind (healthy.lockSessionOrQuarantine _ _) fun _ _ => ?_
  cases locked : database.lockRound codec claim.record.key with
  | error error =>
      rw [(healthy.lockRound_error locked).1]
      simp only [reduceCtorEq, and_false, if_false]
      exact Leaves.rolledBack _
  | ok before =>
      refine Leaves.bind (Leaves.abortWhen _ _) fun _ _ => ?_
      split
      · exact Leaves.ok _
      · refine Leaves.bind (Leaves.abortWhen _ _) fun _ _ => ?_
        refine Leaves.bind (Leaves.abortWhen _ _) fun _ _ => ?_
        refine Leaves.bind (Leaves.abortWhen _ _) fun _ _ => ?_
        refine Leaves.bind (Leaves.abortWhen _ _) fun _ _ => ?_
        exact Leaves.bind lockCompletion_leaves fun _ _ => Leaves.ok _

/-- A session's row without its pending round, or blocked, is read back. -/
theorem SessionRow.Reads.released {owner : SessionRow} {key : SessionKey} {input : FeatureState}
    (reads : owner.Reads key input) (clearPending : Bool) :
    (if clearPending then { owner with pendingRoundID := none }
      else { owner with status := .blocked } : SessionRow).Reads key input := by
  cases clearPending with
  | true => exact { reads with valid := { reads.valid with pending := .inl rfl } }
  | false => exact { reads with valid := { reads.valid with status := .inr (.inl rfl) } }

theorem SessionRow.released_continues (owner : SessionRow) (clearPending : Bool) :
    owner.Continues (if clearPending then { owner with pendingRoundID := none }
      else { owner with status := .blocked }) := by
  cases clearPending with
  | true => exact ⟨rfl, rfl, rfl, rfl, rfl, rfl, rfl, id⟩
  | false => exact ⟨rfl, rfl, rfl, rfl, rfl, rfl, rfl, fun _ => rfl⟩

theorem Database.Healthy.transitionClaimFailure (healthy : database.Healthy codec)
    {target : RoundStatus} (failure : Failure target) {reason : Bytes} {clearPending : Bool}
    (blocks : target = .manualReview → clearPending = false)
    (ran : database.transitionClaimFailure codec claim target reason clearPending podNow =
      .ok ((record, changed), after)) :
    database.Follows codec [claim.record.key] after ∧ changed = true ∧
      record.key = claim.record.key ∧
      after.lockRound codec claim.record.key = .ok (persisted record) := by
  obtain ⟨session, before, rows, _, locked, owns, _, _, _, rfl, new, rowed, rfl⟩ :=
    (healthy.transitionClaimFailure_ok failure).mp ran
  obtain ⟨row, owner, entry, profile, feature, result, holds, same⟩ :=
    healthy.lockRound_ok.mp locked
  have claimable : row.status = .prepared ∨ row.status = .walletPending := by
    have claimable := owns.1
    rw [same] at claimable
    exact claimable
  have waiting := RoundRow.waiting_of_claimable claimable
  obtain ⟨input, reads⟩ := holds.owns.reads
  have described := holds.kept.reads.described
  simp only [checkResultColumns, bind_ok, refuse_ok, exists_unit, not_or, not_not] at described
  obtain ⟨⟨_, _, _, _, _, _, _, _, _, _, operation, _⟩, _⟩ := described
  have rows_eq := holds.completion (by rw [same]; exact operation) rowed
  obtain ⟨kept, spelled⟩ := holds.kept.failed waiting.unreceipted failure reason podNow same
  have reads' := reads.released clearPending
  have continues := SessionRow.released_continues owner clearPending
  have writes := complete_writes database rows claim.record.key
    (row.failed (reviewedRecord before target reason podNow) podNow)
    (if target = .manualReview then .unknown else .failed)
    (if clearPending then { owner with pendingRoundID := none }
      else { owner with status := .blocked }) (by rw [rows_eq]; rfl)
  rw [rows_eq] at writes ⊢
  refine ⟨healthy.end_ holds waiting kept ⟨rfl, rfl, rfl, rfl, rfl, rfl, rfl, rfl, rfl⟩ ?_ reads'
    continues (fun review => by rw [blocks review]; rfl) _ writes, new, by rw [same]; rfl, ?_⟩
  · intro waits
    change target = .prepared ∨ target = .riskPending ∨ target = .walletPending at waits
    rcases failure with rfl | rfl <;> simp at waits
  · rw [writes.lockRound (kept.under reads' continues), RoundRow.reading_owner continues, spelled]

end Completing

/-! ## Giving a claim back -/

section Scheduling

variable {claim : WalletRecoveryClaim} {disposition : WalletRecoveryDisposition}
  {jitterDelay : Duration} {now updatedAt : Time} {done : Bool}

/-- The row is leased under the claim, with an attempt to give back where the claim
gives one back. -/
def Returnable (row : RoundRow) (claim : WalletRecoveryClaim)
    (disposition : WalletRecoveryDisposition) : Prop :=
  row.LeasedTo claim ∧ (disposition.applyNotSent = false ∨ row.applyAttempts > 0)

theorem scheduleWalletRecovery_ok :
    database.scheduleWalletRecovery claim disposition jitterDelay now updatedAt =
        .ok (done, after) ↔
      validateWalletRecoverySchedule claim disposition jitterDelay = .ok () ∧
      ((done = true ∧ ∃ row, database.rounds.lookup claim.record.key = some row ∧
          Returnable row claim disposition ∧
          after = database.putRound claim.record.key
            (row.scheduled disposition jitterDelay now updatedAt)) ∨
        (done = false ∧ after = database ∧
          ∀ row, database.rounds.lookup claim.record.key = some row →
            ¬ Returnable row claim disposition)) := by
  simp only [Database.scheduleWalletRecovery, bind_ok, check_ok, exists_unit]
  refine and_congr_right fun _ => ?_
  cases found : database.rounds.lookup claim.record.key with
  | none =>
      simp only [pure_ok, Prod.mk.injEq, reduceCtorEq, false_and, exists_false, and_false, false_or,
        false_implies, implies_true, and_true]
      constructor <;> rintro ⟨rfl, rfl⟩ <;> exact ⟨rfl, rfl⟩
  | some row =>
      simp only [Option.some.injEq, exists_eq_left', forall_eq']
      by_cases returnable : Returnable row claim disposition
      · rw [if_pos (show row.LeasedTo claim ∧ _ from returnable)]
        simp only [pure_ok, Prod.mk.injEq, returnable, not_true, and_false, or_false, true_and]
        constructor <;> rintro ⟨rfl, rfl⟩ <;> exact ⟨rfl, rfl⟩
      · rw [if_neg (show ¬ (row.LeasedTo claim ∧ _) from returnable)]
        simp only [pure_ok, Prod.mk.injEq, returnable, false_and, and_false, false_or,
          not_false_eq_true, and_true]
        constructor <;> rintro ⟨rfl, rfl⟩ <;> exact ⟨rfl, rfl⟩

theorem scheduleWalletRecovery_leaves {holds : Database → Prop} :
    Leaves holds
      (database.scheduleWalletRecovery claim disposition jitterDelay now updatedAt) := by
  unfold Database.scheduleWalletRecovery
  refine Leaves.bind (Leaves.check _) fun _ _ => ?_
  dsimp only
  split
  · exact Leaves.ok _
  · split
    · exact Leaves.ok _
    · exact Leaves.ok _

theorem validateSchedule_facts
    (valid : validateWalletRecoverySchedule claim disposition jitterDelay = .ok ()) :
    disposition.nextAction.Valid ∧ 0 ≤ jitterDelay := by
  simp only [validateWalletRecoverySchedule, refuse_ok, not_or, not_lt, not_not] at valid
  obtain ⟨running, disposed, jitter, _⟩ := valid
  simp only [validateWalletRecoveryDisposition, running, Bool.false_eq_true, if_false, bind_ok,
    refuse_ok, exists_unit, not_not] at disposed
  exact ⟨disposed.1, jitter⟩

theorem Database.Healthy.schedule (healthy : database.Healthy codec) (reading : Reading now)
    (updated : Reading updatedAt)
    (ran : database.scheduleWalletRecovery claim disposition jitterDelay now updatedAt =
      .ok (done, after)) :
    (done = false ∧ after = database) ∨
      (done = true ∧ database.Follows codec [claim.record.key] after ∧ ∃ record,
        database.lockRound codec claim.record.key = .ok record ∧
        after.lockRound codec claim.record.key =
          .ok (rescheduledRecord record disposition jitterDelay now updatedAt)) := by
  obtain ⟨valid, ⟨rfl, row, found, ⟨leased, attempts⟩, rfl⟩ | ⟨rfl, rfl, _⟩⟩ :=
    scheduleWalletRecovery_ok.mp ran
  · obtain ⟨owner, entry, profile, feature, result, holds⟩ := healthy.rounds _ row found
    obtain ⟨action, jitter⟩ := validateSchedule_facts valid
    obtain ⟨kept, spelled⟩ :=
      holds.kept.scheduled leased.1 reading updated action jitter attempts
    refine .inr ⟨rfl, healthy.putRound holds kept ⟨rfl, rfl, rfl, rfl, rfl, rfl, rfl, rfl, rfl⟩ id
      (.inl rfl), _, holds.lockRound, ?_⟩
    rw [lockRound_putRound holds.owned kept, spelled]
  · exact .inl ⟨rfl, rfl⟩

end Scheduling

end SlotsGame.Postgres
