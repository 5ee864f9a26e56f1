/-
# SlotsGame.Postgres.RiskSteps -- the end of a review keeps the store healthy

A held-back round ends its wait in one of three ways: it is approved and may be
claimed, or it is refused or left to an operator without any wallet call.  Each
keeps the store healthy, and the round is read back as that end of it.
-/
import SlotsGame.Postgres.Steps

namespace SlotsGame.Postgres

open SlotsGame.Game SlotsGame.Rgs SlotsGame.Theory

set_option autoImplicit false

variable {settings : Settings} {codec : Codec} {database after : Database} {key : RoundKey}
  {record : RoundRecord} {now : Time}

/-! ## One round -/

theorem heldRow_ok {row : RoundRow} :
    database.heldRow key = .ok row ↔
      database.rounds.lookup key = some row ∧ row.status = .riskPending := by
  simp only [Database.heldRow, bind_ok, require_ok, abortWhen_ok, exists_unit, pure_ok, not_not]
  constructor
  · rintro ⟨row, found, held, rfl⟩
    exact ⟨found, held⟩
  · rintro ⟨found, held⟩
    exact ⟨row, found, held, rfl⟩

/-- What a session's row may become when a held-back round is refused. -/
structure Releases (release : SessionRow → SessionRow) : Prop where
  reads : ∀ {owner : SessionRow} {key : SessionKey} {input : FeatureState},
    owner.Reads key input → (release owner).Reads key input
  continues : ∀ owner : SessionRow, owner.Continues (release owner)

theorem releases_clear : Releases fun owner => { owner with pendingRoundID := none } where
  reads reads := { reads with valid := { reads.valid with pending := .inl rfl } }
  continues _ := ⟨rfl, rfl, rfl, rfl, rfl, rfl, rfl, id⟩

theorem releases_block : Releases fun owner => { owner with status := .blocked } where
  reads reads := { reads with valid := { reads.valid with status := .inr (.inl rfl) } }
  continues _ := ⟨rfl, rfl, rfl, rfl, rfl, rfl, rfl, fun _ => rfl⟩

theorem Database.Healthy.refuseHeld (healthy : database.Healthy codec) (reading : Reading now)
    (locked : database.lockRound codec key = .ok record) {status : RoundStatus}
    (failure : Failure status) {failureCode : String} {release : SessionRow → SessionRow}
    (releases : Releases release)
    (blocks : status = .manualReview → ∀ owner, (release owner).status = .blocked)
    (ran : database.refuseHeld record status failureCode release now = .ok after) :
    database.Follows codec [key] after ∧
      after.lockRound codec key = .ok (refusedRecord record status failureCode now) := by
  obtain ⟨row, owner, entry, profile, feature, result, holds, same⟩ :=
    healthy.lockRound_ok.mp locked
  have keyed : record.key = key := by rw [same]; rfl
  have transaction : (⟨record.key.operatorID, record.walletCommand.operationID⟩ : TransactionKey) =
      row.transaction key := by rw [same]; rfl
  simp only [Database.refuseHeld, bind_ok, heldRow_ok, require_ok, abortWhen_ok, exists_unit,
    pure_ok, keyed] at ran
  obtain ⟨row', ⟨found, held⟩, entry', booked, _, owner', owned, _, rfl⟩ := ran
  rw [holds.found, Option.some.injEq] at found
  subst found
  rw [keyed] at owned booked transaction
  rw [holds.owned, Option.some.injEq] at owned
  subst owned
  rw [transaction, holds.booked, Option.some.injEq] at booked
  subst booked
  obtain ⟨kept, spelled⟩ := holds.kept.refused held failure failureCode reading
  obtain ⟨input, reads⟩ := holds.owns.reads
  have reads' := releases.reads reads
  have continues := releases.continues owner
  have writes : database.Writes
      (((database.putRound key (row.refused status failureCode now)).putTransaction
        ⟨key.operatorID, record.walletCommand.operationID⟩
          { entry with status := .failed }).putSession key.session (release owner))
      key (row.refused status failureCode now) (release owner) { entry with status := .failed } :=
    { rounds := fun other => by
        show (database.rounds.insert key _).lookup other = _
        rw [Table.lookup_insert]
      sessions := fun other => by
        show (database.sessions.insert key.session _).lookup other = _
        rw [Table.lookup_insert]
      transactions := fun other => by
        show (database.walletTransactions.insert _ _).lookup other = _
        rw [Table.lookup_insert, transaction]
        rfl
      reviews := fun _ _ => rfl }
  refine ⟨healthy.end_ holds (.inr (.inl held)) kept ⟨rfl, rfl, rfl, rfl, rfl, rfl, rfl, rfl, rfl⟩ ?_
    reads' continues (fun review => blocks review owner) .failed writes, ?_⟩
  · intro waits
    change status = .prepared ∨ status = .riskPending ∨ status = .walletPending at waits
    rcases failure with rfl | rfl <;> simp at waits
  · rw [writes.lockRound (kept.under reads' continues), RoundRow.reading_owner continues, spelled,
      same]

theorem heldRow_leaves {holds : Database → Prop} : Leaves holds (database.heldRow key) := by
  unfold Database.heldRow
  refine Leaves.bind (Leaves.require _ _) fun _ _ => ?_
  exact Leaves.bind (Leaves.abortWhen _ _) fun _ _ => Leaves.ok _

theorem refuseHeld_leaves {holds : Database → Prop} {status : RoundStatus} {failureCode : String}
    {release : SessionRow → SessionRow} :
    Leaves holds (database.refuseHeld record status failureCode release now) := by
  unfold Database.refuseHeld
  refine Leaves.bind heldRow_leaves fun _ _ => ?_
  refine Leaves.bind (Leaves.require _ _) fun _ _ => ?_
  refine Leaves.bind (Leaves.abortWhen _ _) fun _ _ => ?_
  refine Leaves.bind (Leaves.require _ _) fun _ _ => ?_
  exact Leaves.bind (Leaves.abortWhen _ _) fun _ _ => Leaves.ok _

theorem writeReview_leaves {holds : Database → Prop} {change : ReviewRow → ReviewRow} :
    Leaves holds (database.writeReview key now change) := by
  unfold Database.writeReview
  refine Leaves.bind (Leaves.require _ _) fun _ _ => ?_
  refine Leaves.bind (Leaves.abortWhen _ _) fun _ _ => ?_
  exact Leaves.bind (Leaves.abortWhen _ _) fun _ _ => Leaves.ok _

/-- A review is written beside the tables of the rounds. -/
theorem writeReview_ok {change : ReviewRow → ReviewRow}
    (ran : database.writeReview key now change = .ok after) :
    ∃ review, database.riskReviews.lookup key = some review ∧ review.status = .pending ∧
      review.createdAt ≤ now ∧ after = database.putReview key (change review) := by
  simp only [Database.writeReview, bind_ok, require_ok, abortWhen_ok, exists_unit, pure_ok, not_not,
    not_lt] at ran
  obtain ⟨review, found, pending, later, rfl⟩ := ran
  exact ⟨review, found, pending, later, rfl⟩

theorem Database.Healthy.writeReview (healthy : database.Healthy codec)
    (locked : database.lockRound codec key = .ok record) {change : ReviewRow → ReviewRow}
    (ran : database.writeReview key now change = .ok after) :
    database.Follows codec [key] after ∧ after.lockRound codec key = .ok record := by
  obtain ⟨review, _, _, _, rfl⟩ := writeReview_ok ran
  refine ⟨healthy.congr rfl rfl rfl fun other apart => ?_,
    (lockRound_congr rfl rfl).trans locked⟩
  simp only [Database.putReview, Table.lookup_insert, if_neg (List.mem_singleton.not.mp apart)]

/-! ## Expiry -/

/-- The record of a round whose review expired. -/
def expiredRecord (record : RoundRecord) (policy : RiskExpiryPolicy) (now : Time) : RoundRecord :=
  if policy = .reject then refusedRecord record .rejected riskExpiredReject now
  else refusedRecord record .manualReview riskExpiredManual now

theorem Database.Healthy.expireRiskLocked (healthy : database.Healthy codec)
    (reading : Reading now) {held : HeldRound}
    (locked : database.lockRound codec key = .ok held.record)
    (ran : database.expireRiskLocked held now = .ok after) :
    database.Follows codec [key] after ∧ after.lockRound codec key =
      .ok (expiredRecord held.record held.review.expiryPolicy now) := by
  unfold Database.expireRiskLocked at ran
  unfold expiredRecord
  rw [lockRound_key locked] at ran
  split at ran
  · next policy =>
    rw [bind_ok] at ran
    obtain ⟨refused, ended, written⟩ := ran
    rw [if_pos policy]
    obtain ⟨follows, spelled⟩ := healthy.refuseHeld reading locked (.inl rfl) releases_clear
      (by rintro ⟨⟩) ended
    obtain ⟨reviewed, read⟩ := follows.healthy.writeReview spelled written
    exact ⟨follows.trans reviewed fun _ member => member, read⟩
  · next policy =>
    rw [bind_ok] at ran
    obtain ⟨refused, ended, written⟩ := ran
    rw [if_neg policy]
    obtain ⟨follows, spelled⟩ := healthy.refuseHeld reading locked (.inr rfl) releases_block
      (fun _ _ => rfl) ended
    obtain ⟨reviewed, read⟩ := follows.healthy.writeReview spelled written
    exact ⟨follows.trans reviewed fun _ member => member, read⟩

theorem expireRiskLocked_leaves {holds : Database → Prop} {held : HeldRound} :
    Leaves holds (database.expireRiskLocked held now) := by
  unfold Database.expireRiskLocked
  split
  · exact Leaves.bind refuseHeld_leaves fun _ _ => writeReview_leaves
  · exact Leaves.bind refuseHeld_leaves fun _ _ => writeReview_leaves

theorem lockHeldRound_ok {held : HeldRound} :
    database.lockHeldRound settings key now = .ok held ↔
      database.lockSession key.session = .ok held.session ∧
      database.lockRound settings.codec key = .ok held.record ∧
      database.lockReview key now = .ok held.review ∧
      validateRiskReviewBinding settings held.record held.review = .ok () := by
  simp only [Database.lockHeldRound, bind_ok, exists_unit, pure_ok]
  constructor
  · rintro ⟨session, read, record, locked, review, reviewed, bound, rfl⟩
    exact ⟨read, locked, reviewed, bound⟩
  · rintro ⟨read, locked, reviewed, bound⟩
    exact ⟨held.session, read, held.record, locked, held.review, reviewed, bound, rfl⟩

/-! ## Decisions -/

theorem registerRecoveryOperator_kept (database : Database) (operatorID : String) :
    (database.registerRecoveryOperator operatorID).rounds = database.rounds ∧
      (database.registerRecoveryOperator operatorID).sessions = database.sessions ∧
      (database.registerRecoveryOperator operatorID).walletTransactions =
        database.walletTransactions ∧
      (database.registerRecoveryOperator operatorID).riskReviews = database.riskReviews := by
  unfold Database.registerRecoveryOperator
  split <;> exact ⟨rfl, rfl, rfl, rfl⟩

/-- The record of a round that an operator decided. -/
def decidedRecord (record : RoundRecord) (decision : RiskDecision) (now : Time) : RoundRecord :=
  if decision = .approve then approvedRecord record now
  else refusedRecord record .rejected "RISK_REJECTED" now

theorem Database.Healthy.applyRiskDecisionLocked (healthy : database.Healthy codec)
    (reading : Reading now) {command : RiskDecisionCommand}
    (locked : database.lockRound codec command.roundKey = .ok record) {fingerprint : String}
    {reply : RiskDecisionResult}
    (ran : database.applyRiskDecisionLocked record command fingerprint now = .ok (reply, after)) :
    database.Follows codec [command.roundKey] after ∧ after.lockRound codec command.roundKey =
      .ok (decidedRecord record command.decision now) := by
  unfold Database.applyRiskDecisionLocked at ran
  unfold decidedRecord
  set key := command.roundKey
  by_cases approve : command.decision = .approve
  · simp only [approve, if_true, bind_ok, heldRow_ok, abortWhen_ok, exists_unit, pure_ok,
      Prod.mk.injEq] at ran ⊢
    obtain ⟨row, ⟨found, held⟩, _, rfl, _, written, wrote, _, rfl⟩ := ran
    obtain ⟨row', owner, entry, profile, feature, result, holds, same⟩ :=
      healthy.lockRound_ok.mp locked
    have keyed : record.key = key := by rw [same]; rfl
    rw [keyed] at found
    rw [keyed] at wrote
    rw [holds.found, Option.some.injEq] at found
    subst found
    obtain ⟨kept, spelled⟩ := holds.kept.approved held reading
    have next := healthy.putRound holds kept ⟨rfl, rfl, rfl, rfl, rfl, rfl, rfl, rfl, rfl⟩
      (fun _ => .inr (.inl held)) (.inr ⟨.inr (.inl held), by rintro ⟨⟩⟩)
    obtain ⟨rounds, sessions, transactions, reviews⟩ :=
      registerRecoveryOperator_kept (database.putRound key (row'.approved now)) key.operatorID
    have registered := next.trans
      (next.healthy.congr rounds sessions transactions fun _ _ => by rw [reviews])
      fun _ member => member
    have spelled' : (((database.putRound key (row'.approved now)).registerRecoveryOperator
        key.operatorID)).lockRound codec key = .ok (approvedRecord record now) := by
      rw [lockRound_congr (by rw [rounds]) sessions, lockRound_putRound holds.owned kept, spelled,
        same]
    obtain ⟨reviewed, read⟩ := registered.healthy.writeReview spelled' wrote
    exact ⟨registered.trans reviewed fun _ member => member, read⟩
  · simp only [approve, if_false, bind_ok, abortWhen_ok, exists_unit, pure_ok, Prod.mk.injEq]
      at ran ⊢
    obtain ⟨ended, ending, _, written, wrote, _, rfl⟩ := ran
    obtain ⟨follows, spelled⟩ := healthy.refuseHeld reading locked (.inl rfl) releases_clear
      (by rintro ⟨⟩) ending
    obtain ⟨reviewed, read⟩ := follows.healthy.writeReview spelled wrote
    exact ⟨follows.trans reviewed fun _ member => member, read⟩

theorem applyRiskDecisionLocked_leaves {holds : Database → Prop} {command : RiskDecisionCommand}
    {fingerprint : String} :
    Leaves holds (database.applyRiskDecisionLocked record command fingerprint now) := by
  unfold Database.applyRiskDecisionLocked
  split
  · refine Leaves.bind heldRow_leaves fun _ _ => ?_
    refine Leaves.bind (Leaves.ok _) fun _ _ => ?_
    refine Leaves.bind (Leaves.abortWhen _ _) fun _ _ => ?_
    exact Leaves.bind writeReview_leaves fun _ _ => Leaves.ok _
  · refine Leaves.bind refuseHeld_leaves fun _ _ => ?_
    refine Leaves.bind (Leaves.abortWhen _ _) fun _ _ => ?_
    exact Leaves.bind writeReview_leaves fun _ _ => Leaves.ok _

/-- What a decision wrote, if its transaction committed. -/
def writtenByDecision (settings : Settings) (database : Database) (command : RiskDecisionCommand)
    (now : Time) : List RoundRecord :=
  match database.lockHeldRound settings command.roundKey now,
      database.decideRisk settings command now with
  | .ok held, .ok _ =>
      if held.review.status = .pending then [decidedRecord held.record command.decision now] else []
  | .ok held, .error (.committed _ _) => [expiredRecord held.record held.review.expiryPolicy now]
  | _, _ => []

theorem decideRisk_ok {command : RiskDecisionCommand} {reply : RiskDecisionResult}
    (ran : database.decideRisk settings command now = .ok (reply, after)) :
    ∃ held, database.lockHeldRound settings command.roundKey now = .ok held ∧
      ((held.review.status ≠ .pending ∧ after = database) ∨
        (held.review.status = .pending ∧ ∃ fingerprint,
          database.applyRiskDecisionLocked held.record command fingerprint now =
            .ok (reply, after))) := by
  simp only [Database.decideRisk, bind_ok, abortWhen_ok, check_ok, exists_unit] at ran
  obtain ⟨_, fingerprint, _, held, locked, rest⟩ := ran
  refine ⟨held, locked, ?_⟩
  split at rest
  · next decided =>
    split at rest
    · exact .inl ⟨decided, (Prod.mk.inj (pure_ok.mp rest)).2.symm⟩
    · cases rest
  · next pending =>
    simp only [bind_ok, abortWhen_ok, exists_unit] at rest
    obtain ⟨_, rest⟩ := rest
    split at rest
    · rw [bind_ok] at rest
      obtain ⟨_, _, ended⟩ := rest
      cases ended
    · exact .inr ⟨not_not.mp pending, fingerprint, rest⟩

/-- A decision that comes too late lets the review expire, and fails. -/
theorem decideRisk_committed {command : RiskDecisionCommand} {error : RgsError}
    (ran : database.decideRisk settings command now = .error (.committed error after)) :
    ∃ held, database.lockHeldRound settings command.roundKey now = .ok held ∧
      database.expireRiskLocked held now = .ok after := by
  have never {α : Type} {program : Except (Abort Database RgsError) α}
      (leaves : Leaves (fun _ => False) program) :
      program ≠ .error (.committed error after) := fun stopped => leaves error after stopped
  simp only [Database.decideRisk, bind_committed, abortWhen_committed, check_committed, abortWhen_ok,
    check_ok, exists_unit, false_or] at ran
  obtain ⟨_, fingerprint, _, held, locked, rest⟩ := ran
  refine ⟨held, locked, ?_⟩
  split at rest
  · split at rest
    · cases rest
    · cases rest
  · simp only [bind_committed, abortWhen_committed, exists_unit, false_or] at rest
    obtain ⟨_, rest⟩ := rest
    split at rest
    · rcases bind_committed.mp rest with stopped | ⟨expired, done, ended⟩
      · exact absurd stopped (never expireRiskLocked_leaves)
      · cases ended
        exact done
    · exact absurd rest (never applyRiskDecisionLocked_leaves)

theorem Database.Healthy.decideRisk (healthy : database.Healthy settings.codec)
    (reading : Reading now) {command : RiskDecisionCommand}
    {reply : Except RgsError RiskDecisionResult}
    (ran : settle database (database.decideRisk settings command now) = (reply, after)) :
    database.Stored settings.codec (writtenByDecision settings database command now) after := by
  unfold writtenByDecision
  rcases settle_cases ran with ⟨result, done, _⟩ | ⟨error, failed, _, rfl⟩ | ⟨error, left, _⟩
  · obtain ⟨held, locked, ⟨decided, rfl⟩ | ⟨pending, fingerprint, applied⟩⟩ := decideRisk_ok done
    · rw [locked, done]
      dsimp only
      rw [if_neg decided]
      exact healthy.unchanged
    · rw [locked, done]
      dsimp only
      rw [if_pos pending]
      obtain ⟨follows, spelled⟩ := healthy.applyRiskDecisionLocked reading
        (lockHeldRound_ok.mp locked).2.1 applied
      exact follows.stored spelled
  · rw [failed]
    split
    · next done => cases done
    · next done => cases done
    · exact healthy.unchanged
  · obtain ⟨held, locked, expired⟩ := decideRisk_committed left
    rw [locked, left]
    obtain ⟨follows, spelled⟩ := healthy.expireRiskLocked reading (lockHeldRound_ok.mp locked).2.1
      expired
    exact follows.stored spelled

/-! ## The expiry pass -/

theorem expireRiskReview_ok {expired : Bool} :
    database.expireRiskReview settings key now = .ok (expired, after) ↔
      ∃ held, database.lockHeldRound settings key now = .ok held ∧
        if held.review.status ≠ .pending ∨ now < held.review.expiresAt then
          expired = false ∧ after = database
        else held.record.status = .riskPending ∧ held.session.pendingRoundID = key.roundID ∧
          expired = true ∧ database.expireRiskLocked held now = .ok after := by
  simp only [Database.expireRiskReview, bind_ok, check_ok]
  refine exists_congr fun held => and_congr_right fun _ => ?_
  split
  · simp only [pure_ok, Prod.mk.injEq]
    constructor <;> rintro ⟨rfl, rfl⟩ <;> exact ⟨rfl, rfl⟩
  · simp only [bind_ok, abortWhen_ok, exists_unit, pure_ok, Prod.mk.injEq, not_or, not_not]
    constructor
    · rintro ⟨⟨waits, pending⟩, _, done, rfl, rfl⟩
      exact ⟨waits, pending, rfl, done⟩
    · rintro ⟨waits, pending, rfl, done⟩
      exact ⟨⟨waits, pending⟩, after, done, rfl, rfl⟩

theorem expireRiskReview_leaves {holds : Database → Prop} :
    Leaves holds (database.expireRiskReview settings key now) := by
  unfold Database.expireRiskReview
  refine Leaves.bind (Leaves.check _) fun _ _ => ?_
  split
  · exact Leaves.ok _
  · refine Leaves.bind (Leaves.abortWhen _ _) fun _ _ => ?_
    exact Leaves.bind expireRiskLocked_leaves fun _ _ => Leaves.ok _

/-- What the expiry of one review wrote. -/
def writtenByExpiry (settings : Settings) (database : Database) (key : RoundKey) (now : Time) :
    List RoundRecord :=
  match database.lockHeldRound settings key now, database.expireRiskReview settings key now with
  | .ok held, .ok (true, _) => [expiredRecord held.record held.review.expiryPolicy now]
  | _, _ => []

theorem Database.Healthy.expireRiskReview (healthy : database.Healthy settings.codec)
    (reading : Reading now) {reply : Except RgsError Bool}
    (ran : settle database (database.expireRiskReview settings key now) = (reply, after)) :
    database.Stored settings.codec (writtenByExpiry settings database key now) after := by
  unfold writtenByExpiry
  rcases settle_cases ran with ⟨expired, done, _⟩ | ⟨error, failed, _, rfl⟩ | ⟨error, left, _⟩
  · obtain ⟨held, locked, ended⟩ := expireRiskReview_ok.mp done
    rw [locked, done]
    split at ended
    · obtain ⟨rfl, rfl⟩ := ended
      exact healthy.unchanged
    · obtain ⟨_, _, rfl, ending⟩ := ended
      obtain ⟨follows, spelled⟩ := healthy.expireRiskLocked reading
        (lockHeldRound_ok.mp locked).2.1 ending
      exact follows.stored spelled
  · rw [failed]
    split
    · next done => cases done
    · exact healthy.unchanged
  · have never : Leaves (fun _ => False) (database.expireRiskReview settings key now) :=
      expireRiskReview_leaves
    exact absurd left (never error after)

end SlotsGame.Postgres
