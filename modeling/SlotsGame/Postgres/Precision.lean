/-
# SlotsGame.Postgres.Precision -- instants that serve as tokens

A column keeps whole microseconds, and the clock of the database reads them; a
duration of the settings or of a caller may be finer.  The deadline of a claim is
its token, and the deadline of a review is part of its digest, so both survive
their column exactly when the duration added to the clock is whole
(`tokens_survive_iff`).
-/
import SlotsGame.Rgs.Contract
import SlotsGame.Postgres.Isolation

namespace SlotsGame.Postgres

open SlotsGame.Game SlotsGame.Rgs SlotsGame.Theory

set_option autoImplicit false

variable {ω : Type} {codec : Codec} {settings : Settings} {database after : Database}
  {key : RoundKey} {now : Time}

/-! ## Whole durations -/

/-- A duration of whole microseconds. -/
def WholeMicros (duration : Duration) : Prop := duration % Duration.microsecond = 0

instance (duration : Duration) : Decidable (WholeMicros duration) :=
  inferInstanceAs (Decidable (_ = _))

theorem stored_eq_iff {instant : Time} :
    stored instant = instant ↔ WholeMicros instant := by
  have counts (nanos : Int) : nanos / 1000 * 1000 = nanos ↔ nanos % 1000 = 0 := by omega
  exact counts instant

/-- A deadline is kept as it is exactly when it is whole microseconds away. -/
theorem stored_deadline_iff (reading : Reading now) (duration : Duration) :
    stored (now + duration) = now + duration ↔ WholeMicros duration := by
  have whole := stored_eq_iff.mp reading.2
  have counts (left right : Int) (even : left % 1000 = 0) :
      (left + right) % 1000 = 0 ↔ right % 1000 = 0 := by omega
  exact stored_eq_iff.trans (counts now duration whole)

/-! ## The lease of a claim -/

/-- A claim that was granted at `now`. -/
structure GrantedAt (now : Time) (lease : Duration) (claim : WalletRecoveryClaim) : Prop where
  deadline : claim.leaseUntil = now + lease
  recorded : claim.record.walletLeaseUntil = claim.leaseUntil
  pending : claim.record.status = .walletPending

theorem grantedClaim_at (record : RoundRecord) (now : Time) (lease : Duration) :
    GrantedAt now lease (grantedClaim record now lease) := by
  obtain ⟨_, _, _, _, _, _, status, leased, _⟩ := claimedRecord_kept record now (now + lease)
  exact ⟨leased, rfl, status⟩

theorem claimWallet_granted {lease : Duration} {podNow : Time} {claim : WalletRecoveryClaim}
    (ran : database.claimWallet codec key lease now podNow = .ok ((claim, true), after)) :
    validateLease lease = .ok () ∧ GrantedAt now lease claim := by
  obtain ⟨valid, session, record, _, _, _, claimed⟩ := claimWallet_ok.mp ran
  rcases claimWalletLocked_ok.mp claimed with ⟨_, _, denied, _⟩ | ⟨_, _, _, _, rfl, _⟩
  · cases denied
  · exact ⟨valid, grantedClaim_at record now lease⟩

theorem claimRecoverable_granted {limit : Int} {lease : Duration} {keys : List RoundKey}
    {podNow : Time} {claims : List WalletRecoveryClaim}
    (ran : database.claimRecoverableRounds codec limit lease keys now podNow = .ok (claims, after)) :
    validateRecoveryBatch limit lease = .ok () ∧ ∀ claim ∈ claims, GrantedAt now lease claim := by
  simp only [Database.claimRecoverableRounds, bind_ok, check_ok, exists_unit, pure_ok,
    Prod.exists, Prod.mk.injEq] at ran
  obtain ⟨valid, candidates, _, claims, claimed, folded, rfl, _⟩ := ran
  refine ⟨valid, ?_⟩
  refine foldlM_ok_invariant (fun _ state => ∀ claim ∈ state.1, GrantedAt now lease claim) folded
    (by simp) ?_
  intro _ candidate state next _ granted stepped
  simp only [claimCandidate, bind_ok, pure_ok, Prod.exists] at stepped
  obtain ⟨claim, fresh, after, ran, rfl⟩ := stepped
  rcases claimWalletLocked_ok.mp ran with ⟨_, _, rfl, _⟩ | ⟨_, _, _, rfl, rfl, _⟩
  · exact granted
  · intro other member
    rcases List.mem_append.mp member with member | member
    · exact granted other member
    · rw [List.mem_singleton.mp member]
      exact grantedClaim_at _ _ _

def staleWalletClaim : RgsError := { kind := .staleWalletClaim }

/-- The lease of a claim is read back as the worker holds it. -/
theorem owns_of_row (healthy : database.Healthy codec) {row : RoundRow}
    {claim : WalletRecoveryClaim} (found : database.rounds.lookup claim.record.key = some row)
    (pending : row.status = .walletPending) (leased : row.walletLeaseUntil = some claim.leaseUntil)
    (dated : claim.leaseUntil ≠ 0) :
    ∃ session record, database.lockSession claim.record.key.session = .ok session ∧
      database.lockRound codec claim.record.key = .ok record ∧ OwnsWalletClaim record claim := by
  obtain ⟨owner, entry, profile, feature, result, holds⟩ := healthy.rounds _ row found
  obtain ⟨session, read⟩ := holds.lockSession
  refine ⟨session, _, read, holds.lockRound, .inr pending, dated, ?_⟩
  show row.walletLeaseUntil.getD 0 = claim.leaseUntil
  rw [leased]
  rfl

/-- A completion under the lease of its round is not refused as stale. -/
theorem commitClaim_spares (healthy : database.Healthy codec) {row : RoundRow}
    {claim : WalletRecoveryClaim} (found : database.rounds.lookup claim.record.key = some row)
    (pending : row.status = .walletPending) (leased : row.walletLeaseUntil = some claim.leaseUntil)
    (dated : claim.leaseUntil ≠ 0) (whole : stored claim.leaseUntil = claim.leaseUntil)
    (receipt : WalletReceipt) (podNow : Time) :
    Spares staleWalletClaim (database.commitClaim codec claim receipt podNow) := by
  obtain ⟨session, record, read, locked, owns⟩ := owns_of_row healthy found pending leased dated
  have leasedTo : row.LeasedTo claim := ⟨.inr pending, by rw [leased, whole]⟩
  unfold Database.commitClaim
  refine Spares.bind (Spares.of_ok (lockSessionOrQuarantine_ok.mpr read)) fun _ _ => ?_
  refine Spares.bind (Spares.of_ok (check_ok.mpr locked)) fun record' same => ?_
  rw [check_ok, locked, Except.ok.injEq] at same
  subst same
  refine Spares.bind (Spares.abortWhen fun refused => absurd owns refused) fun _ _ => ?_
  refine Spares.bind (Spares.check ?receipt) fun _ _ => ?_
  case receipt =>
    unfold validateWalletReceipt refuse
    split <;> rintro ⟨⟩
  refine Spares.bind (Spares.abortWhen fun _ => by rintro ⟨⟩) fun _ _ => ?_
  refine Spares.bind (Spares.abortWhen fun _ => by rintro ⟨⟩) fun _ _ => ?_
  refine Spares.bind (Spares.check ?hash) fun hash _ => ?_
  case hash =>
    unfold committedResultHashFor outcomeHashFor
    split
    · rintro ⟨⟩
    · split <;> rintro ⟨⟩
  refine Spares.bind ?completion fun _ _ => ?_
  case completion =>
    unfold Database.lockCompletion
    refine Spares.bind (Spares.of_ok (require_ok.mpr found)) fun row' same => ?_
    rw [require_ok, found, Option.some.injEq] at same
    subst same
    refine Spares.bind (Spares.abortWhen fun refused => absurd leasedTo refused) fun _ _ => ?_
    refine Spares.bind (Spares.require fun _ => by rintro ⟨⟩) fun _ _ => ?_
    refine Spares.bind (Spares.abortWhen fun _ => by rintro ⟨⟩) fun _ _ => ?_
    refine Spares.bind (Spares.require fun _ => by rintro ⟨⟩) fun _ _ => ?_
    exact Spares.bind (Spares.abortWhen fun _ => by rintro ⟨⟩) fun _ _ => Spares.ok _
  exact Spares.bind (Spares.abortWhen fun _ => by rintro ⟨⟩) fun _ _ => Spares.ok _

/-- The worker's deadline is the one in the round's row, and completing the claim is not
refused for it, in every later database in which no transaction has written the round. -/
def LeaseHolds (settings : Settings) (granted : Database) (claim : WalletRecoveryClaim) : Prop :=
  ∀ later, Operated settings later →
    later.rounds.lookup claim.record.key = granted.rounds.lookup claim.record.key →
    (∃ row, later.rounds.lookup claim.record.key = some row ∧
      row.walletLeaseUntil = some claim.leaseUntil) ∧
    ∀ receipt podNow, Spares staleWalletClaim
      (later.commitClaim settings.codec claim receipt podNow)

theorem leaseHolds_iff (operated : Operated settings after) (reading : Reading now)
    {lease : Duration} (positive : 0 < lease) {claim : WalletRecoveryClaim}
    (granted : GrantedAt now lease claim)
    (read : after.lockRound settings.codec claim.record.key = .ok (persisted claim.record)) :
    LeaseHolds settings after claim ↔ WholeMicros lease := by
  obtain ⟨row, owner, entry, profile, feature, result, holds, same⟩ :=
    operated.healthy.lockRound_ok.mp read
  have pending : row.status = .walletPending := by
    have status := congrArg RoundRecord.status same
    exact status.symm.trans granted.pending
  have later : 0 < stored claim.leaseUntil := by
    rw [granted.deadline]
    exact stored_add reading (le_of_lt positive)
  have leased : row.walletLeaseUntil = some (stored claim.leaseUntil) := by
    have until_ : stored claim.leaseUntil = row.walletLeaseUntil.getD 0 := by
      have kept := congrArg RoundRecord.walletLeaseUntil same
      rw [← granted.recorded]
      exact kept
    cases there : row.walletLeaseUntil with
    | none =>
        rw [there] at until_
        exact absurd until_ (ne_of_gt later)
    | some lease' =>
        rw [there] at until_
        rw [until_]
        rfl
  rw [← stored_deadline_iff reading lease, ← granted.deadline]
  constructor
  · intro lasts
    obtain ⟨⟨row', found, held⟩, _⟩ := lasts after operated rfl
    rw [holds.found, Option.some.injEq] at found
    subst found
    rw [leased, Option.some.injEq] at held
    exact held
  · intro whole database operated' unwritten
    have found := unwritten.trans holds.found
    rw [whole] at leased
    have dated : claim.leaseUntil ≠ 0 := by
      rw [← whole]
      exact ne_of_gt later
    exact ⟨⟨row, found, leased⟩,
      commitClaim_spares operated'.healthy found pending leased dated whole⟩

/-! ## The digest of a review -/

/-- The summary that the digest of an assessment covers. -/
def summaryOf (result : SpinResult) (assessment : RiskAssessment) (outcomeHash : String) :
    RiskSummary :=
  { policyVersion := assessment.policyVersion, thresholdMinor := assessment.thresholdMinor
    payoutMinor := assessment.payoutMinor, currency := result.currency, outcomeHash := outcomeHash
    expiryPolicy := assessment.expiryPolicy, expiresAt := assessment.expiresAt }

/-- What a digest is computed for. -/
structure Assessable (result : SpinResult) (assessment : RiskAssessment) : Prop where
  version : Text.identifierPattern assessment.policyVersion = true
  threshold : 0 < assessment.thresholdMinor
  payout : assessment.payoutMinor = result.totalWinMinor
  reached : assessment.thresholdMinor ≤ assessment.payoutMinor
  expires : assessment.expiresAt ≠ 0
  policy : assessment.expiryPolicy.Valid

theorem riskAssessmentSummaryHash_ok {riskCodec : RiskCodec} {result : SpinResult}
    {assessment : RiskAssessment} {hash : String} :
    riskAssessmentSummaryHash codec riskCodec result assessment = .ok hash ↔
      Assessable result assessment ∧ ∃ outcomeHash,
        preparedOutcomeHashFor codec result = .ok outcomeHash ∧
        hash = codec.sha256 (riskCodec.marshalSummary (summaryOf result assessment outcomeHash)) := by
  simp only [riskAssessmentSummaryHash, bind_ok, refuse_ok, exists_unit, pure_ok, not_or, not_not,
    not_lt, not_le, Bool.not_eq_false]
  constructor
  · rintro ⟨⟨version, threshold, payout, reached, expires, policy⟩, outcomeHash, hashed, rfl⟩
    exact ⟨⟨version, threshold, payout, reached, expires, policy⟩, outcomeHash, hashed, rfl⟩
  · rintro ⟨fits, outcomeHash, hashed, rfl⟩
    exact ⟨⟨fits.version, fits.threshold, fits.payout, fits.reached, fits.expires, fits.policy⟩,
      outcomeHash, hashed, rfl⟩

/-- The assessment of a round that is held back. -/
theorem assess_held {riskCodec : RiskCodec} {policy : HighValueRiskPolicy} {result : SpinResult}
    {assessment : RiskAssessment}
    (assessed : policy.assess codec riskCodec result now = .ok (some assessment)) :
    policy.enabled = true ∧ policy.validate = .ok () ∧
      assessment.expiresAt = now + policy.reviewTTL ∧
      riskAssessmentSummaryHash codec riskCodec result assessment = .ok assessment.summaryHash := by
  simp only [HighValueRiskPolicy.assess, bind_ok, refuse_ok, exists_unit] at assessed
  obtain ⟨valid, _, rest⟩ := assessed
  split at rest
  · cases pure_ok.mp rest
  · next held =>
    simp only [not_or, Bool.not_eq_false] at held
    simp only [bind_ok, refuse_ok, exists_unit, pure_ok] at rest
    obtain ⟨_, hash, hashed, same⟩ := rest
    rw [Option.some.injEq] at same
    subst same
    exact ⟨held.1, valid, rfl, hashed⟩

/-- A policy in force waits at least a minute. -/
theorem validate_ttl {policy : HighValueRiskPolicy} (enabled : policy.enabled = true)
    (valid : policy.validate = .ok ()) : Duration.minute ≤ policy.reviewTTL := by
  simp only [HighValueRiskPolicy.validate, enabled, Bool.true_eq_false, if_false, refuse_ok, not_or,
    not_lt] at valid
  exact valid.2.2.1

/-- The assessment that a review spells. -/
def ReviewRow.assessment (review : ReviewRow) : RiskAssessment :=
  { policyVersion := review.policyVersion, thresholdMinor := review.thresholdMinor
    payoutMinor := review.payoutMinor, expiresAt := review.expiresAt
    expiryPolicy := review.expiryPolicy }

theorem validateRiskReviewBinding_ok {record : RoundRecord} {review : ReviewRow} :
    validateRiskReviewBinding settings record review = .ok () ↔
      riskAssessmentSummaryHash settings.codec settings.riskCodec record.result review.assessment =
        .ok review.summaryHash := by
  unfold validateRiskReviewBinding
  rw [refuse_ok, not_not]
  rfl

/-- A pending review that is read back whenever the clock is. -/
structure ReviewRow.Awaiting (review : ReviewRow) (result : SpinResult) : Prop where
  pending : review.status = .pending
  undecided : review.Undecided
  fits : Assessable result review.assessment
  digest : isLowerHexDigest review.summaryHash = true
  ordered : review.createdAt ≤ review.expiresAt

theorem ReviewRow.Awaiting.scanned {review : ReviewRow} {result : SpinResult}
    (awaiting : review.Awaiting result) (dated : now ≠ 0) :
    scanRiskReview review now = .ok review := by
  have version : review.policyVersion ≠ "" := identifier_ne awaiting.fits.version
  have consistent : review.Consistent := by
    unfold ReviewRow.Consistent
    rw [awaiting.pending]
    exact awaiting.undecided
  simp only [scanRiskReview, bind_ok, refuse_ok, exists_unit, pure_ok, not_or, not_not, not_lt,
    not_le, Bool.not_eq_false]
  exact ⟨⟨version, awaiting.fits.threshold, awaiting.fits.reached, awaiting.digest,
    awaiting.fits.policy, awaiting.fits.expires, dated⟩, consistent, trivial⟩

/-- The review of a round that is held back awaits its decision. -/
theorem preparedReview_awaiting {result : SpinResult} {assessment : RiskAssessment}
    (reading : Reading now)
    (assessed : settings.riskPolicy.assess settings.codec settings.riskCodec result now =
      .ok (some assessment)) :
    (preparedReview assessment now).Awaiting result := by
  obtain ⟨enabled, valid, expires, hashed⟩ := assess_held assessed
  obtain ⟨fits, outcomeHash, _, hash⟩ := riskAssessmentSummaryHash_ok.mp hashed
  have ttl : (0 : Int) ≤ settings.riskPolicy.reviewTTL :=
    le_trans (by decide) (validate_ttl enabled valid)
  refine
    { pending := rfl, undecided := ⟨rfl, rfl, rfl, rfl, rfl, rfl, rfl⟩
      fits := ⟨fits.version, fits.threshold, fits.payout, fits.reached, ?expires, fits.policy⟩
      digest := ?digest, ordered := ?ordered }
  case expires =>
    show stored assessment.expiresAt ≠ 0
    rw [expires]
    exact ne_of_gt (stored_add reading ttl)
  case digest =>
    show isLowerHexDigest assessment.summaryHash = true
    rw [hash]
    exact settings.codec.sha256_digest _
  case ordered =>
    show stored now ≤ stored assessment.expiresAt
    rw [expires]
    exact stored_mono (le_add_of_nonneg_right ttl)

/-- No summary has the digest of the same summary with its deadline cut to whole
microseconds, unless the deadline is whole. -/
def Separates (settings : Settings) : Prop :=
  ∀ summary : RiskSummary,
    settings.codec.sha256 (settings.riskCodec.marshalSummary
        { summary with expiresAt := stored summary.expiresAt }) =
      settings.codec.sha256 (settings.riskCodec.marshalSummary summary) →
    stored summary.expiresAt = summary.expiresAt

/-- The digest does not cover the transport deadline of the result. -/
theorem summaryHash_transport {result : SpinResult} (deadline : Time)
    (schema : result.resultSchemaVersion = resultSchemaPaidFactsV1)
    (assessment : RiskAssessment) :
    riskAssessmentSummaryHash settings.codec settings.riskCodec
        { result with idleDisconnectAt := deadline } assessment =
      riskAssessmentSummaryHash settings.codec settings.riskCodec result assessment := by
  unfold riskAssessmentSummaryHash
  rw [preparedOutcomeHashFor_transport result deadline schema]

/-- The digest of a review verifies after its columns have been read back, if its time
to live is whole. -/
theorem digest_verifies (reading : Reading now) {result : SpinResult} {assessment : RiskAssessment}
    (assessed : settings.riskPolicy.assess settings.codec settings.riskCodec result now =
      .ok (some assessment)) (whole : WholeMicros settings.riskPolicy.reviewTTL) :
    riskAssessmentSummaryHash settings.codec settings.riskCodec result
        (preparedReview assessment now).assessment =
      .ok (preparedReview assessment now).summaryHash := by
  obtain ⟨_, _, expires, hashed⟩ := assess_held assessed
  rw [← stored_deadline_iff reading settings.riskPolicy.reviewTTL, ← expires] at whole
  have same : (preparedReview assessment now).assessment = { assessment with summaryHash := "" } := by
    show ({ policyVersion := assessment.policyVersion
            thresholdMinor := assessment.thresholdMinor
            payoutMinor := assessment.payoutMinor, expiresAt := stored assessment.expiresAt
            expiryPolicy := assessment.expiryPolicy } : RiskAssessment) = _
    rw [whole]
  rw [same]
  exact hashed

/-- And only then. -/
theorem digest_verifies_iff (separates : Separates settings) (reading : Reading now)
    {result : SpinResult} {assessment : RiskAssessment}
    (assessed : settings.riskPolicy.assess settings.codec settings.riskCodec result now =
      .ok (some assessment)) :
    riskAssessmentSummaryHash settings.codec settings.riskCodec result
        (preparedReview assessment now).assessment =
      .ok (preparedReview assessment now).summaryHash ↔
        WholeMicros settings.riskPolicy.reviewTTL := by
  refine ⟨fun verifies => ?_, digest_verifies reading assessed⟩
  obtain ⟨_, _, expires, hashed⟩ := assess_held assessed
  rw [← stored_deadline_iff reading settings.riskPolicy.reviewTTL, ← expires]
  obtain ⟨_, outcomeHash, outcome, hash⟩ := riskAssessmentSummaryHash_ok.mp hashed
  obtain ⟨_, outcomeHash', outcome', hash'⟩ := riskAssessmentSummaryHash_ok.mp verifies
  rw [outcome, Except.ok.injEq] at outcome'
  subst outcome'
  -- the stored digest is the one of the finer deadline
  exact separates (summaryOf result assessment outcomeHash) (hash'.symm.trans hash)

/-! ## A round that is held back -/

/-- A transaction that answers has committed. -/
theorem transact_ok {α : Type} {program : Except (Abort Database RgsError) (α × Database)}
    {world world' : ω} {answer : α}
    (ran : database.transact world program = (.ok answer, after, world')) :
    program = .ok (answer, after) := by
  rcases settled : settle database program with ⟨reply, left⟩
  unfold Database.transact at ran
  rw [settled] at ran
  cases ran
  rcases settle_cases settled with ⟨answer', done, same⟩ | ⟨_, _, failed, _⟩ | ⟨_, _, failed⟩
  · rw [Except.ok.injEq] at same
    rw [same]
    exact done
  · cases failed
  · cases failed

theorem prepareRound_ok {request : SpinRequest} {fingerprint : String} {profile : Profile}
    {prepare : PrepareOutcome ω} {podNow : Time} {world world' : ω} {record : RoundRecord}
    (ran : database.prepareRound settings request fingerprint profile prepare now podNow world =
      (.ok (record, true), after, world')) :
    ∃ session result drawn,
      validatePrepareArguments settings.codec request fingerprint profile = .ok () ∧
      database.admitRound settings.codec request fingerprint now podNow = .ok (.fresh session) ∧
      prepare session world = (.ok result, drawn) ∧
      database.persistRound settings.codec settings.riskCodec settings.riskPolicy session request
        fingerprint profile result now = .ok ((record, true), after) := by
  unfold Database.prepareRound at ran
  split at ran
  · cases ran
  · next valid =>
    split at ran
    · cases ran
    · cases ran
    · cases ran
    · next session admitted =>
      rcases drawn : prepare session world with ⟨prepared, drawn'⟩
      rw [drawn] at ran
      dsimp only at ran
      split at ran
      · cases ran
      · next result =>
        refine ⟨session, result, drawn', valid, admitted, drawn, ?_⟩
        exact transact_ok ran

/-- What a round that is held back has in its tables. -/
structure HeldBack (settings : Settings) (now : Time) (record : RoundRecord) (after : Database)
    (result : SpinResult) (assessment : RiskAssessment) : Prop where
  schema : result.resultSchemaVersion = resultSchemaPaidFactsV1
  assessed : settings.riskPolicy.assess settings.codec settings.riskCodec result now =
    .ok (some assessment)
  reviewed : after.riskReviews.lookup record.key = some (preparedReview assessment now)
  recorded : record.result = result

theorem persistRound_held {session : Session} {request : SpinRequest} {fingerprint : String}
    {profile : Profile} {prepared : SpinResult} {record : RoundRecord}
    (ran : database.persistRound settings.codec settings.riskCodec settings.riskPolicy session
      request fingerprint profile prepared now = .ok ((record, true), after))
    (held : record.status = .riskPending) :
    ∃ result assessment, HeldBack settings now record after result assessment := by
  obtain ⟨_, valid, outcomeHash, assessment, _, assessed, rfl, wrote⟩ := persistRound_ok.mp ran
  simp only [validatePrepared, bind_ok, refuse_ok, exists_unit, not_or, not_not] at valid
  cases assessment with
  | none => cases held
  | some assessment =>
      obtain ⟨_, _, _, _, owner, _, _, _, rfl⟩ := writePrepared_ok.mp wrote
      exact ⟨{ prepared with idleDisconnectAt := session.renewedIdleDisconnectAt now }, assessment,
        valid.1.1, assessed, by simp [Database.bundle, Database.putReview], rfl⟩

/-- The review of a round that no transaction has written since is read back, and its
digest verifies. -/
def ReviewHolds (settings : Settings) (written : Database) (key : RoundKey) : Prop :=
  ∀ later, Operated settings later → later.rounds.lookup key = written.rounds.lookup key →
    later.riskReviews.lookup key = written.riskReviews.lookup key →
    ∀ now, now ≠ 0 → ∃ held, later.lockHeldRound settings key now = .ok held

theorem reviewHolds_iff (separates : Separates settings) (operated : Operated settings after)
    (reading : Reading now) {record : RoundRecord} {result : SpinResult}
    {assessment : RiskAssessment} (held : HeldBack settings now record after result assessment)
    (read : after.lockRound settings.codec record.key = .ok (persisted record)) :
    ReviewHolds settings after record.key ↔ WholeMicros settings.riskPolicy.reviewTTL := by
  rw [← digest_verifies_iff separates reading held.assessed]
  have spelled : (persisted record).result = { result with idleDisconnectAt := 0 } := by
    rw [← held.recorded]
    rfl
  constructor
  · intro lasts
    obtain ⟨found, locked⟩ := lasts after operated rfl rfl 1 (by decide)
    obtain ⟨_, record', review, bound⟩ := lockHeldRound_ok.mp locked
    rw [read, Except.ok.injEq] at record'
    unfold Database.lockReview at review
    rw [held.reviewed] at review
    simp only [scanRiskReview, bind_ok, refuse_ok, exists_unit, pure_ok] at review
    rw [validateRiskReviewBinding_ok, ← record', ← review.2.2, spelled,
      summaryHash_transport 0 held.schema] at bound
    exact bound
  · intro verifies database operated' round review now' dated
    obtain ⟨row, owner, entry, profile, feature, document, holds, same⟩ :=
      operated.healthy.lockRound_ok.mp read
    obtain ⟨owner', entry', profile', feature', document', holds'⟩ :=
      operated'.healthy.rounds record.key row (round.trans holds.found)
    have same_ : document = document' := by
      have first := holds.kept.document
      rw [holds'.kept.document, Document.value.injEq] at first
      exact first.symm
    obtain ⟨session, locked⟩ := holds'.lockSession
    refine ⟨⟨session, _, preparedReview assessment now⟩, lockHeldRound_ok.mpr
      ⟨locked, holds'.lockRound, ?review, ?bound⟩⟩
    case review =>
      unfold Database.lockReview
      rw [review, held.reviewed]
      exact (preparedReview_awaiting reading held.assessed).scanned dated
    case bound =>
      rw [validateRiskReviewBinding_ok]
      have document_ : document' = { result with idleDisconnectAt := 0 } := by
        rw [← spelled, ← same_]
        exact (congrArg RoundRecord.result same).symm
      show riskAssessmentSummaryHash settings.codec settings.riskCodec document' _ = _
      rw [document_, summaryHash_transport 0 held.schema]
      exact verifies

/-! ## Every call -/

/-- The round a call has prepared. -/
def preparedBy : (call : RepositoryCall ω) → Except RgsError call.Reply → List RoundRecord
  | .prepareRound _ _ _ _, .ok (record, true) => [record]
  | _, _ => []

/-- The lease that a call asks for. -/
def leaseOf : RepositoryCall ω → Option Duration
  | .claimWallet _ lease => some lease
  | .claimRecoverableRounds _ lease => some lease
  | _ => none

theorem validateLease_positive {lease : Duration} (valid : validateLease lease = .ok ()) :
    0 < lease := by
  unfold validateLease at valid
  rw [refuse_ok] at valid
  exact not_le.mp (not_or.mp valid).1

theorem validateRecoveryBatch_positive {limit : Int} {lease : Duration}
    (valid : validateRecoveryBatch limit lease = .ok ()) : 0 < lease := by
  unfold validateRecoveryBatch at valid
  simp only [refuse_ok, not_or, not_le] at valid
  exact valid.2.2.1

/-- What a call prepares, it prepares at the reading of its transaction. -/
theorem preparedBy_held {env : Env} {call : RepositoryCall ω} {world world' : ω}
    {reply : Except RgsError call.Reply}
    (ran : database.execute settings env call world = (reply, after, world'))
    {record : RoundRecord} (prepared : record ∈ preparedBy call reply)
    (held : record.status = .riskPending) :
    record ∈ writtenByCall settings env database call reply ∧
      ∃ result assessment, HeldBack settings (env.database 0) record after result assessment := by
  cases call with
  | prepareRound request fingerprint profile prepare =>
      rcases reply with error | ⟨record', _ | _⟩
      · cases prepared
      · cases prepared
      · cases List.mem_singleton.mp prepared
        obtain ⟨_, _, _, _, _, _, persisted_⟩ := prepareRound_ok ran
        exact ⟨prepared, persistRound_held persisted_ held⟩
  | _ => cases prepared

/-- What a call grants, it grants at one reading of its transaction. -/
theorem granted_at {env : Env} {call : RepositoryCall ω} {world world' : ω}
    {reply : Except RgsError call.Reply}
    (ran : database.execute settings env call world = (reply, after, world'))
    {claim : WalletRecoveryClaim} (granted : claim ∈ call.granted reply) {lease : Duration}
    (leased : leaseOf call = some lease) :
    claim.record ∈ writtenByCall settings env database call reply ∧ 0 < lease ∧
      ∃ index, GrantedAt (env.database index) lease claim := by
  cases call with
  | claimWallet key lease' =>
      cases leased
      rcases reply with error | ⟨claim', _ | _⟩
      · cases granted
      · cases granted
      · cases List.mem_singleton.mp granted
        obtain ⟨valid, at_⟩ := claimWallet_granted (transact_ok ran)
        have granted_written : claim.record ∈ writtenByCall settings env database
            (.claimWallet key lease : RepositoryCall ω) (.ok (claim, true)) := List.mem_singleton_self _
        exact ⟨granted_written, validateLease_positive valid, 0, at_⟩
  | claimRecoverableRounds limit lease' =>
      cases leased
      rcases reply with error | claims
      · cases granted
      · obtain ⟨valid, at_⟩ := claimRecoverable_granted (transact_ok ran)
        exact ⟨List.mem_map_of_mem granted, validateRecoveryBatch_positive valid, 1, at_ claim granted⟩
  | _ => cases leased

/-- **The digest of every review that a call writes verifies when it is read back
exactly when the review's time to live is whole microseconds, and the deadline of every
claim that it grants is the one in the round's row exactly when the lease is.** -/
theorem tokens_survive_iff (separates : Separates settings) (operated : Operated settings database)
    {env : Env} {call : RepositoryCall ω} (coordinated : Coordinated settings env database call)
    {world world' : ω} {reply : Except RgsError call.Reply}
    (ran : database.execute settings env call world = (reply, after, world')) :
    (∀ record ∈ preparedBy call reply, record.status = .riskPending →
      (ReviewHolds settings after record.key ↔ WholeMicros settings.riskPolicy.reviewTTL)) ∧
      ∀ claim ∈ call.granted reply, ∀ lease, leaseOf call = some lease →
        (LeaseHolds settings after claim ↔ WholeMicros lease) := by
  have stored := operated.healthy.execute coordinated ran
  have reached : Operated settings after :=
    operated.next (.served (.call env call world world' coordinated ran))
  constructor
  · intro record prepared held
    obtain ⟨written, result, assessment, kept⟩ := preparedBy_held ran prepared held
    exact reviewHolds_iff separates reached (env.reading 0) kept (stored.written record written)
  · intro claim granted lease leased
    obtain ⟨written, positive, index, at_⟩ := granted_at ran granted leased
    exact leaseHolds_iff reached (env.reading index) positive at_
      (stored.written claim.record written)

/-! ## Two deadlines of a second and a nanosecond -/

/-- Holds every win back; the digest of a summary says whether its deadline is whole. -/
def watchfulSettings (reviewTTL : Duration) : Settings :=
  { codec := parityCodec
    riskCodec :=
      { marshalSummary := fun summary =>
          [if stored summary.expiresAt = summary.expiresAt then 0 else 1]
        marshalDecision := fun _ => [] }
    riskPolicy :=
      { enabled := true, thresholdMinor := 1, policyVersion := "policy-1", reviewTTL := reviewTTL
        expiryPolicy := .reject } }

theorem watchfulSettings_separates (reviewTTL : Duration) :
    Separates (watchfulSettings reviewTTL) := by
  intro summary same
  by_contra fine
  simp only [watchfulSettings, stored_stored, if_pos, if_neg fine] at same
  exact absurd same (by decide +kernel)

def watchfulCall : RepositoryCall (List Nat) :=
  .prepareRound demoRequest (fingerprintFor parityCodec demoRequest) demoProfile
    (prepareIntent parityCodec (fun _ _ _ => .ok (some demoSpinner))
      { admitNewIntent := none, admitNewEconomicIntent := none } demoRequest)

def watchfulCreated (reviewTTL : Duration) : Database :=
  (Database.empty.execute (watchfulSettings reviewTTL) demoEnv (.createSession demoSession)
    ([] : List Nat)).2.1

/-- The draws of a spin that wins. -/
def winningDraws : List Nat := List.replicate 12 0

def watchfulPrepared (reviewTTL : Duration) :
    Except RgsError (RoundRecord × Bool) × Database × List Nat :=
  (watchfulCreated reviewTTL).execute (watchfulSettings reviewTTL) demoEnv watchfulCall winningDraws

theorem watchfulCreated_operated (reviewTTL : Duration) :
    Operated (watchfulSettings reviewTTL) (watchfulCreated reviewTTL) :=
  Reachable.next (Reachable.start rfl)
    (.served (.call demoEnv (.createSession demoSession) ([] : List Nat) [] trivial rfl))

theorem watchfulPrepared_ran (reviewTTL : Duration) :
    (watchfulCreated reviewTTL).execute (watchfulSettings reviewTTL) demoEnv watchfulCall
        winningDraws =
      ((watchfulPrepared reviewTTL).1, (watchfulPrepared reviewTTL).2.1,
        (watchfulPrepared reviewTTL).2.2) := by
  have paired {α β γ : Type} (reply : α × β × γ) : reply = (reply.1, reply.2.1, reply.2.2) := rfl
  exact paired (watchfulPrepared reviewTTL)

theorem watchfulCall_coordinated (reviewTTL : Duration) :
    Coordinated (watchfulSettings reviewTTL) demoEnv (watchfulCreated reviewTTL) watchfulCall :=
  prepareIntent_built parityCodec _ _ demoRequest

theorem watchfulPrepared_operated (reviewTTL : Duration) :
    Operated (watchfulSettings reviewTTL) (watchfulPrepared reviewTTL).2.1 := by
  have step := ServerStep.call demoEnv watchfulCall winningDraws (watchfulPrepared reviewTTL).2.2
    (watchfulCall_coordinated reviewTTL) (watchfulPrepared_ran reviewTTL)
  exact (watchfulCreated_operated reviewTTL).next (.served step)

/-- Grants the demonstration round for a second and a nanosecond. -/
def fineClaimed : Except RgsError (WalletRecoveryClaim × Bool) × Database × List Nat :=
  demoPrepared.2.1.execute demoSettings demoEnv
    (.claimWallet demoRequest.key (Duration.second + 1)) []

/-- What its worker is answered when the wallet has moved the money. -/
def fineCompletion : Option RgsError :=
  match fineClaimed with
  | (.ok (claim, true), granted, _) =>
      let command := claim.record.walletCommand
      let receipt : WalletReceipt :=
        { operationID := command.operationID, fingerprint := command.fingerprint
          transactionID := "wallet-transaction-1", operatorID := command.operatorID
          currency := command.currency, debitMinor := command.debitMinor
          creditMinor := command.creditMinor, balanceMinor := 990 }
      match (granted.execute demoSettings demoEnv (.commitClaim claim receipt) ([] : List Nat)).1 with
      | .error error => some error
      | .ok _ => none
  | _ => none

/-- The desk reads a review of a minute and a nanosecond as corrupt, and a worker that
was granted a second and a nanosecond is refused. -/
theorem fine_deadlines_refused :
    (Operated (watchfulSettings (Duration.minute + 1))
        (watchfulPrepared (Duration.minute + 1)).2.1 ∧
      (match (watchfulPrepared (Duration.minute + 1)).1 with
        | .ok (record, _) => some record.status
        | .error _ => none) = some .riskPending ∧
      (match (settle (watchfulPrepared (Duration.minute + 1)).2.1
          ((watchfulPrepared (Duration.minute + 1)).2.1.expireRiskReview
            (watchfulSettings (Duration.minute + 1)) demoRequest.key (2 * Duration.minute))).1 with
        | .error error => some error
        | .ok _ => none) = some corruptRound) ∧
      Operated demoSettings demoPrepared.2.1 ∧ fineCompletion = some staleWalletClaim :=
  ⟨⟨watchfulPrepared_operated _, by decide +kernel⟩, demoPrepared_operated, by decide +kernel⟩

/-- The round is held back for an hour, in the reply and in its row. -/
theorem watchfulPrepared_held :
    (preparedBy watchfulCall (watchfulPrepared Duration.hour).1).map (fun record => record.status) =
        [.riskPending] ∧
      ((watchfulPrepared Duration.hour).2.1.rounds.lookup demoRequest.key).map
        (fun row => row.status) = some .riskPending := by
  decide +kernel

/-- A round is held back for an hour, and its review verifies. -/
theorem whole_review_holds :
    ∃ record ∈ preparedBy watchfulCall (watchfulPrepared Duration.hour).1,
      ReviewHolds (watchfulSettings Duration.hour) (watchfulPrepared Duration.hour).2.1
        record.key := by
  obtain ⟨record, prepared, held⟩ := List.mem_map.mp (by
    rw [watchfulPrepared_held.1]
    exact List.mem_singleton_self RoundStatus.riskPending)
  exact ⟨record, prepared, ((tokens_survive_iff (watchfulSettings_separates Duration.hour)
    (watchfulCreated_operated Duration.hour) (watchfulCall_coordinated Duration.hour)
    (watchfulPrepared_ran Duration.hour)).1 record prepared held).mpr (by decide)⟩

end SlotsGame.Postgres
