/-
# SlotsGame.Postgres.Reviews -- a review and its round

A round and its review are two rows, and no constraint ties them.  A transaction
of a server keeps them in step: a round is held back with the review that is
written beside it, and every decision and every expiry ends both.  What neither
writes is left alone (`Undecided`).

`quarantineCorruptRound` ends the round and leaves its review; so the two are in
step along every run that quarantines no round that is held back
(`reviews_in_step`), and there every pending review expires when it is due.
-/
import SlotsGame.Postgres.Precision

namespace SlotsGame.Postgres

open SlotsGame.Game SlotsGame.Rgs SlotsGame.Theory

set_option autoImplicit false

variable {ω : Type} {codec : Codec} {settings : Settings} {before database after : Database}
  {key : RoundKey} {record : RoundRecord} {now : Time}

/-! ## The two rows -/

/-- The round is held back. -/
def Database.RoundHeld (database : Database) (key : RoundKey) : Prop :=
  ∃ row, database.rounds.lookup key = some row ∧ row.status = .riskPending

/-- The review awaits a decision. -/
def Database.ReviewPending (database : Database) (key : RoundKey) : Prop :=
  ∃ review, database.riskReviews.lookup key = some review ∧ review.status = .pending

/-- A review that spells the assessment of its round. -/
structure ReviewRow.Covers (settings : Settings) (review : ReviewRow) (row : RoundRow) : Prop where
  held : row.status = .riskPending
  awaits : ∃ result, row.resultJSON = .value result ∧ review.Awaiting result ∧
    (WholeMicros settings.riskPolicy.reviewTTL →
      riskAssessmentSummaryHash settings.codec settings.riskCodec result review.assessment =
        .ok review.summaryHash)

/-- Rounds that are held back and pending reviews come together. -/
structure Database.InStep (settings : Settings) (database : Database) : Prop where
  held : ∀ key, database.RoundHeld key → database.ReviewPending key
  pending : ∀ key review, database.riskReviews.lookup key = some review →
    review.status = .pending → ∃ row, database.rounds.lookup key = some row ∧
      review.Covers settings row

theorem Database.InStep.empty (settings : Settings) : Database.empty.InStep settings where
  held _ := by
    rintro ⟨_, found, _⟩
    simp [Database.empty] at found
  pending _ _ found := by simp [Database.empty] at found

theorem Database.InStep.iff (inStep : database.InStep settings) (key : RoundKey) :
    database.ReviewPending key ↔ database.RoundHeld key := by
  refine ⟨?_, inStep.held key⟩
  rintro ⟨review, found, pending⟩
  obtain ⟨row, there, covers⟩ := inStep.pending key review found pending
  exact ⟨row, there, covers.held⟩

/-! ## What a transaction leaves alone -/

/-- A transaction that holds no round back and ends no wait of one. -/
structure Database.Passes (before after : Database) : Prop where
  rounds : ∀ key row, row.status = .riskPending →
    (after.rounds.lookup key = some row ↔ before.rounds.lookup key = some row)
  reviews : ∀ key, after.riskReviews.lookup key = before.riskReviews.lookup key

theorem Database.Passes.inStep (passes : before.Passes after) (inStep : before.InStep settings) :
    after.InStep settings where
  held key := by
    rintro ⟨row, found, held⟩
    obtain ⟨review, there, pending⟩ := inStep.held key ⟨row, (passes.rounds key row held).mp found, held⟩
    exact ⟨review, (passes.reviews key).trans there, pending⟩
  pending key review found pending := by
    rw [passes.reviews] at found
    obtain ⟨row, there, covers⟩ := inStep.pending key review found pending
    exact ⟨row, (passes.rounds key row covers.held).mpr there, covers⟩

/-- What a transaction did not write, it passes by. -/
theorem Database.Follows.passes {keys : List RoundKey} (follows : before.Follows codec keys after)
    (reviews : ∀ key ∈ keys, after.riskReviews.lookup key = before.riskReviews.lookup key)
    (rounds : ∀ key ∈ keys, ¬ before.RoundHeld key ∧ ¬ after.RoundHeld key) :
    before.Passes after where
  rounds key row held := by
    by_cases member : key ∈ keys
    · obtain ⟨first, last⟩ := rounds key member
      exact iff_of_false (fun found => last ⟨row, found, held⟩) fun found => first ⟨row, found, held⟩
    · exact follows.rows key row member (by rw [held]; rintro ⟨⟩)
  reviews key := by
    by_cases member : key ∈ keys
    · exact reviews key member
    · exact follows.reviews key member

/-- A transaction that writes one round and its review. -/
theorem Database.Follows.inStep (follows : before.Follows codec [key] after)
    (inStep : before.InStep settings) (held : after.RoundHeld key → after.ReviewPending key)
    (pending : ∀ review, after.riskReviews.lookup key = some review → review.status = .pending →
      ∃ row, after.rounds.lookup key = some row ∧ review.Covers settings row) :
    after.InStep settings where
  held other := by
    rintro ⟨row, found, held'⟩
    by_cases this : other = key
    · subst this
      exact held ⟨row, found, held'⟩
    · have apart := List.mem_singleton.not.mpr this
      obtain ⟨review, there, pending⟩ := inStep.held other
        ⟨row, (follows.rows other row apart (by rw [held']; rintro ⟨⟩)).mp found, held'⟩
      exact ⟨review, (follows.reviews other apart).trans there, pending⟩
  pending other review found waits := by
    by_cases this : other = key
    · subst this
      exact pending review found waits
    · have apart := List.mem_singleton.not.mpr this
      rw [follows.reviews other apart] at found
      obtain ⟨row, there, covers⟩ := inStep.pending other review found waits
      exact ⟨row, (follows.rows other row apart (by rw [covers.held]; rintro ⟨⟩)).mpr there, covers⟩

/-- The end of one wait: the round, and its review. -/
theorem Database.Follows.ends (follows : before.Follows codec [key] after)
    (ended : ¬ after.RoundHeld key) (decided : ¬ after.ReviewPending key)
    (inStep : before.InStep settings) : after.InStep settings :=
  follows.inStep inStep (fun held => absurd held ended)
    fun review found pending => absurd ⟨review, found, pending⟩ decided

theorem lockRound_status (locked : database.lockRound codec key = .ok record) :
    ∃ row, database.rounds.lookup key = some row ∧ row.status = record.status := by
  obtain ⟨row, owner, found, _, scanned⟩ := lockRound_ok.mp locked
  obtain ⟨profile, feature, result, _, rfl⟩ := scanRound_ok.mp scanned
  exact ⟨row, found, rfl⟩

theorem not_held (locked : database.lockRound codec key = .ok record)
    (ended : record.status ≠ .riskPending) : ¬ database.RoundHeld key := by
  obtain ⟨row, found, status⟩ := lockRound_status locked
  rintro ⟨row', found', held⟩
  rw [found, Option.some.injEq] at found'
  subst found'
  exact ended (status.symm.trans held)

/-- A claimable round is not held back. -/
theorem not_held_of_claimable (locked : database.lockRound codec key = .ok record)
    (claimable : record.status = .prepared ∨ record.status = .walletPending) :
    ¬ database.RoundHeld key := by
  refine not_held locked ?_
  rcases claimable with status | status <;> rw [status] <;> rintro ⟨⟩

/-- A transaction that writes only rounds that are not held back, before and after. -/
theorem Database.Stored.passes {written : List RoundRecord}
    (stored : database.Stored codec written after)
    (reviews : after.riskReviews = database.riskReviews)
    (first : ∀ record ∈ written, ¬ database.RoundHeld record.key)
    (last : ∀ record ∈ written, record.status ≠ .riskPending) : database.Passes after := by
  refine stored.follows.passes (fun _ _ => by rw [reviews]) fun key member => ?_
  obtain ⟨record, there, rfl⟩ := List.mem_map.mp member
  exact ⟨first record there, not_held (stored.written record there) (last record there)⟩

/-- A transaction that writes one round, which was claimable. -/
theorem Database.Stored.passes_claimable {old : RoundRecord}
    (stored : database.Stored codec [record] after)
    (reviews : after.riskReviews = database.riskReviews)
    (locked : database.lockRound codec record.key = .ok old)
    (claimable : old.status = .prepared ∨ old.status = .walletPending)
    (ended : record.status ≠ .riskPending) : database.Passes after := by
  refine stored.passes reviews ?_ ?_
  · intro other member
    rw [List.mem_singleton.mp member]
    exact not_held_of_claimable locked claimable
  · intro other member
    rw [List.mem_singleton.mp member]
    exact ended

/-! ## Claims -/

theorem exists_left_of_mem {α β : Type} {related : α → β → Prop} {left : List α} {right : List β}
    (each : List.Forall₂ related left right) {b : β} (member : b ∈ right) : ∃ a, related a b := by
  induction each with
  | nil => cases member
  | cons first _ ih =>
      rcases List.mem_cons.mp member with rfl | member
      · exact ⟨_, first⟩
      · exact ih member

theorem claimRecoverable_claimed {limit : Int} {lease : Duration} {keys : List RoundKey}
    {podNow : Time} {claims : List WalletRecoveryClaim}
    (ran : database.claimRecoverableRounds codec limit lease keys now podNow = .ok (claims, after)) :
    after.riskReviews = database.riskReviews ∧
      ∀ claim ∈ claims, ¬ database.RoundHeld claim.record.key := by
  simp only [Database.claimRecoverableRounds, bind_ok, check_ok, exists_unit, pure_ok,
    Prod.exists, Prod.mk.injEq] at ran
  obtain ⟨_, candidates, locked, claims, claimed, folded, rfl, rfl⟩ := ran
  have locked := mapM_ok.mp locked
  refine foldlM_ok_invariant (fun _ state => state.2.riskReviews = database.riskReviews ∧
    ∀ claim ∈ state.1, ¬ database.RoundHeld claim.record.key) folded ⟨rfl, by simp⟩ ?_
  rintro _ candidate state next member ⟨reviews, unheld⟩ stepped
  simp only [claimCandidate, bind_ok, pure_ok, Prod.exists] at stepped
  obtain ⟨claim, granted, after, ran, rfl⟩ := stepped
  rcases claimWalletLocked_ok.mp ran with ⟨_, _, rfl, rfl⟩ | ⟨due, _, _, rfl, rfl, _, _, rfl⟩
  · exact ⟨reviews, unheld⟩
  · refine ⟨reviews, fun other there => ?_⟩
    rcases List.mem_append.mp there with there | there
    · exact unheld other there
    · rw [List.mem_singleton.mp there]
      obtain ⟨key, got⟩ := exists_left_of_mem locked member
      have read := (lockCandidate_ok.mp got).2.1
      have keyed : (grantedClaim candidate.2 now lease).record.key = key :=
        (claimedRecord_kept candidate.2 now (now + lease)).1.trans (lockRound_key read)
      rw [keyed]
      exact not_held_of_claimable read due.claimable

/-- A call that holds no round back leaves the ones that are held alone. -/
theorem Database.Healthy.execute_passes (healthy : database.Healthy settings.codec) {env : Env}
    {call : RepositoryCall ω} (coordinated : Coordinated settings env database call)
    {world world' : ω} {reply : Except RgsError call.Reply}
    (ran : database.execute settings env call world = (reply, after, world'))
    (free : ∀ record ∈ preparedBy call reply, record.status ≠ .riskPending) :
    database.Passes after := by
  have stored := healthy.execute coordinated ran
  have silent (nothing : writtenByCall settings env database call reply = []) :
      database.Passes after := by
    rw [nothing] at stored
    exact stored.follows.passes (by simp) (by simp)
  cases call with
  | prepareRound request fingerprint profile prepare =>
      rcases reply with error | ⟨record, _ | _⟩
      · exact silent rfl
      · exact silent rfl
      · obtain ⟨_, _, _, _, _, _, persisted_⟩ := prepareRound_ok ran
        obtain ⟨_, _, _, assessment, _, _, same, wrote⟩ := persistRound_ok.mp persisted_
        have unheld := free record (List.mem_singleton_self _)
        obtain ⟨_, fresh, _, _, owner, _, _, _, rfl⟩ := writePrepared_ok.mp wrote
        cases assessment with
        | some assessment =>
            rw [same] at unheld
            exact absurd rfl unheld
        | none =>
            refine stored.passes ?_ ?_ ?_
            · exact (registerRecoveryOperator_kept _ _).2.2.2
            · intro other member
              rw [List.mem_singleton.mp member]
              rintro ⟨row, found, _⟩
              rw [fresh] at found
              cases found
            · intro other member
              rw [List.mem_singleton.mp member]
              exact unheld
  | claimWallet key lease =>
      rcases reply with error | ⟨claim, _ | _⟩
      · exact silent rfl
      · exact silent rfl
      · have done := transact_ok ran
        obtain ⟨_, session, record, _, locked, _, claimed⟩ := claimWallet_ok.mp done
        rcases claimWalletLocked_ok.mp claimed with ⟨_, _, denied, _⟩ |
          ⟨due, _, _, _, rfl, _, _, rfl⟩
        · cases denied
        · have keyed : (grantedClaim record (env.database 0) lease).record.key = key :=
            (claimedRecord_kept _ _ _).1.trans (lockRound_key locked)
          refine stored.passes_claimable rfl (by rw [keyed]; exact locked) due.claimable ?_
          rw [(grantedClaim_at _ _ _).pending]
          rintro ⟨⟩
  | commitClaim claim receipt =>
      rcases reply with error | ⟨record, _ | _⟩
      · exact silent rfl
      · exact silent rfl
      · have done := transact_ok ran
        obtain ⟨_, before, _, _, _, locked, owns, _, _, _, _, rfl, _, _, _, _, rfl⟩ :=
          commitClaim_ok.mp done
        have keyed : before.key = claim.record.key := lockRound_key locked
        exact stored.passes_claimable rfl (by rw [← keyed] at locked; exact locked) owns.1
          (by rintro ⟨⟩)
  | rejectClaim claim reason =>
      rcases reply with error | ⟨record, _ | _⟩
      · exact silent rfl
      · exact silent rfl
      · have done := transact_ok ran
        obtain ⟨_, before, _, _, locked, owns, _, _, _, rfl, _, _, rfl⟩ :=
          (healthy.transitionClaimFailure_ok (.inl rfl)).mp done
        have keyed : before.key = claim.record.key := lockRound_key locked
        exact stored.passes_claimable rfl (by rw [← keyed] at locked; exact locked) owns.1
          (by rintro ⟨⟩)
  | markClaimManualReview claim reason =>
      rcases reply with error | ⟨record, _ | _⟩
      · exact silent rfl
      · exact silent rfl
      · have done := transact_ok ran
        obtain ⟨_, before, _, _, locked, owns, _, _, _, rfl, _, _, rfl⟩ :=
          (healthy.transitionClaimFailure_ok (.inr rfl)).mp done
        have keyed : before.key = claim.record.key := lockRound_key locked
        exact stored.passes_claimable rfl (by rw [← keyed] at locked; exact locked) owns.1
          (by rintro ⟨⟩)
  | claimRecoverableRounds limit lease =>
      rcases reply with error | claims
      · exact silent rfl
      · obtain ⟨reviews, unheld⟩ := claimRecoverable_claimed (transact_ok ran)
        obtain ⟨_, granted⟩ := claimRecoverable_granted (transact_ok ran)
        refine stored.passes reviews ?_ ?_
        · intro other member
          obtain ⟨claim, there, rfl⟩ := List.mem_map.mp member
          exact unheld claim there
        · intro other member
          obtain ⟨claim, there, rfl⟩ := List.mem_map.mp member
          rw [(granted claim there).pending]
          rintro ⟨⟩
  | scheduleWalletRecovery claim disposition jitterDelay =>
      rcases reply with error | _ | _
      · exact silent rfl
      · exact silent rfl
      · obtain ⟨_, ⟨_, row, found, ⟨leased, _⟩, rfl⟩ | ⟨denied, _⟩⟩ :=
          scheduleWalletRecovery_ok.mp (transact_ok ran)
        · obtain ⟨_, _, _, _, _, holds⟩ := healthy.rounds _ row found
          obtain ⟨old, locked, status⟩ : ∃ old, database.lockRound settings.codec claim.record.key =
              .ok old ∧ old.status = row.status := ⟨_, holds.lockRound, rfl⟩
          have written : writtenByCall settings env database
              (.scheduleWalletRecovery claim disposition jitterDelay : RepositoryCall ω) (.ok true) =
                [rescheduledRecord old disposition jitterDelay (env.database 0) (env.database 1)] := by
            simp only [writtenByCall, locked]
          rw [written] at stored
          have claimable := leased.1
          rw [← status] at claimable
          have keyed : old.key = claim.record.key := lockRound_key locked
          refine stored.passes_claimable rfl (by rw [← keyed] at locked; exact locked) claimable ?_
          show old.status ≠ .riskPending
          rcases claimable with status | status <;> rw [status] <;> rintro ⟨⟩
        · cases denied
  | _ => exact silent rfl

/-! ## Holding a round back -/

theorem ReviewRow.Awaiting.transport {review : ReviewRow} {result : SpinResult}
    (awaiting : review.Awaiting result) (deadline : Time) :
    review.Awaiting { result with idleDisconnectAt := deadline } :=
  { awaiting with fits := { awaiting.fits with } }

/-- A round is held back with the review that covers it. -/
theorem Database.Healthy.prepared_inStep (healthy : database.Healthy settings.codec)
    (inStep : database.InStep settings) {env : Env} {call : RepositoryCall ω}
    (coordinated : Coordinated settings env database call) {world world' : ω}
    {reply : Except RgsError call.Reply}
    (ran : database.execute settings env call world = (reply, after, world'))
    (prepared : record ∈ preparedBy call reply) (held : record.status = .riskPending) :
    after.InStep settings := by
  obtain ⟨written, result, assessment, back⟩ := preparedBy_held ran prepared held
  have stored := healthy.execute coordinated ran
  have follows : database.Follows settings.codec [record.key] after := by
    cases call with
    | prepareRound request fingerprint profile prepare =>
        rcases reply with error | ⟨record', _ | _⟩
        · cases prepared
        · cases prepared
        · rw [List.mem_singleton.mp prepared]
          exact stored.follows
    | _ => cases prepared
  obtain ⟨row, owner, entry, profile, feature, document, holds, same⟩ :=
    follows.healthy.lockRound_ok.mp (stored.written record written)
  have status : row.status = .riskPending := (congrArg RoundRecord.status same).symm.trans held
  have document_ : document = { result with idleDisconnectAt := 0 } := by
    have spelled := congrArg RoundRecord.result same
    rw [← back.recorded]
    exact spelled.symm
  have reviewed := back.reviewed
  refine follows.inStep inStep (fun _ => ⟨_, reviewed, rfl⟩) fun review found _ => ?_
  rw [reviewed, Option.some.injEq] at found
  rw [← found]
  refine ⟨row, holds.found, status, document, holds.kept.document, ?_, fun whole => ?_⟩
  · rw [document_]
    exact (preparedReview_awaiting (env.reading 0) back.assessed).transport 0
  · rw [document_, summaryHash_transport 0 back.schema]
    exact digest_verifies (env.reading 0) back.assessed whole

theorem Database.Healthy.execute_inStep (healthy : database.Healthy settings.codec)
    (inStep : database.InStep settings) {env : Env} {call : RepositoryCall ω}
    (coordinated : Coordinated settings env database call) {world world' : ω}
    {reply : Except RgsError call.Reply}
    (ran : database.execute settings env call world = (reply, after, world')) :
    after.InStep settings := by
  by_cases free : ∀ record ∈ preparedBy call reply, record.status ≠ .riskPending
  · exact (healthy.execute_passes coordinated ran free).inStep inStep
  · simp only [not_forall, not_not] at free
    obtain ⟨record, prepared, held⟩ := free
    exact healthy.prepared_inStep inStep coordinated ran prepared held

/-! ## Ending a wait -/

theorem writeReview_decides {change : ReviewRow → ReviewRow}
    (ran : database.writeReview key now change = .ok after)
    (decides : ∀ review, (change review).status ≠ .pending) : ¬ after.ReviewPending key := by
  obtain ⟨review, _, _, _, rfl⟩ := writeReview_ok ran
  rintro ⟨review', found, pending⟩
  simp only [Database.putReview, Table.lookup_insert, if_pos, Option.some.injEq] at found
  rw [← found] at pending
  exact decides review pending

theorem expireRiskLocked_decides {held : HeldRound}
    (ran : database.expireRiskLocked held now = .ok after) :
    ¬ after.ReviewPending held.record.key := by
  unfold Database.expireRiskLocked at ran
  split at ran
  · obtain ⟨refused, _, written⟩ := bind_ok.mp ran
    exact writeReview_decides written fun _ => by rintro ⟨⟩
  · obtain ⟨refused, _, written⟩ := bind_ok.mp ran
    exact writeReview_decides written fun _ => by rintro ⟨⟩

theorem applyRiskDecisionLocked_decides {command : RiskDecisionCommand} {fingerprint : String}
    {reply : RiskDecisionResult}
    (ran : database.applyRiskDecisionLocked record command fingerprint now = .ok (reply, after)) :
    ¬ after.ReviewPending command.roundKey := by
  have decides (review : ReviewRow) :
      (review.decided command fingerprint now).status ≠ .pending := by
    simp only [ReviewRow.decided]
    split <;> rintro ⟨⟩
  unfold Database.applyRiskDecisionLocked at ran
  split at ran
  · simp only [bind_ok, abortWhen_ok, exists_unit, pure_ok, Prod.mk.injEq] at ran
    obtain ⟨_, _, _, _, _, written, wrote, _, rfl⟩ := ran
    exact writeReview_decides wrote decides
  · simp only [bind_ok, abortWhen_ok, exists_unit, pure_ok, Prod.mk.injEq] at ran
    obtain ⟨_, _, _, written, wrote, _, rfl⟩ := ran
    exact writeReview_decides wrote decides

theorem expiredRecord_ended (record : RoundRecord) (policy : RiskExpiryPolicy) (now : Time) :
    (expiredRecord record policy now).status ≠ .riskPending := by
  unfold expiredRecord
  split <;> rintro ⟨⟩

theorem decidedRecord_ended (record : RoundRecord) (decision : RiskDecision) (now : Time) :
    (decidedRecord record decision now).status ≠ .riskPending := by
  unfold decidedRecord
  split <;> rintro ⟨⟩

theorem Database.Healthy.expired_inStep (healthy : database.Healthy codec) (reading : Reading now)
    (inStep : database.InStep settings) {held : HeldRound}
    (locked : database.lockRound codec key = .ok held.record)
    (ran : database.expireRiskLocked held now = .ok after) : after.InStep settings := by
  obtain ⟨follows, spelled⟩ := healthy.expireRiskLocked reading locked ran
  have decided := expireRiskLocked_decides ran
  rw [lockRound_key locked] at decided
  exact follows.ends (not_held spelled (expiredRecord_ended _ _ _)) decided inStep

theorem Database.Healthy.decided_inStep (healthy : database.Healthy settings.codec)
    (reading : Reading now) (inStep : database.InStep settings) {command : RiskDecisionCommand}
    {reply : Except RgsError RiskDecisionResult}
    (ran : settle database (database.decideRisk settings command now) = (reply, after)) :
    after.InStep settings := by
  rcases settle_cases ran with ⟨result, done, _⟩ | ⟨error, failed, _, rfl⟩ | ⟨error, left, _⟩
  · obtain ⟨held, locked, ⟨_, rfl⟩ | ⟨_, fingerprint, applied⟩⟩ := decideRisk_ok done
    · exact inStep
    · obtain ⟨follows, spelled⟩ := healthy.applyRiskDecisionLocked reading
        (lockHeldRound_ok.mp locked).2.1 applied
      exact follows.ends (not_held spelled (decidedRecord_ended _ _ _))
        (applyRiskDecisionLocked_decides applied) inStep
  · exact inStep
  · obtain ⟨held, locked, expired⟩ := decideRisk_committed left
    exact healthy.expired_inStep reading inStep (lockHeldRound_ok.mp locked).2.1 expired

theorem Database.Healthy.passed_inStep (healthy : database.Healthy settings.codec)
    (reading : Reading now) (inStep : database.InStep settings) {reply : Except RgsError Bool}
    (ran : settle database (database.expireRiskReview settings key now) = (reply, after)) :
    after.InStep settings := by
  rcases settle_cases ran with ⟨expired, done, _⟩ | ⟨error, failed, _, rfl⟩ | ⟨error, left, _⟩
  · obtain ⟨held, locked, ended⟩ := expireRiskReview_ok.mp done
    split at ended
    · rw [ended.2]
      exact inStep
    · exact healthy.expired_inStep reading inStep (lockHeldRound_ok.mp locked).2.1 ended.2.2.2
  · exact inStep
  · have never : Leaves (fun _ => False) (database.expireRiskReview settings key now) :=
      expireRiskReview_leaves
    exact absurd left (never error after)

/-- A round that is not held back may be quarantined. -/
theorem Database.Healthy.reviewed_passes (healthy : database.Healthy codec)
    (free : ¬ database.RoundHeld key) (reason : Bytes) (now : Time) :
    database.Passes (database.reviewed key reason now) := by
  rcases healthy.reviewed_cases key reason now with same | ⟨_, same, _⟩ | ⟨row, found, _, _, same⟩
  · rw [same]
    exact ⟨fun _ _ _ => .rfl, fun _ => rfl⟩
  · rw [same]
    unfold Database.quarantineCorruptSession
    split
    · exact ⟨fun _ _ _ => .rfl, fun _ => rfl⟩
    · split
      · exact ⟨fun _ _ _ => .rfl, fun _ => rfl⟩
      · exact ⟨fun _ _ _ => .rfl, fun _ => rfl⟩
  · obtain ⟨owner, entry, profile, feature, result, holds⟩ := healthy.rounds key row found
    obtain ⟨reviews, writes⟩ := holds.isolated (quarantineReason reason) now
    rw [same]
    refine ⟨fun other third held => ?_, fun other => by rw [reviews]⟩
    rw [writes.rounds]
    split
    · next this =>
      subst this
      refine iff_of_false (fun there => ?_) fun there => free ⟨third, there, held⟩
      rw [Option.some.injEq] at there
      refine holds.kept.quarantined_ended (quarantineReason reason) now ?_
      rw [there]
      exact .inr (.inl held)
    · exact .rfl

/-! ## The expiry of a review -/

theorem Database.Holds.refuseHeld_runs {row : RoundRow} {owner : SessionRow} {entry : WalletRow}
    {profile : Profile} {feature : FeatureState} {result : SpinResult}
    (holds : database.Holds codec key row owner entry profile feature result)
    (held : row.status = .riskPending) (keyed : record.key = key)
    (operation : record.walletCommand.operationID = row.serverTransactionID) (status : RoundStatus)
    (failureCode : String) (release : SessionRow → SessionRow) (now : Time) :
    ∃ refused, database.refuseHeld record status failureCode release now = .ok refused ∧
      refused.riskReviews = database.riskReviews := by
  subst keyed
  have waiting : row.Waiting := .inr (.inl held)
  have booked : database.walletTransactions.lookup
      ⟨record.key.operatorID, record.walletCommand.operationID⟩ = some entry := by
    rw [operation]
    exact holds.booked
  refine ⟨((database.putRound record.key (row.refused status failureCode now)).putTransaction
    ⟨record.key.operatorID, record.walletCommand.operationID⟩
      { entry with status := .failed }).putSession record.key.session (release owner), ?_, rfl⟩
  simp only [Database.refuseHeld, bind_ok, heldRow_ok, require_ok, abortWhen_ok, exists_unit,
    pure_ok, not_not]
  exact ⟨row, ⟨holds.found, held⟩, entry, booked, holds.books.pending waiting, owner, holds.owned,
    (holds.owns.waits waiting).1, rfl⟩

theorem writeReview_runs {review : ReviewRow} (found : database.riskReviews.lookup key = some review)
    (pending : review.status = .pending) (later : review.createdAt ≤ now)
    (change : ReviewRow → ReviewRow) :
    ∃ written, database.writeReview key now change = .ok written := by
  refine ⟨database.putReview key (change review), ?_⟩
  simp only [Database.writeReview, bind_ok, require_ok, abortWhen_ok, exists_unit, pure_ok, not_not,
    not_lt]
  exact ⟨review, found, pending, later, rfl⟩

/-- A pending review of a round that is held back expires when it is due, and is
skipped before. -/
theorem Database.Healthy.expires (healthy : database.Healthy settings.codec)
    (inStep : database.InStep settings) (whole : WholeMicros settings.riskPolicy.reviewTTL)
    {review : ReviewRow} (found : database.riskReviews.lookup key = some review)
    (pending : review.status = .pending) (dated : now ≠ 0) :
    ∃ after, database.expireRiskReview settings key now =
      .ok (decide (review.expiresAt ≤ now), after) := by
  obtain ⟨row, there, held, document, json, awaiting, digest⟩ := inStep.pending key review found pending
  obtain ⟨owner, entry, profile, feature, result, holds⟩ := healthy.rounds key row there
  obtain ⟨session, read⟩ := holds.lockSession
  have same : result = document := by
    have spelled := holds.kept.document
    rw [json, Document.value.injEq] at spelled
    exact spelled.symm
  obtain ⟨record, locked, keyed, status, operation, result_⟩ : ∃ record,
      database.lockRound settings.codec key = .ok record ∧ record.key = key ∧
      record.status = row.status ∧ record.walletCommand.operationID = row.serverTransactionID ∧
      record.result = result := ⟨_, holds.lockRound, rfl, rfl, rfl, rfl⟩
  have gathered : database.lockHeldRound settings key now = .ok ⟨session, record, review⟩ := by
    refine lockHeldRound_ok.mpr ⟨read, locked, ?_, ?_⟩
    · unfold Database.lockReview
      rw [found]
      exact awaiting.scanned dated
    · rw [validateRiskReviewBinding_ok, result_, same]
      exact digest whole
  by_cases due : review.expiresAt ≤ now
  · have later : review.createdAt ≤ now := le_trans awaiting.ordered due
    have waits : session.pendingRoundID = key.roundID := by
      obtain ⟨owner', input, owned, _, rfl⟩ := lockSession_ok.mp read
      rw [holds.owned, Option.some.injEq] at owned
      subst owned
      show owner.pendingRoundID.getD "" = key.roundID
      rw [(holds.owns.waits (.inr (.inl held))).1]
      rfl
    have ended : ∃ after, database.expireRiskLocked ⟨session, record, review⟩ now = .ok after := by
      unfold Database.expireRiskLocked
      split
      · obtain ⟨refused, done, reviews⟩ := holds.refuseHeld_runs held keyed operation .rejected
          riskExpiredReject (fun owner => { owner with pendingRoundID := none }) now
        rw [← reviews, ← keyed] at found
        obtain ⟨written, wrote⟩ := writeReview_runs found pending later _
        exact ⟨written, bind_ok.mpr ⟨refused, done, wrote⟩⟩
      · obtain ⟨refused, done, reviews⟩ := holds.refuseHeld_runs held keyed operation .manualReview
          riskExpiredManual (fun owner => { owner with status := .blocked }) now
        rw [← reviews, ← keyed] at found
        obtain ⟨written, wrote⟩ := writeReview_runs found pending later _
        exact ⟨written, bind_ok.mpr ⟨refused, done, wrote⟩⟩
    obtain ⟨after, ended⟩ := ended
    refine ⟨after, expireRiskReview_ok.mpr ⟨_, gathered, ?_⟩⟩
    rw [if_neg (by simp [pending, due])]
    exact ⟨status.trans held, waits, by simp [due], ended⟩
  · refine ⟨database, expireRiskReview_ok.mpr ⟨_, gathered, ?_⟩⟩
    rw [if_pos (.inr (not_le.mp due))]
    exact ⟨by simp [due], rfl⟩

/-! ## Every run -/

/-- A transaction that quarantines no round that is held back. -/
inductive CarefulStep (settings : Settings) : Database → Database → Prop
  | served {before after : Database} {written : List RoundRecord}
      (step : ServerStep settings before written after) : CarefulStep settings before after
  | reviewed (before : Database) (key : RoundKey) (reason : Bytes) (now : Time)
      (free : ¬ before.RoundHeld key) : CarefulStep settings before (before.reviewed key reason now)

theorem CarefulStep.step (careful : CarefulStep settings before after) :
    StoreStep settings before after := by
  cases careful with
  | served step => exact .served step
  | reviewed key reason now free => exact .reviewed before key reason now

theorem CarefulStep.inStep (careful : CarefulStep settings before after)
    (healthy : before.Healthy settings.codec) (inStep : before.InStep settings) :
    after.InStep settings := by
  cases careful with
  | served step =>
      cases step with
      | call env call world world' coordinated ran =>
          exact healthy.execute_inStep inStep coordinated ran
      | decide command reading ran => exact healthy.decided_inStep reading inStep ran
      | expire key reading ran => exact healthy.passed_inStep reading inStep ran
  | reviewed key reason now free => exact (healthy.reviewed_passes free reason now).inStep inStep

/-- **Along every run that quarantines no round that is held back, a review is pending
exactly when its round is held back; and if the policy waits whole microseconds, the
expiry pass expires every pending review that is due and skips every other one.** -/
theorem reviews_in_step
    (run : Reachable (· = Database.empty) (CarefulStep settings) database) :
    (∀ key, database.ReviewPending key ↔ database.RoundHeld key) ∧
      (WholeMicros settings.riskPolicy.reviewTTL → ∀ key review,
        database.riskReviews.lookup key = some review → review.status = .pending →
        ∀ now, now ≠ 0 → ∃ after, database.expireRiskReview settings key now =
          .ok (decide (review.expiresAt ≤ now), after)) := by
  obtain ⟨healthy, inStep⟩ : database.Healthy settings.codec ∧ database.InStep settings := by
    refine Reachable.invariant
      (fun database => database.Healthy settings.codec ∧ database.InStep settings) ?_ ?_ run
    · rintro _ rfl
      exact ⟨Database.Healthy.empty settings.codec, .empty settings⟩
    · rintro before after _ ⟨healthy, inStep⟩ careful
      exact ⟨careful.step.healthy healthy, careful.inStep healthy inStep⟩
  exact ⟨inStep.iff, fun whole key review found pending now dated =>
    healthy.expires inStep whole found pending dated⟩

/-! ## A held-back round that is quarantined -/

def quarantinedHeld : Database :=
  (watchfulPrepared Duration.hour).2.1.reviewed demoRequest.key persistedRoundIntegrityFailure
    Duration.minute

/-- The round has ended, its review is pending still, and its expiry fails. -/
theorem quarantined_review_pending :
    Operated (watchfulSettings Duration.hour) quarantinedHeld ∧
      (quarantinedHeld.rounds.lookup demoRequest.key).map (fun row => row.status) =
        some .manualReview ∧
      (quarantinedHeld.riskReviews.lookup demoRequest.key).map (fun review => review.status) =
        some .pending ∧
      (match (settle quarantinedHeld (quarantinedHeld.expireRiskReview
          (watchfulSettings Duration.hour) demoRequest.key (2 * Duration.hour))).1 with
        | .error error => some error
        | .ok _ => none) = some corruptRound :=
  ⟨(watchfulPrepared_operated Duration.hour).next (.reviewed _ _ _ _), by decide +kernel⟩

/-- A run that holds a round back, with its review. -/
theorem prepared_review_pending :
    (watchfulPrepared Duration.hour).2.1.ReviewPending demoRequest.key := by
  have begun : Reachable (· = Database.empty) (CarefulStep (watchfulSettings Duration.hour))
      Database.empty := .start rfl
  have created : CarefulStep (watchfulSettings Duration.hour) Database.empty
      (watchfulCreated Duration.hour) :=
    .served (.call demoEnv (.createSession demoSession) ([] : List Nat) [] trivial rfl)
  have prepared := ServerStep.call demoEnv watchfulCall winningDraws
    (watchfulPrepared Duration.hour).2.2 (watchfulCall_coordinated Duration.hour)
    (watchfulPrepared_ran Duration.hour)
  exact ((reviews_in_step ((begun.next created).next (.served prepared))).1 demoRequest.key).mpr
    (Option.map_eq_some_iff.mp watchfulPrepared_held.2)

end SlotsGame.Postgres
