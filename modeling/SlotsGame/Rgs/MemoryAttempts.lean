/-
# SlotsGame.Rgs.MemoryAttempts -- the reference store counts attempts

`RoundMoves` says once what a call of the reference store does to its rounds, each under
its key: it writes the claims it grants, and changes any other round as `RoundChange`
lists.  That a store keeps its rounds under their keys, that it counts attempts, and
that a review is final all follow from it.
-/
import SlotsGame.Rgs.Attempts
import SlotsGame.Rgs.MemoryTransport
import SlotsGame.Rgs.Recovery

namespace SlotsGame.Rgs

open SlotsGame.Theory

set_option autoImplicit false

variable {ω : Type} {codec : Codec}

/-! ## Rounds under their keys -/

/-- A round that may be claimed says which action comes next. -/
def RoundRecord.Planned (record : RoundRecord) : Prop :=
  record.status = .prepared ∨ record.status = .walletPending → record.walletPhase.Valid

/-- Every round is stored under its key and planned. -/
def MemoryRepository.Orderly (repository : MemoryRepository) : Prop :=
  ∀ key record, repository.round key = some record → record.key = key ∧ record.Planned

theorem planned_normal {record : RoundRecord} (planned : record.Planned) :
    normalizeLegacyRecoveryState record = record := by
  by_cases open_ : record.status = .prepared ∨ record.status = .walletPending
  · exact normalize_of_valid (planned open_)
  · rw [not_or] at open_
    exact normalize_of_closed open_.1 open_.2

/-- How a call may change a round that it does not claim. -/
inductive RoundChange (key : RoundKey) (refunds : Prop) :
    Option RoundRecord → Option RoundRecord → Prop
  | kept {found : Option RoundRecord} : RoundChange key refunds found found
  | prepared {written : RoundRecord} (named : written.key = key)
      (planned : written.walletPhase.Valid) (fresh : written.tally = ⟨0, 0⟩) :
      RoundChange key refunds none (some written)
  | ended {record written : RoundRecord} (named : written.key = record.key)
      (closed : written.status ≠ .prepared ∧ written.status ≠ .walletPending)
      (counted : written.tally = record.tally)
      (final : record.status = .manualReview → written.status = .manualReview) :
      RoundChange key refunds (some record) (some written)
  | returned {record written : RoundRecord} (named : written.key = record.key)
      (planned : written.walletPhase.Valid) (open_ : record.status ≠ .manualReview)
      (counted : written.tally = record.tally ∨ (refunds ∧ written.tally = record.tally.refund)) :
      RoundChange key refunds (some record) (some written)

/-- A claim of a round that is not in review. -/
structure RoundClaimed (record : RoundRecord) (claim : WalletRecoveryClaim) : Prop where
  due : record.status = .prepared ∨ record.status = .walletPending
  claimed : ∃ now leaseUntil,
    claim.record = claimedRecord (normalizeLegacyRecoveryState record) now leaseUntil
  action : claim.action = (normalizeLegacyRecoveryState record).walletPhase
  valid : (normalizeLegacyRecoveryState record).walletPhase.Valid

structure RoundMoves (call : RepositoryCall ω) (reply : Except RgsError call.Reply)
    (before after : RoundKey → Option RoundRecord) : Prop where
  once : ((call.granted reply).map fun claim => claim.record.key).Nodup
  granted : ∀ claim ∈ call.granted reply, ∃ record, before claim.record.key = some record ∧
    RoundClaimed record claim ∧ after claim.record.key = some claim.record
  kept : ∀ key, (∀ claim ∈ call.granted reply, claim.record.key ≠ key) →
    RoundChange key (call.Refunds key) (before key) (after key)

namespace MemoryRepository

variable {repository after : MemoryRepository} {target : SessionKey} {entry : MemorySession}

theorem round_insert (repository : MemoryRepository) (target : SessionKey) (entry : MemorySession)
    (key : RoundKey) :
    ({ sessions := repository.sessions.insert target entry } : MemoryRepository).round key =
      if key.session = target then entry.rounds.lookup key.roundID else repository.round key := by
  unfold round
  simp only [Table.lookup_insert]
  split <;> rfl

theorem round_of_entry {key : RoundKey} (there : repository.sessions.lookup target = some entry)
    (about : key.session = target) : repository.round key = entry.rounds.lookup key.roundID := by
  subst about
  rw [round, there, Option.bind_some]

/-- A session whose rounds stay as they are. -/
theorem round_kept {written : MemorySession}
    (there : repository.sessions.lookup target = some entry)
    (rounds : written.rounds = entry.rounds) (key : RoundKey) :
    ({ sessions := repository.sessions.insert target written } : MemoryRepository).round key =
      repository.round key := by
  rw [round_insert]
  split
  · next about => rw [rounds, round_of_entry there about]
  · rfl

/-- A session with one round written. -/
theorem round_put {written : MemorySession} {id : String} {record : RoundRecord}
    (there : repository.sessions.lookup target = some entry)
    (rounds : written.rounds = entry.rounds.insert id record) (key : RoundKey) :
    ({ sessions := repository.sessions.insert target written } : MemoryRepository).round key =
      if key = ⟨target.operatorID, target.sessionID, id⟩ then some record
      else repository.round key := by
  rw [round_insert]
  by_cases about : key.session = target
  · subst about
    rw [if_pos rfl, rounds, Table.lookup_insert]
    by_cases named : key.roundID = id
    · rw [if_pos named, if_pos (by rw [← named]; rfl)]
    · rw [if_neg named, if_neg fun same => named (congrArg RoundKey.roundID same),
        round_of_entry there rfl]
  · rw [if_neg about, if_neg fun same => about (by rw [same]; rfl)]

end MemoryRepository

/-! ## What an operation writes -/

/-- At most one round of a session was written, as `RoundChange` allows. -/
def MemorySession.Wrote (target : SessionKey) (refunds : RoundKey → Prop)
    (entry after : MemorySession) : Prop :=
  after.rounds = entry.rounds ∨ ∃ id written, after.rounds = entry.rounds.insert id written ∧
    RoundChange ⟨target.operatorID, target.sessionID, id⟩
      (refunds ⟨target.operatorID, target.sessionID, id⟩) (entry.rounds.lookup id) (some written)

namespace MemorySession

variable {entry after : MemorySession} {target : SessionKey} {refunds : RoundKey → Prop}
variable {now : Time}

theorem Wrote.refl : entry.Wrote target refunds entry := .inl rfl

theorem owned_open {record : RoundRecord} {claim : WalletRecoveryClaim}
    (owned : OwnsWalletClaim record claim) : record.status ≠ .manualReview := by
  rcases owned.1 with status | status
  · rw [status]
    decide
  · rw [status]
    decide

theorem commitClaim_wrote {claim : WalletRecoveryClaim} {receipt : WalletReceipt}
    {result : RoundRecord × Bool}
    (ran : entry.commitClaim codec claim receipt now = .ok (result, after)) :
    entry.Wrote target refunds after := by
  simp only [commitClaim, bind_ok, require_ok, abortWhen_ok, check_ok, exists_unit, pure_ok,
    Prod.mk.injEq, not_not] at ran
  obtain ⟨record, found, owned, _, _, _, _, _, _, rfl⟩ := ran
  refine .inr ⟨claim.record.key.roundID, committedRecord record receipt now, rfl, ?_⟩
  rw [found]
  exact .ended rfl ⟨by simp [committedRecord], by simp [committedRecord]⟩ rfl
    fun reviewed => absurd reviewed (owned_open owned)

theorem reviewed_change {record : RoundRecord} {key : RoundKey} {refunding : Prop}
    {status : RoundStatus} (closed : status = .rejected ∨ status = .manualReview)
    (final : record.status = .manualReview → status = .manualReview) (reason : Bytes) :
    RoundChange key refunding (some record) (some (reviewedRecord record status reason now)) := by
  refine .ended rfl ?_ rfl final
  rcases closed with rfl | rfl
  · exact ⟨by simp [reviewedRecord], by simp [reviewedRecord]⟩
  · exact ⟨by simp [reviewedRecord], by simp [reviewedRecord]⟩

theorem transitionClaimFailure_wrote {claim : WalletRecoveryClaim} {status : RoundStatus}
    {reason : Bytes} {clearPending : Bool} {result : RoundRecord × Bool}
    (closed : status = .rejected ∨ status = .manualReview)
    (ran : entry.transitionClaimFailure claim status reason clearPending now =
      .ok (result, after)) : entry.Wrote target refunds after := by
  simp only [transitionClaimFailure, bind_ok, require_ok, abortWhen_ok, exists_unit, pure_ok,
    Prod.mk.injEq, not_not] at ran
  obtain ⟨record, found, owned, _, rfl⟩ := ran
  refine .inr ⟨claim.record.key.roundID, reviewedRecord record status reason now, ?_, ?_⟩
  · cases clearPending
    · rfl
    · show (MemorySession.release _ _).rounds = _
      unfold MemorySession.release
      split <;> rfl
  · rw [found]
    exact reviewed_change closed (fun reviewed => absurd reviewed (owned_open owned)) reason

theorem markManualReview_wrote {id : String} {reason : Bytes} {result : RoundRecord × Bool}
    (ran : entry.markManualReview id reason now = .ok (result, after)) :
    entry.Wrote target refunds after := by
  simp only [markManualReview, bind_ok, require_ok, abortWhen_ok, exists_unit] at ran
  obtain ⟨record, found, _, ran⟩ := ran
  split at ran
  · obtain ⟨_, rfl⟩ := Prod.mk.inj (pure_ok.mp ran)
    exact .refl
  · obtain ⟨_, rfl⟩ := Prod.mk.inj (pure_ok.mp ran)
    refine .inr ⟨id, reviewedRecord record .manualReview reason now, rfl, ?_⟩
    rw [found]
    exact reviewed_change (.inr rfl) (fun _ => rfl) reason

theorem quarantine_wrote (entry : MemorySession) (id : String) (now : Time) :
    entry.Wrote target refunds (quarantineMemoryWalletClaim entry id now) := by
  unfold quarantineMemoryWalletClaim
  split
  · exact .refl
  · next record found =>
    refine .inr ⟨id, _, rfl, ?_⟩
    rw [found]
    exact reviewed_change (.inr rfl) (fun _ => rfl) _

theorem schedule_wrote {claim : WalletRecoveryClaim} {disposition : WalletRecoveryDisposition}
    {jitterDelay : Duration} {done : Bool}
    (accepted : validateWalletRecoverySchedule claim disposition jitterDelay = .ok ())
    (about : claim.record.key.session = target)
    (returns : disposition.applyNotSent = true → refunds claim.record.key)
    (ran : entry.scheduleWalletRecovery claim disposition jitterDelay now = .ok (done, after)) :
    entry.Wrote target refunds after := by
  subst about
  simp only [scheduleWalletRecovery, bind_ok, require_ok] at ran
  obtain ⟨record, found, ran⟩ := ran
  split at ran
  · obtain ⟨_, rfl⟩ := Prod.mk.inj (pure_ok.mp ran)
    exact .refl
  · next held =>
    simp only [bind_ok, abortWhen_ok, exists_unit, pure_ok, Prod.mk.injEq] at ran
    obtain ⟨_, _, rfl⟩ := ran
    refine .inr ⟨claim.record.key.roundID, scheduledRecord record disposition jitterDelay now, rfl,
      ?_⟩
    rw [found]
    refine .returned rfl (schedule_disposition_valid accepted).1 ?_ ?_
    · intro reviewed
      exact held (.inl ⟨by simp [reviewed], by simp [reviewed]⟩)
    · simp only [RoundRecord.tally, scheduledRecord, Tally.refund]
      split
      · next sent => exact .inr ⟨returns sent, rfl⟩
      · exact .inl rfl

theorem persistRound_wrote {request : SpinRequest} {fingerprint : String} {walletProfile : Profile}
    {prepared : SpinResult} {result : RoundRecord × Bool}
    (about : request.key.session = target) (fresh : entry.rounds.lookup request.roundID = none)
    (ran : entry.persistRound codec request fingerprint walletProfile prepared now =
      .ok (result, after)) : entry.Wrote target refunds after := by
  subst about
  simp only [persistRound, bind_ok, check_ok, exists_unit, pure_ok, Prod.mk.injEq] at ran
  obtain ⟨_, outcomeHash, _, _, rfl⟩ := ran
  refine .inr ⟨request.roundID, _, rfl, ?_⟩
  rw [fresh]
  exact .prepared rfl (.inl rfl) rfl

theorem acknowledge_wrote {receipt : ResultDeliveryAcknowledgement}
    {result : ResultDelivery × Bool}
    (ran : entry.acknowledgeResultDelivery receipt now = .ok (result, after)) :
    entry.Wrote target refunds after := by
  simp only [acknowledgeResultDelivery, bind_ok, require_ok, abortWhen_ok, exists_unit] at ran
  obtain ⟨_, delivery, _, _, ran⟩ := ran
  split at ran
  · obtain ⟨_, rfl⟩ := Prod.mk.inj (pure_ok.mp ran)
    exact .refl
  · obtain ⟨_, rfl⟩ := Prod.mk.inj (pure_ok.mp ran)
    exact .refl

/-- A claim of one round. -/
theorem claimWallet_wrote {id : String} {leaseDuration : Duration} {quarantineNow : Time}
    {result : WalletRecoveryClaim × Bool}
    (ran : entry.claimWallet codec id leaseDuration now quarantineNow = .ok (result, after)) :
    (result.2 = false ∧ after = entry) ∨
      (result.2 = true ∧ ∃ record, entry.rounds.lookup id = some record ∧
        RoundClaimed record result.1 ∧ result.1.record.key = record.key ∧
        after.rounds = entry.rounds.insert id result.1.record) := by
  simp only [claimWallet, bind_ok, require_ok] at ran
  obtain ⟨record, found, ran⟩ := ran
  split at ran
  · cases ran
  · simp only [bind_ok, check_ok] at ran
    obtain ⟨claimed, granted, ran⟩ := ran
    cases claimed with
    | none =>
        obtain ⟨rfl, rfl⟩ := Prod.mk.inj (pure_ok.mp ran)
        exact .inl ⟨rfl, rfl⟩
    | some claim =>
        obtain ⟨rfl, rfl⟩ := Prod.mk.inj (pure_ok.mp ran)
        obtain ⟨due, rfl⟩ := claimMemoryWallet_some granted
        have status := (normalize_kept record).1
        have named : (claimedRecord (normalizeLegacyRecoveryState record) now
            (now + leaseDuration)).key = record.key :=
          (claimedRecord_kept _ _ _).1.trans (normalize_kept record).2.1
        refine .inr ⟨rfl, record, found, ⟨?_, ⟨now, now + leaseDuration, rfl⟩, rfl, due.1.1.2.1⟩,
          named, rfl⟩
        rw [← status]
        exact due.1.1.1

end MemorySession

/-! ## What a call writes -/

namespace MemoryRepository

variable {repository after : MemoryRepository} {clock : Clock} {world world' : ω}
variable {call : RepositoryCall ω} {reply : Except RgsError call.Reply}

theorem moves_kept (silent : call.granted reply = []) (same : ∀ key, after.round key = repository.round key) :
    RoundMoves call reply repository.round after.round := by
  refine ⟨by rw [silent]; exact List.nodup_nil, ?_, fun key _ => ?_⟩
  · intro claim member
    rw [silent] at member
    cases member
  · rw [same]
    exact .kept

/-- One session is written, and at most one of its rounds. -/
theorem moves_wrote {target : SessionKey} {entry written : MemorySession}
    (silent : call.granted reply = []) (there : repository.sessions.lookup target = some entry)
    (wrote : entry.Wrote target call.Refunds written) :
    RoundMoves call reply repository.round
      ({ sessions := repository.sessions.insert target written } : MemoryRepository).round := by
  rcases wrote with rounds | ⟨id, record, rounds, change⟩
  · exact moves_kept silent (round_kept there rounds)
  · refine ⟨by rw [silent]; exact List.nodup_nil, ?_, fun key _ => ?_⟩
    · intro claim member
      rw [silent] at member
      cases member
    · rw [round_put there rounds]
      split
      · next same =>
        subst same
        rw [round_of_entry there rfl]
        exact change
      · exact .kept

/-- A call on one session that writes nothing before it fails. -/
theorem moves_onSession (call : RepositoryCall ω) {reply : Except RgsError call.Reply}
    {target : SessionKey}
    {program : MemorySession → Except (Abort MemorySession RgsError) (call.Reply × MemorySession)}
    (ran : repository.onSession target program = (reply, after))
    (silent : call.granted reply = []) (atomic : ∀ entry, Atomic (program entry))
    (wrote : ∀ entry written result, repository.sessions.lookup target = some entry →
      program entry = .ok (result, written) → entry.Wrote target call.Refunds written) :
    RoundMoves call reply repository.round after.round := by
  rcases onSession_cases ran with ⟨_, _, rfl⟩ | ⟨entry, written, there, settled, rfl⟩
  · exact moves_kept silent fun _ => rfl
  · refine moves_wrote silent there ?_
    rcases settle_atomic (atomic entry) settled with ⟨result, done, _⟩ | ⟨error, _, rfl⟩
    · exact wrote entry written result there done
    · exact .refl

theorem Orderly.keyed (orderly : repository.Orderly) : repository.Keyed := by
  intro key entry there id record found
  exact (orderly ⟨key.operatorID, key.sessionID, id⟩ record
    ((round_of_entry there rfl).trans found)).1

theorem claimWallet_rounds (orderly : repository.Orderly) {key : RoundKey}
    {leaseDuration : Duration} {reply : Except RgsError (WalletRecoveryClaim × Bool)}
    (ran : repository.onSession key.session (fun entry =>
      entry.claimWallet codec key.roundID leaseDuration (clock 0) (clock 0)) = (reply, after)) :
    RoundMoves (.claimWallet key leaseDuration : RepositoryCall ω) reply repository.round
      after.round := by
  rcases onSession_cases ran with ⟨_, rfl, rfl⟩ | ⟨entry, written, there, settled, rfl⟩
  · exact moves_kept rfl fun _ => rfl
  rcases settle_cases settled with ⟨result, done, rfl⟩ | ⟨error, _, rfl, rfl⟩ | ⟨error, stopped, rfl⟩
  · obtain ⟨claim, fresh⟩ := result
    rcases MemorySession.claimWallet_wrote done with
      ⟨rfl, rfl⟩ | ⟨rfl, record, found, claimed, named, rounds⟩
    · exact moves_wrote rfl there .refl
    · have stored : repository.round key = some record := (round_of_entry there rfl).trans found
      obtain rfl : claim.record.key = key := named.trans (orderly key record stored).1
      refine ⟨List.nodup_singleton _, ?_, fun other others => ?_⟩
      · intro other member
        rw [List.mem_singleton.mp member]
        exact ⟨record, stored, claimed, (round_put there rounds _).trans (if_pos rfl)⟩
      · have different : other ≠ claim.record.key :=
          (others claim (List.mem_singleton.mpr rfl)).symm
        rw [(round_put there rounds other).trans (if_neg different)]
        exact .kept
  · exact moves_wrote rfl there .refl
  · refine moves_wrote rfl there ?_
    simp only [MemorySession.claimWallet, bind_committed, require_committed, require_ok,
      false_or] at stopped
    obtain ⟨record, found, stopped⟩ := stopped
    split at stopped
    · cases stopped
      exact MemorySession.quarantine_wrote entry key.roundID _
    · simp only [bind_committed, check_committed, check_ok, false_or] at stopped
      obtain ⟨claimed, _, stopped⟩ := stopped
      cases claimed <;> simp at stopped

/-- The claims of a pass. -/
theorem Claimed.rounds (keyed : repository.Keyed) {now : Time} {leaseDuration : Duration}
    {limit : Int} {visited : List RecoveryCandidate} {claims : List WalletRecoveryClaim}
    (distinct : visited.Pairwise fun left right => left.session ≠ right.session)
    (due : ∀ candidate ∈ visited, candidate ∈ repository.dueRounds now)
    (claimed : Claimed repository now leaseDuration visited (claims, after)) :
    RoundMoves (.claimRecoverableRounds limit leaseDuration : RepositoryCall ω) (.ok claims)
      repository.round after.round := by
  obtain rfl : claims = visited.map (RecoveryCandidate.claim now leaseDuration) := claimed.claims
  have named (candidate : RecoveryCandidate) :
      (candidate.claim now leaseDuration).record.key = candidate.record.key :=
    (claimedRecord_kept _ _ _).1
  have written (candidate : RecoveryCandidate) (member : candidate ∈ visited) (key : RoundKey)
      (about : key.session = candidate.session) :
      after.round key = if key = candidate.record.key then
        some (candidate.claim now leaseDuration).record else repository.round key := by
    obtain ⟨entry, there, later⟩ := claimed.written candidate member
    have owner := keyed.owner (due candidate member)
    rw [round_of_entry later about, Table.lookup_insert, named, round_of_entry there about]
    by_cases same : key.roundID = candidate.record.key.roundID
    · have whole : key = candidate.record.key := by
        have operator := congrArg SessionKey.operatorID (about.trans owner.symm)
        have session := congrArg SessionKey.sessionID (about.trans owner.symm)
        exact RoundKey.mk.injEq .. |>.mpr ⟨operator, session, same⟩
      rw [if_pos same, if_pos whole]
    · rw [if_neg same, if_neg fun whole => same (congrArg RoundKey.roundID whole)]
  refine ⟨?_, ?_, fun key others => ?_⟩
  · show ((visited.map (RecoveryCandidate.claim now leaseDuration)).map _).Nodup
    rw [List.map_map]
    refine List.pairwise_map.mpr (distinct.imp_of_mem ?_)
    intro left right inLeft inRight different same
    simp only [Function.comp_apply, named] at same
    have owned := keyed.owner (due left inLeft)
    have owned' := keyed.owner (due right inRight)
    exact different (owned.symm.trans ((congrArg RoundKey.session same).trans owned'))
  · intro claim member
    obtain ⟨candidate, there, rfl⟩ := List.mem_map.mp member
    obtain ⟨entry, id, record, stored, found, copy, scheduled, _⟩ :=
      mem_dueRounds.mp (due candidate there)
    have owner := keyed.owner (due candidate there)
    have key' : candidate.record.key = ⟨candidate.session.operatorID, candidate.session.sessionID,
        id⟩ := by
      rw [copy, (normalize_kept record).2.1, keyed candidate.session entry stored id record found]
    refine ⟨record, ?_, ⟨?_, ⟨now, now + leaseDuration, ?_⟩, ?_, ?_⟩, ?_⟩
    · rw [named, key', round_of_entry stored rfl]
      exact found
    · rw [← (normalize_kept record).1, ← copy]
      exact scheduled.1.1
    · rw [← copy]
      rfl
    · rw [← copy]
      rfl
    · rw [← copy]
      exact scheduled.1.2.1
    · rw [named, written candidate there _ owner, if_pos rfl]
  · by_cases visits : ∃ candidate ∈ visited, candidate.session = key.session
    · obtain ⟨candidate, there, about⟩ := visits
      have different : key ≠ candidate.record.key := fun same =>
        others _ (List.mem_map.mpr ⟨candidate, there, rfl⟩) ((named candidate).trans same.symm)
      rw [written candidate there key about.symm, if_neg different]
      exact .kept
    · have same : after.round key = repository.round key := by
        unfold round
        rw [claimed.kept key.session fun candidate there about => visits ⟨candidate, there, about⟩]
      rw [same]
      exact .kept

theorem recover_rounds (orderly : repository.Orderly) {limit : Int} {leaseDuration : Duration}
    {reply : Except RgsError (List WalletRecoveryClaim)}
    (settled : settle repository (repository.claimRecoverableRounds codec limit leaseDuration
      (clock 0) (clock 1)) = (reply, after)) :
    RoundMoves (.claimRecoverableRounds limit leaseDuration : RepositoryCall ω) reply
      repository.round after.round := by
  have keyed := orderly.keyed
  have distinct := keyed.candidates_distinct (clock 0) limit.toNat
  have due (candidate : RecoveryCandidate)
      (member : candidate ∈ recoveryCandidates (repository.dueRounds (clock 0)) limit.toNat) :=
    mem_recoveryCandidates member
  obtain ⟨claimed, ran, passed⟩ := claimCandidates_claimed leaseDuration distinct due
  rcases settle_cases settled with ⟨claims, done, rfl⟩ | ⟨error, _, rfl, rfl⟩ | ⟨error, stopped, rfl⟩
  · simp only [claimRecoverableRounds, bind_ok, check_ok, exists_unit, forM_ok] at done
    obtain ⟨_, _, done⟩ := done
    obtain rfl : claimed = (claims, after) := Except.ok.inj (ran.symm.trans done)
    exact passed.rounds keyed distinct due
  · exact moves_kept rfl fun _ => rfl
  · simp only [claimRecoverableRounds, bind_committed, check_committed, check_ok, exists_unit,
      false_or, forM_ok] at stopped
    obtain ⟨_, bad | ⟨_, failed⟩⟩ := stopped
    · obtain ⟨candidate, member, stopped⟩ := forM_committed bad
      obtain ⟨entry, _, _, there, _⟩ := mem_dueRounds.mp (due candidate member)
      simp only [checkCandidate, there, bind_committed, require_committed, require_ok, false_or,
        Option.some.injEq] at stopped
      obtain ⟨_, rfl, stopped⟩ := stopped
      split at stopped
      · cases stopped
        exact moves_wrote rfl there (MemorySession.quarantine_wrote entry _ _)
      · exact absurd stopped pure_committed
    · rw [ran] at failed
      cases failed

theorem prepareRound_rounds {request : SpinRequest} {fingerprint : String}
    {walletProfile : Profile} {prepare : PrepareOutcome ω}
    {reply : Except RgsError (RoundRecord × Bool)}
    (ran : repository.prepareRound codec request fingerprint walletProfile prepare clock world =
      (reply, after, world')) :
    RoundMoves (.prepareRound request fingerprint walletProfile prepare : RepositoryCall ω) reply
      repository.round after.round := by
  have quiet : (RepositoryCall.prepareRound request fingerprint walletProfile prepare).granted
      reply = [] := rfl
  simp only [prepareRound] at ran
  split at ran
  · cases ran
    exact moves_kept quiet fun _ => rfl
  · cases ran
    exact moves_kept quiet fun _ => rfl
  · next entry accepted there =>
    split at ran
    · cases ran
      exact moves_kept quiet fun _ => rfl
    · cases ran
      exact moves_kept quiet fun _ => rfl
    · next admitted =>
      split at ran
      · cases ran
        exact moves_kept quiet fun _ => rfl
      · cases ran
        refine moves_onSession (.prepareRound request fingerprint walletProfile prepare) rfl rfl
          ?_ ?_
        · intro entry
          exact .bind (.check _) fun _ => .bind (.check _) fun _ => .pure _
        · intro other written result found done
          obtain rfl : other = entry := Option.some.inj (found.symm.trans there)
          exact MemorySession.persistRound_wrote rfl
            (MemorySession.admitRound_fresh admitted).fresh done

theorem createSession_rounds {session : Session} {reply : Except RgsError Unit}
    (settled : settle repository (repository.createSession session) = (reply, after)) :
    RoundMoves (.createSession session : RepositoryCall ω) reply repository.round after.round := by
  have atomic : Atomic (repository.createSession session) :=
    .bind (.check _) fun _ => .bind (.abortWhen _ _) fun _ => .bind (.abortWhen _ _) fun _ => .pure _
  rcases settle_atomic atomic settled with ⟨_, done, rfl⟩ | ⟨error, rfl, rfl⟩
  · simp only [createSession, bind_ok, check_ok, abortWhen_ok, exists_unit, pure_ok,
      Prod.mk.injEq, not_not] at done
    obtain ⟨_, _, missing, _, rfl⟩ := done
    refine moves_kept rfl fun key => ?_
    rw [round_insert]
    split
    · next about =>
      rw [round, about, missing]
      rfl
    · rfl
  · exact moves_kept rfl fun _ => rfl

theorem readSession_rounds (call : RepositoryCall ω) {reply : Except RgsError call.Reply}
    {target : SessionKey} {program : MemorySession → Except RgsError call.Reply}
    (ran : repository.readSession target program = (reply, after))
    (silent : call.granted reply = []) : RoundMoves call reply repository.round after.round := by
  unfold readSession at ran
  have same : after = repository := by
    split at ran <;> cases ran <;> rfl
  exact moves_kept silent fun key => by rw [same]

/-- Every call of the store. -/
theorem run_rounds (orderly : repository.Orderly)
    (ran : MemoryRepository.run codec clock call repository world = (reply, after, world')) :
    RoundMoves call reply repository.round after.round := by
  cases call with
  | createSession session => exact createSession_rounds (run_pair ran)
  | getSession target => exact readSession_rounds _ (run_pair ran) rfl
  | authorizeSessionRelaunch target => exact readSession_rounds _ (run_pair ran) rfl
  | getRound target => exact readSession_rounds _ (run_pair ran) rfl
  | getPendingResultDelivery target => exact readSession_rounds _ (run_pair ran) rfl
  | resetSessionTransport target idleDisconnect =>
      rcases afterCheck_cases (run_pair ran) with ⟨error, rfl, rfl⟩ | ⟨_, ran⟩
      · exact moves_kept rfl fun _ => rfl
      · refine moves_onSession _ ran rfl ?_ ?_
        · intro entry
          exact .bind (.check _) fun _ => .bind (.abortWhen _ _) fun _ => .pure _
        · intro entry written session _ done
          exact .inl (MemorySession.resetTransport_view done).2.1
  | authorizeSessionTransport target transportGeneration allowIdleRecovery =>
      refine moves_onSession _ (run_pair ran) rfl ?_ ?_
      · intro entry
        exact .bind (.abortWhen _ _) fun _ => .bind (.check _) fun _ =>
          .bind (.abortWhen _ _) fun _ => .pure _
      · intro entry written session _ done
        exact .inl (MemorySession.authorizeTransport_view done).2.1
  | acknowledgeResultDelivery receipt =>
      rcases afterCheck_cases (run_pair ran) with ⟨error, rfl, rfl⟩ | ⟨_, ran⟩
      · exact moves_kept rfl fun _ => rfl
      · refine moves_onSession _ ran rfl ?_ fun _ _ _ _ => MemorySession.acknowledge_wrote
        intro entry
        refine .bind (.abortWhen _ _) fun _ => .bind (.require _ _) fun _ =>
          .bind (.abortWhen _ _) fun _ => ?_
        split
        · exact .pure _
        · exact .pure _
  | prepareRound request fingerprint walletProfile prepare => exact prepareRound_rounds ran
  | claimWallet target leaseDuration =>
      rcases afterCheck_cases (run_pair ran) with ⟨error, rfl, rfl⟩ | ⟨_, ran⟩
      · exact moves_kept rfl fun _ => rfl
      · exact claimWallet_rounds orderly ran
  | commitClaim claim receipt =>
      refine moves_onSession _ (run_pair ran) rfl ?_ fun _ _ _ _ => MemorySession.commitClaim_wrote
      intro entry
      exact .bind (.require _ _) fun _ => .bind (.abortWhen _ _) fun _ => .bind (.check _) fun _ =>
        .bind (.abortWhen _ _) fun _ => .bind (.abortWhen _ _) fun _ => .bind (.check _) fun _ =>
        .pure _
  | rejectClaim claim reason =>
      refine moves_onSession _ (run_pair ran) rfl ?_ fun _ _ _ _ =>
        MemorySession.transitionClaimFailure_wrote (.inl rfl)
      intro entry
      exact .bind (.require _ _) fun _ => .bind (.abortWhen _ _) fun _ => .pure _
  | markClaimManualReview claim reason =>
      refine moves_onSession _ (run_pair ran) rfl ?_ fun _ _ _ _ =>
        MemorySession.transitionClaimFailure_wrote (.inr rfl)
      intro entry
      exact .bind (.require _ _) fun _ => .bind (.abortWhen _ _) fun _ => .pure _
  | markManualReview target reason =>
      refine moves_onSession _ (run_pair ran) rfl ?_ fun _ _ _ _ =>
        MemorySession.markManualReview_wrote
      intro entry
      refine .bind (.require _ _) fun _ => .bind (.abortWhen _ _) fun _ => ?_
      split
      · exact .pure _
      · exact .pure _
  | claimRecoverableRounds limit leaseDuration => exact recover_rounds orderly (run_pair ran)
  | scheduleWalletRecovery claim disposition jitterDelay =>
      rcases afterCheck_cases (run_pair ran) with ⟨error, rfl, rfl⟩ | ⟨accepted, ran⟩
      · exact moves_kept rfl fun _ => rfl
      · refine moves_onSession _ ran rfl ?_ fun _ _ _ _ =>
          MemorySession.schedule_wrote accepted rfl fun returns => ⟨rfl, returns⟩
        intro entry
        refine .bind (.require _ _) fun _ => ?_
        split
        · exact .pure _
        · exact .bind (.abortWhen _ _) fun _ => .pure _

end MemoryRepository

/-! ## The store counts -/

def MemoryRepository.tally (repository : MemoryRepository) (key : RoundKey) : Tally :=
  ((repository.round key).map RoundRecord.tally).getD ⟨0, 0⟩

/-- The rounds in review. -/
def MemoryRepository.inReview (repository : MemoryRepository) : Set RoundKey :=
  { key | ∃ record, repository.round key = some record ∧ record.status = .manualReview }

theorem RoundClaimed.tally {record : RoundRecord} {claim : WalletRecoveryClaim}
    (claimed : RoundClaimed record claim) (planned : record.Planned) :
    claim.record.tally = record.tally.grant claim.action := by
  obtain ⟨now, leaseUntil, written⟩ := claimed.claimed
  rw [written, claimed.action, planned_normal planned]
  unfold claimedRecord Tally.grant RoundRecord.tally
  dsimp only
  split_ifs <;> rfl

namespace RoundMoves

variable {call : RepositoryCall ω} {reply : Except RgsError call.Reply}
variable {repository after : MemoryRepository}

theorem orderly (moves : RoundMoves call reply repository.round after.round)
    (orderly : repository.Orderly) : after.Orderly := by
  intro key record found
  by_cases handed : ∃ claim ∈ call.granted reply, claim.record.key = key
  · obtain ⟨claim, member, rfl⟩ := handed
    obtain ⟨before, _, claimed, written⟩ := moves.granted claim member
    obtain rfl : claim.record = record := Option.some.inj (written.symm.trans found)
    refine ⟨rfl, fun _ => .inr ?_⟩
    obtain ⟨now, leaseUntil, made⟩ := claimed.claimed
    rw [made]
    exact claimedRecord_phase now leaseUntil claimed.valid
  · have change := moves.kept key fun claim member about => handed ⟨claim, member, about⟩
    rw [found] at change
    generalize there : repository.round key = before at change
    cases change with
    | kept => exact orderly key record there
    | prepared named planned => exact ⟨named, fun _ => planned⟩
    | ended named closed =>
        refine ⟨named.trans (orderly key _ there).1, fun open_ => ?_⟩
        rcases open_ with status | status
        · exact absurd status closed.1
        · exact absurd status closed.2
    | returned named planned => exact ⟨named.trans (orderly key _ there).1, fun _ => planned⟩

theorem counts (moves : RoundMoves call reply repository.round after.round)
    (orderly : repository.Orderly) : call.Counts reply repository.tally after.tally := by
  refine ⟨moves.once, fun claim member => ?_, fun key others => ?_⟩
  · obtain ⟨record, found, claimed, written⟩ := moves.granted claim member
    have counted := claimed.tally (orderly _ record found).2
    simp only [MemoryRepository.tally, found, written, Option.map_some, Option.getD_some]
    exact ⟨counted, trivial⟩
  · have change := moves.kept key others
    unfold MemoryRepository.tally
    generalize repository.round key = before at change ⊢
    generalize after.round key = later at change ⊢
    cases change with
    | kept => exact .inl rfl
    | prepared named planned fresh => exact .inl fresh
    | ended named closed counted => exact .inl counted
    | returned named planned open_ counted => exact counted

theorem reviewed (moves : RoundMoves call reply repository.round after.round) :
    repository.inReview ⊆ after.inReview ∧
      ∀ claim ∈ call.granted reply, claim.record.key ∉ repository.inReview := by
  have unclaimed : ∀ claim ∈ call.granted reply, claim.record.key ∉ repository.inReview := by
    rintro claim member ⟨record, found, status⟩
    obtain ⟨before, there, claimed, _⟩ := moves.granted claim member
    obtain rfl : before = record := Option.some.inj (there.symm.trans found)
    rcases claimed.due with due | due
    · rw [due] at status
      cases status
    · rw [due] at status
      cases status
  refine ⟨fun key inReview => ?_, unclaimed⟩
  have change := moves.kept key fun claim member about => by
    rw [← about] at inReview
    exact unclaimed claim member inReview
  obtain ⟨record, found, status⟩ := inReview
  rw [found] at change
  generalize there : after.round key = later at change
  cases change with
  | kept => exact ⟨record, there, status⟩
  | ended named closed counted final => exact ⟨_, there, final status⟩
  | returned named planned open_ => exact absurd status open_

end RoundMoves

/-- The reference store counts attempts. -/
def memoryCounts (codec : Codec) : CountedStore (memoryRepository codec : Repository ω) where
  tally := MemoryRepository.tally
  reviewed := MemoryRepository.inReview
  Valid := MemoryRepository.Orderly
  counts orderly ran := by
    have moves := MemoryRepository.run_rounds orderly ran
    exact ⟨moves.orderly orderly, moves.counts orderly, moves.reviewed⟩

/-! ## The bound -/

/-- A store as servers leave it: its rounds are in order and no attempt is negative. -/
def MemoryRepository.Handed (repository : MemoryRepository) : Prop :=
  repository.Orderly ∧ ∀ key record, repository.round key = some record →
    0 ≤ record.walletApplyAttempts ∧ 0 ≤ record.walletLookupAttempts

theorem MemoryRepository.Handed.counted {repository : MemoryRepository}
    (handed : repository.Handed) :
    repository.Orderly ∧
      ∀ key, 0 ≤ (repository.tally key).applies ∧ 0 ≤ (repository.tally key).lookups := by
  refine ⟨handed.1, fun key => ?_⟩
  unfold MemoryRepository.tally
  cases found : repository.round key with
  | none => exact ⟨le_rfl, le_rfl⟩
  | some record => exact handed.2 key record found

theorem MemoryRepository.markClaim_reviewed {repository after : MemoryRepository} {clock : Clock}
    {world world' : ω} {claim : WalletRecoveryClaim} {reason : Bytes} {result : RoundRecord × Bool}
    (ran : MemoryRepository.run codec clock (.markClaimManualReview claim reason) repository world =
      (.ok result, after, world')) : claim.record.key ∈ after.inReview := by
  have called := MemoryRepository.run_pair ran
  rcases MemoryRepository.onSession_cases called with ⟨_, failed, _⟩ | ⟨entry, written, there, settled, rfl⟩
  · cases failed
  rcases settle_cases settled with ⟨done, ended, _⟩ | ⟨_, _, failed, _⟩ | ⟨_, _, failed⟩
  · simp only [MemorySession.transitionClaimFailure, bind_ok, require_ok, abortWhen_ok,
      exists_unit, pure_ok, Prod.mk.injEq] at ended
    obtain ⟨record, found, _, _, rfl⟩ := ended
    refine ⟨reviewedRecord record .manualReview reason (clock 0), ?_, rfl⟩
    exact (MemoryRepository.round_put there rfl claim.record.key).trans (if_pos rfl)
  · cases failed
  · cases failed

/-- The claim is beyond the limit of the coordinator. -/
def Coordinator.Beyond (coordinator : Coordinator ω) (claim : WalletRecoveryClaim) : Prop :=
  (claim.action = .apply ∧ claim.record.walletApplyAttempts > coordinator.maxWalletAttempts) ∨
    (claim.action = .lookup ∧ claim.record.walletLookupAttempts > coordinator.maxWalletAttempts)

/-- A claim beyond the limit is not called: its round is to be reviewed. -/
theorem reconcileClaim_beyond {coordinator : Coordinator ω} {claim : WalletRecoveryClaim}
    (valid : ¬ Coordinator.InvalidClaim claim) (open_ : terminalRoundResult claim.record = none)
    (beyond : coordinator.Beyond claim) :
    ∃ reason, coordinator.reconcileClaim claim = markClaimForManualReview claim reason [] := by
  unfold Coordinator.reconcileClaim
  rw [if_neg valid, open_]
  dsimp only
  rcases beyond with apply | lookup
  · exact ⟨_, if_pos apply⟩
  · have other : ¬ (claim.action = .apply ∧
        claim.record.walletApplyAttempts > coordinator.maxWalletAttempts) := by
      rw [lookup.1]
      rintro ⟨apply, _⟩
      cases apply
    exact ⟨_, (if_neg other).trans (if_pos lookup)⟩

/-- How often the wallet is called for a round, along every run of any number of threads:
the APPLY calls that may have left and the LOOKUP calls are within the limit, and each is
counted by the round, whose counters never become negative.  A claim beyond the limit is
not called; once its round is in review it stays there, and only threads that had a claim
of it before may still call. -/
theorem wallet_attempts_bounded (coordinator : Coordinator ω)
    {system : Servers (memoryRepository codec : Repository ω)}
    (reach : ServersReach coordinator (memoryRepository codec) MemoryRepository.Handed system) :
    (∀ key,
      (system.phases.countP (Errand.mayHaveApplied key) : Int) ≤ coordinator.maxWalletAttempts ∧
      (system.phases.countP (Errand.called key .lookup) : Int) ≤ coordinator.maxWalletAttempts) ∧
    (∀ key record, MemoryRepository.round system.shared.state key = some record →
      (system.phases.countP (Errand.mayHaveApplied key) : Int) ≤ record.walletApplyAttempts ∧
      (system.phases.countP (Errand.called key .lookup) : Int) ≤ record.walletLookupAttempts ∧
      0 ≤ record.walletApplyAttempts ∧ 0 ≤ record.walletLookupAttempts) ∧
    (∀ errand ∈ system.phases, ∀ claim, errand.claim = some claim → errand.asked = true →
      ¬ coordinator.Beyond claim) ∧
    (∀ claim, ¬ Coordinator.InvalidClaim claim → terminalRoundResult claim.record = none →
      coordinator.Beyond claim →
      ∃ reason, coordinator.reconcileClaim claim = markClaimForManualReview claim reason []) ∧
    (∀ clock claim reason result after world world',
      MemoryRepository.run codec clock (.markClaimManualReview claim reason) system.shared.state
        (world : ω) = (.ok result, after, world') → claim.record.key ∈ after.inReview) ∧
    ∀ key ∈ MemoryRepository.inReview system.shared.state, ∀ later,
      Relation.ReflTransGen (ServersStep coordinator (memoryRepository codec)) system later →
      key ∈ MemoryRepository.inReview later.shared.state ∧
        HeldBefore key system.phases later.phases := by
  have bounded := servers_bounded (memoryCounts codec)
    (fun _ handed => MemoryRepository.Handed.counted handed) reach
  refine ⟨fun key => ?_, fun key record found => ?_, ?_, ?_, ?_, ?_⟩
  · have positive := coordinator.attempts_positive.le
    exact ⟨(bounded.tickets key).applies.within positive fun errand member applied =>
        (bounded.proper errand member).apply_ticket applied,
      (bounded.tickets key).lookups.within positive fun errand member called =>
        (bounded.proper errand member).lookup_ticket called⟩
  · have tally : MemoryRepository.tally system.shared.state key = record.tally := by
      unfold MemoryRepository.tally
      rw [found]
      rfl
    have tickets : Tickets key system.phases record.tally := tally ▸ bounded.tickets key
    refine ⟨tickets.applies.covers fun errand member applied => ?_,
      tickets.lookups.covers fun errand member called => ?_, tickets.applies.nonneg,
      tickets.lookups.nonneg⟩
    · obtain ⟨drawn, held, _⟩ := (bounded.proper errand member).apply_ticket applied
      rw [held]
      rfl
    · obtain ⟨drawn, held, _⟩ := (bounded.proper errand member).lookup_ticket called
      rw [held]
      rfl
  · rintro errand member claim held asked (⟨apply, beyond⟩ | ⟨lookup, beyond⟩)
    · obtain ⟨other, held', within⟩ := (bounded.proper errand member).within asked
      obtain rfl : other = claim := Option.some.inj (held'.symm.trans held)
      rcases within with ⟨_, within⟩ | ⟨lookup, _⟩
      · omega
      · exact absurd (apply.symm.trans lookup) (by decide)
    · obtain ⟨other, held', within⟩ := (bounded.proper errand member).within asked
      obtain rfl : other = claim := Option.some.inj (held'.symm.trans held)
      rcases within with ⟨apply, _⟩ | ⟨_, within⟩
      · exact absurd (lookup.symm.trans apply) (by decide)
      · omega
  · exact fun claim valid open_ beyond => reconcileClaim_beyond valid open_ beyond
  · exact fun clock claim reason result after world world' ran =>
      MemoryRepository.markClaim_reviewed ran
  · exact fun key inReview later run => servers_reviewed (memoryCounts codec)
      (fun _ handed => MemoryRepository.Handed.counted handed) reach run inReview

theorem MemoryRepository.handed_of_rows {repository : MemoryRepository}
    (rows : ∀ row ∈ repository.sessions.rows, ∀ round ∈ row.2.rounds.rows,
      round.2.key = ⟨row.1.operatorID, row.1.sessionID, round.1⟩ ∧ round.2.walletPhase.Valid ∧
        0 ≤ round.2.walletApplyAttempts ∧ 0 ≤ round.2.walletLookupAttempts) :
    repository.Handed := by
  have each (key : RoundKey) (record : RoundRecord) (found : repository.round key = some record) :
      record.key = key ∧ record.walletPhase.Valid ∧ 0 ≤ record.walletApplyAttempts ∧
        0 ≤ record.walletLookupAttempts := by
    obtain ⟨entry, there, inside⟩ := Option.bind_eq_some_iff.mp found
    exact rows (key.session, entry) (Table.mem_rows.mpr there) (key.roundID, record)
      (Table.mem_rows.mpr inside)
  exact ⟨fun key record found => ⟨(each key record found).1, fun _ => (each key record found).2.1⟩,
    fun key record found => (each key record found).2.2⟩

/-- A coordinator that makes each call once. -/
def onceCoordinator : Coordinator Unit where
  codec := plainCodec
  definitions _ _ _ := .ok none
  gates := ⟨none, none⟩
  walletLease := Duration.second
  maxWalletAttempts := 1
  attempts_positive := by decide

/-- The store is read at `now`, and the wallet has no answer. -/
def unansweredAt (now : Time) (positive : 0 < now) :
    Oracle (memoryRepository plainCodec : Repository Unit) where
  env := ⟨fun _ => now, fun _ => positive⟩
  profile := .ok plainProfile
  resolution :=
    { status := .unknown
      receipt :=
        { operationID := "", fingerprint := "", transactionID := "", operatorID := ""
          currency := "", debitMinor := 0, creditMinor := 0, balanceMinor := 0 } }

def stalledKey : RoundKey := waitingKey "east" "s1"

/-- Three recoveries of one round, none of which has begun. -/
def threeRecoveries : Servers (memoryRepository plainCodec : Repository Unit) :=
  ⟨⟨storeOf [bookedSession stalledKey 1], ()⟩,
    List.replicate 3 (threadOf {} (onceCoordinator.reconcile stalledKey))⟩

/-- Two recoveries stall with their claims; the claim of the third is beyond the limit. -/
def reviewedServers : Servers (memoryRepository plainCodec : Repository Unit) :=
  let early := unansweredAt 10 (by decide)
  let middle := unansweredAt (2 * Duration.second) (by decide)
  let late := unansweredAt (4 * Duration.second) (by decide)
  Servers.turns threeRecoveries
    [(0, early), (0, early), (1, middle), (1, middle), (2, late), (2, late), (2, late)]

/-- The first recovery goes on. -/
def resumedServers : Servers (memoryRepository plainCodec : Repository Unit) :=
  let later := unansweredAt (5 * Duration.second) (by decide)
  Servers.turns reviewedServers [(0, later), (0, later)]

theorem reviewedServers_reach : ServersReach onceCoordinator (memoryRepository plainCodec)
    MemoryRepository.Handed reviewedServers := by
  have start (threads : List (CoordinatorThread Unit)) :
      ServersStep onceCoordinator (memoryRepository plainCodec)
        ⟨threeRecoveries.shared, threads⟩ ⟨threeRecoveries.shared,
          threads ++ [threadOf {} (onceCoordinator.reconcile stalledKey)]⟩ :=
    .started (.reconcile threeRecoveries.shared stalledKey)
  have handed : MemoryRepository.Handed threeRecoveries.shared.state :=
    MemoryRepository.handed_of_rows (by decide +kernel)
  refine ⟨⟨threeRecoveries.shared, []⟩, ⟨handed, rfl⟩, ?_⟩
  exact (((Relation.ReflTransGen.single (start [])).tail (start _)).tail (start _)).trans
    (Servers.turns_steps ..)

theorem resumedServers_steps : Relation.ReflTransGen
    (ServersStep onceCoordinator (memoryRepository plainCodec)) reviewedServers resumedServers :=
  Servers.turns_steps ..

/-- Its APPLY is the only one that may have left, within the limit. -/
theorem resumedServers_bounded :
    (resumedServers.phases.countP (Errand.mayHaveApplied stalledKey) : Int) ≤ 1 ∧
      (resumedServers.phases.countP (Errand.called stalledKey .lookup) : Int) ≤ 1 :=
  (wallet_attempts_bounded onceCoordinator
    ⟨_, reviewedServers_reach.choose_spec.1,
      reviewedServers_reach.choose_spec.2.trans resumedServers_steps⟩).1 stalledKey

/-- The limit was exceeded and the round is in review, and then the wallet is called. -/
theorem resumedServers_called :
    ServersReach onceCoordinator (memoryRepository plainCodec) MemoryRepository.Handed
        reviewedServers ∧
      Relation.ReflTransGen (ServersStep onceCoordinator (memoryRepository plainCodec))
        reviewedServers resumedServers ∧
      stalledKey ∈ MemoryRepository.inReview reviewedServers.shared.state ∧
      reviewedServers.phases.countP (Errand.called stalledKey .apply) = 0 ∧
      resumedServers.phases.countP (Errand.called stalledKey .apply) = 1 := by
  have calls : (MemoryRepository.round reviewedServers.shared.state stalledKey).map
        RoundRecord.status = some .manualReview ∧
      reviewedServers.phases.countP (Errand.called stalledKey .apply) = 0 ∧
      resumedServers.phases.countP (Errand.called stalledKey .apply) = 1 := by decide +kernel
  exact ⟨reviewedServers_reach, resumedServers_steps, Option.map_eq_some_iff.mp calls.1, calls.2⟩

end SlotsGame.Rgs
