/-
# SlotsGame.Rgs.MemoryContract -- the reference store keeps the contract

Every call of the reference store moves the session it names by one step of
`SlotsGame.Rgs.MemorySteps`.  A recovery pass visits the sessions that have a
round due; a session has at most one, so each of them takes one step.
-/
import SlotsGame.Rgs.MemorySteps

namespace SlotsGame.Rgs

open SlotsGame.Theory

set_option autoImplicit false

variable {ω : Type} {codec : Codec}

namespace MemoryRepository

variable {keys : Set RoundKey} {repository after : MemoryRepository} {clock : Clock} {α : Type}

theorem view_insert (repository : MemoryRepository) (target key : SessionKey)
    (entry : MemorySession) :
    ({ sessions := repository.sessions.insert target entry } : MemoryRepository).view key =
      if key = target then some entry.view else repository.view key := by
  simp only [view, Table.lookup_insert]
  split <;> rfl

theorem WellFormed.insert (formed : repository.WellFormed codec keys) {target : SessionKey}
    {entry : MemorySession} (written : entry.WellFormed codec keys target) :
    ({ sessions := repository.sessions.insert target entry } : MemoryRepository).WellFormed codec
      keys := by
  intro key entry' found
  rw [Table.lookup_insert] at found
  split at found
  case isTrue same =>
    subst same
    cases found
    exact written
  case isFalse => exact formed key entry' found

theorem onSession_cases {target : SessionKey}
    {program : MemorySession → Except (Abort MemorySession RgsError) (α × MemorySession)}
    {reply : Except RgsError α} (ran : repository.onSession target program = (reply, after)) :
    (repository.sessions.lookup target = none ∧ reply = .error { kind := .sessionNotFound } ∧
        after = repository) ∨
      ∃ entry entry', repository.sessions.lookup target = some entry ∧
        settle entry (program entry) = (reply, entry') ∧
        after = { sessions := repository.sessions.insert target entry' } := by
  unfold onSession at ran
  split at ran
  case _ missing =>
    cases ran
    exact .inl ⟨missing, rfl, rfl⟩
  case _ entry found =>
    cases ran
    exact .inr ⟨entry, _, found, rfl, rfl⟩

variable {call : RepositoryCall ω} {reply : Except RgsError call.Reply}

/-- A call that leaves the store alone. -/
theorem moves_unchanged
    (effect : ∀ key session, call.Effect id clock key session reply .idle) (key : SessionKey) :
    call.Moves id clock reply key (repository.view key) (repository.view key) := by
  cases repository.view key with
  | none => exact .absent
  | some session => exact .stepped session session .idle (effect key session) .idle

/-- A call on one session that has one step to take there. -/
theorem moves_session (call : RepositoryCall ω) {reply : Except RgsError call.Reply}
    (formed : repository.WellFormed codec keys) {target : SessionKey}
    {program : MemorySession → Except (Abort MemorySession RgsError) (call.Reply × MemorySession)}
    (ran : repository.onSession target program = (reply, after))
    (effect : ∀ key session event,
      ((target = key ∧ call.Reports id clock session reply event) ∨ (target ≠ key ∧ event = .idle)) →
        call.Effect id clock key session reply event)
    (step : ∀ entry entry', repository.sessions.lookup target = some entry →
      entry.WellFormed codec keys target → settle entry (program entry) = (reply, entry') →
      entry'.WellFormed codec keys target ∧
        ∃ event, call.Reports id clock entry.view reply event ∧ entry.view.Step event entry'.view) :
    after.WellFormed codec keys ∧
      ∀ key, call.Moves id clock reply key (repository.view key) (after.view key) := by
  rcases onSession_cases ran with ⟨missing, rfl, rfl⟩ | ⟨entry, entry', found, settled, rfl⟩
  · exact ⟨formed, moves_unchanged fun key session => call.effect_error id clock key session _⟩
  · obtain ⟨formed', event, reports, steps⟩ := step entry entry' found (formed target entry found) settled
    refine ⟨formed.insert formed', ?_⟩
    intro key
    rw [view_insert]
    by_cases same : key = target
    · subst same
      rw [if_pos rfl, view, found, Option.map_some]
      exact .stepped entry.view entry'.view event (effect key _ _ (.inl ⟨rfl, reports⟩)) steps
    · rw [if_neg same]
      cases repository.view key with
      | none => exact .absent
      | some session =>
          exact .stepped session session .idle (effect key session _ (.inr ⟨Ne.symm same, rfl⟩)) .idle

/-! ## Due rounds -/

section Recovery

variable {now : Time}

theorem mem_dueRounds {candidate : RecoveryCandidate} :
    candidate ∈ repository.dueRounds now ↔
      ∃ entry id record, repository.sessions.lookup candidate.session = some entry ∧
        entry.rounds.lookup id = some record ∧
        candidate.record = normalizeLegacyRecoveryState record ∧
        RecoveryRecordDue candidate.record entry.session now := by
  simp only [dueRounds, List.mem_flatMap, List.mem_filter, List.mem_map, decide_eq_true_eq,
    Prod.exists]
  constructor
  · rintro ⟨key, entry, there, ⟨id, record, found, rfl⟩, due⟩
    exact ⟨entry, id, record, Table.mem_rows.mp there, Table.mem_rows.mp found, rfl, due⟩
  · rintro ⟨entry, id, record, there, found, same, due⟩
    refine ⟨candidate.session, entry, Table.mem_rows.mpr there, ⟨id, record, Table.mem_rows.mpr found, ?_⟩, due⟩
    rw [← same]

/-- Every round is stored under its own key. -/
def Keyed (repository : MemoryRepository) : Prop :=
  ∀ key entry, repository.sessions.lookup key = some entry →
    ∀ id record, entry.rounds.lookup id = some record → record.key = ⟨key.operatorID, key.sessionID, id⟩

theorem WellFormed.keyed (formed : repository.WellFormed codec keys) : repository.Keyed :=
  fun key entry there id record found => ((formed key entry there).named id record found).key

/-- A session has one pending round, so it has at most one that is due. -/
theorem Keyed.dueRounds_distinct (keyed : repository.Keyed) (now : Time) :
    (repository.dueRounds now).Pairwise fun left right => left.session ≠ right.session := by
  rw [dueRounds, List.pairwise_flatMap]
  constructor
  · rintro ⟨key, entry⟩ there
    have name {id : String} {record : RoundRecord} (found : (id, record) ∈ entry.rounds.rows)
        (due : RecoveryRecordDue (normalizeLegacyRecoveryState record) entry.session now) :
        entry.session.pendingRoundID = id := by
      rw [due.1.2.2.1, (normalize_kept record).2.1,
        keyed key entry (Table.mem_rows.mp there) id record (Table.mem_rows.mp found)]
    rw [List.pairwise_filter, List.pairwise_map]
    refine entry.rounds.rows_distinct.imp_of_mem ?_
    rintro ⟨id, record⟩ ⟨other, third⟩ found found' different due due'
    exact absurd ((name found (of_decide_eq_true due)).symm.trans
      (name found' (of_decide_eq_true due'))) different
  · refine repository.sessions.rows_distinct.imp ?_
    rintro ⟨key, entry⟩ ⟨key', entry'⟩ different candidate member candidate' member'
    simp only [List.mem_filter, List.mem_map] at member member'
    obtain ⟨⟨_, _, rfl⟩, _⟩ := member
    obtain ⟨⟨_, _, rfl⟩, _⟩ := member'
    exact different

theorem rankRounds_candidates (candidates : List RecoveryCandidate) (operatorID : String) :
    (rankRounds candidates operatorID).map (·.2) =
      (candidates.filter fun candidate => candidate.record.key.operatorID = operatorID).mergeSort
        RecoveryCandidate.before := by
  rw [rankRounds, List.map_map]
  exact List.zipIdx_map_fst 1 _

/-- Ranking drops and duplicates nothing; only the limit drops. -/
theorem recoveryCandidates_subperm (candidates : List RecoveryCandidate) (limit : Nat) :
    ∃ ranked, (recoveryCandidates candidates limit).Sublist ranked ∧
      ranked.Perm ((candidates.map fun candidate => candidate.record.key.operatorID).dedup.flatMap
        fun operatorID => candidates.filter fun candidate =>
          candidate.record.key.operatorID = operatorID) := by
  refine ⟨_, List.take_sublist _ _, ?_⟩
  refine ((List.mergeSort_perm _ rankedBefore).map (·.2)).trans ?_
  rw [List.map_flatMap]
  refine List.Perm.flatMap_left _ ?_
  intro operatorID _
  rw [rankRounds_candidates]
  exact List.mergeSort_perm _ _

theorem mem_recoveryCandidates {candidates : List RecoveryCandidate} {limit : Nat}
    {candidate : RecoveryCandidate} (member : candidate ∈ recoveryCandidates candidates limit) :
    candidate ∈ candidates := by
  obtain ⟨ranked, sublist, perm⟩ := recoveryCandidates_subperm candidates limit
  have there := perm.mem_iff.mp (sublist.subset member)
  obtain ⟨_, _, filtered⟩ := List.mem_flatMap.mp there
  exact List.mem_of_mem_filter filtered

theorem recoveryCandidates_distinct {candidates : List RecoveryCandidate} (limit : Nat)
    (distinct : candidates.Pairwise fun left right => left.session ≠ right.session)
    (operated : ∀ candidate ∈ candidates,
      candidate.record.key.operatorID = candidate.session.operatorID) :
    (recoveryCandidates candidates limit).Pairwise fun left right =>
      left.session ≠ right.session := by
  obtain ⟨ranked, sublist, perm⟩ := recoveryCandidates_subperm candidates limit
  refine List.Pairwise.sublist sublist ((perm.pairwise_iff fun different => Ne.symm different).mpr ?_)
  rw [List.pairwise_flatMap]
  constructor
  · intro _ _
    exact distinct.filter _
  · refine (List.nodup_dedup _).imp ?_
    intro left right different candidate member candidate' member' same
    rw [List.mem_filter] at member member'
    have operator := of_decide_eq_true member.2
    have operator' := of_decide_eq_true member'.2
    rw [operated candidate member.1] at operator
    rw [operated candidate' member'.1] at operator'
    exact different (operator.symm.trans ((congrArg SessionKey.operatorID same).trans operator'))

/-! ## A recovery pass -/

/-- What is known of a candidate before any of them is claimed. -/
structure Claimable (codec : Codec) (repository : MemoryRepository) (now : Time)
    (candidate : RecoveryCandidate) : Prop where
  due : candidate ∈ repository.dueRounds now
  bound : ∀ entry, repository.sessions.lookup candidate.session = some entry →
    validateWalletRecoveryMemoryBinding codec entry candidate.record = .ok ()

theorem checkCandidate_bound {quarantineNow : Time} {candidate : RecoveryCandidate}
    (checked : repository.checkCandidate codec quarantineNow candidate = .ok ()) (entry : MemorySession)
    (there : repository.sessions.lookup candidate.session = some entry) :
    validateWalletRecoveryMemoryBinding codec entry candidate.record = .ok () := by
  simp only [checkCandidate, there, bind_ok, require_ok, Option.some.injEq] at checked
  obtain ⟨_, rfl, checked⟩ := checked
  split at checked
  · cases checked
  case isFalse bound => exact not_not.mp bound

/-- The sessions of `visited` were claimed, each of them once. -/
structure Recovered (codec : Codec) (keys : Set RoundKey) (clock : Clock)
    (leaseDuration : Duration) (repository : MemoryRepository) (visited : List RecoveryCandidate)
    (claimed : List WalletRecoveryClaim × MemoryRepository) : Prop where
  formed : claimed.2.WellFormed codec keys
  once : (claimed.1.map fun claim => claim.record.key.session).Sublist (visited.map (·.session))
  kept : ∀ key, (∀ claim ∈ claimed.1, claim.record.key.session ≠ key) →
    claimed.2.sessions.lookup key = repository.sessions.lookup key
  granted : ∀ claim ∈ claimed.1, ∃ entry entry' event,
    repository.sessions.lookup claim.record.key.session = some entry ∧
    claimed.2.sessions.lookup claim.record.key.session = some entry' ∧
    entry.view.Grants id clock leaseDuration claim event ∧ entry.view.Step event entry'.view

theorem normalize_twice (record : RoundRecord) :
    normalizeLegacyRecoveryState (normalizeLegacyRecoveryState record) =
      normalizeLegacyRecoveryState record := by
  by_cases valid : record.walletPhase.Valid
  · rw [normalize_of_valid valid, normalize_of_valid valid]
  · by_cases claimable : record.status = .prepared ∨ record.status = .walletPending
    · refine normalize_of_valid ?_
      simp only [normalizeLegacyRecoveryState, if_neg valid, if_pos claimable]
      split
      · exact .inl rfl
      · exact .inr rfl
    · rw [not_or] at claimable
      have closed := normalize_of_closed claimable.1 claimable.2
      rw [closed, closed]

/-- Claiming one more candidate. -/
theorem Recovered.claim (formed : repository.WellFormed codec keys) {leaseDuration : Duration}
    (lease : 0 < leaseDuration) {visited : List RecoveryCandidate} {candidate : RecoveryCandidate}
    {claimed : List WalletRecoveryClaim × MemoryRepository}
    (recovered : Recovered codec keys clock leaseDuration repository visited claimed)
    (claimable : Claimable codec repository (clock 0) candidate)
    (unvisited : ∀ other ∈ visited, other.session ≠ candidate.session) :
    ∃ next, claimCandidate (clock 0) leaseDuration claimed candidate = .ok next ∧
      Recovered codec keys clock leaseDuration repository (visited ++ [candidate]) next := by
  obtain ⟨entry, id, record, there, found, copy, _⟩ := mem_dueRounds.mp claimable.due
  have wellFormed := formed candidate.session entry there
  have fresh : ∀ claim ∈ claimed.1, claim.record.key.session ≠ candidate.session := by
    intro claim member same
    obtain ⟨other, visitedOther, about⟩ :=
      List.mem_map.mp (recovered.once.subset (List.mem_map.mpr ⟨claim, member, rfl⟩))
    exact unvisited other visitedOther (about.trans same)
  have current : claimed.2.sessions.lookup candidate.session = some entry :=
    (recovered.kept candidate.session fresh).trans there
  have sameKey : candidate.record.key = record.key := by rw [copy, (normalize_kept record).2.1]
  obtain ⟨granted, ran⟩ := MemorySession.claimMemoryWallet_ok candidate.record entry.session (clock 0) leaseDuration
  simp only [claimCandidate, current, require, bind_ok, exists_eq_left', Except.ok.injEq, ran]
  cases granted with
  | none =>
      refine ⟨claimed, rfl, recovered.formed, ?_, recovered.kept, recovered.granted⟩
      rw [List.map_append]
      exact recovered.once.trans (List.sublist_append_left _ _)
  | some claim =>
      obtain ⟨key', until_, command, profile, formed', step⟩ := MemorySession.claim_step wellFormed found
        (by rw [copy, normalize_twice])
        (wellFormed.undetermined found sameKey (claimable.bound entry there)) ran (clock.positive 0)
        lease
      rw [(wellFormed.named id record found).key] at key'
      have session : claim.record.key.session = candidate.session := by rw [key']; rfl
      have roundID : claim.record.key.roundID = id := by rw [key']
      subst roundID
      refine ⟨_, rfl, recovered.formed.insert formed', ?_, ?_, ?_⟩
      · rw [List.map_append, List.map_append, List.map_singleton, List.map_singleton, session]
        exact recovered.once.append (List.Sublist.refl _)
      · intro key untouched
        rw [Table.lookup_insert, if_neg ?_]
        · exact recovered.kept key fun other member =>
            untouched other (List.mem_append_left _ member)
        · rintro rfl
          exact untouched claim (List.mem_append_right _ (List.mem_singleton.mpr rfl)) session
      · intro other member
        rcases List.mem_append.mp member with old | new
        · obtain ⟨before, after, event, was, is_, facts⟩ := recovered.granted other old
          refine ⟨before, after, event, was, ?_, facts⟩
          rw [Table.lookup_insert, if_neg (fresh other old), is_]
        · rw [List.mem_singleton.mp new, session]
          refine ⟨entry, _, _, there, (Table.lookup_insert _ _ _ _).trans (if_pos rfl), ?_, step⟩
          refine ⟨⟨0, until_, rfl⟩, ?_⟩
          intro round seen
          rw [MemorySession.view_found found, Option.some.injEq] at seen
          subst seen
          exact ⟨command, profile⟩

/-- Once every candidate is checked, all of them are claimed. -/
theorem claimCandidates_recovered (formed : repository.WellFormed codec keys)
    {leaseDuration : Duration} (lease : 0 < leaseDuration) {candidates : List RecoveryCandidate}
    (distinct : candidates.Pairwise fun left right => left.session ≠ right.session)
    (claimable : ∀ candidate ∈ candidates, Claimable codec repository (clock 0) candidate) :
    ∃ claimed, candidates.foldlM (claimCandidate (clock 0) leaseDuration) ([], repository) =
        .ok claimed ∧
      Recovered codec keys clock leaseDuration repository candidates claimed := by
  refine foldlM_ok_of (Recovered codec keys clock leaseDuration repository) ?_ ?_
  · refine ⟨formed, List.Sublist.slnil, fun _ _ => rfl, ?_⟩
    intro claim member
    cases member
  · rintro before candidate claimed ⟨rest, rfl⟩ recovered
    refine recovered.claim formed lease (claimable candidate (by simp)) ?_
    intro other member
    exact (List.pairwise_append.mp distinct).2.2 other member candidate List.mem_cons_self

/-- What a pass leaves of each session. -/
theorem Recovered.moves {leaseDuration : Duration} {limit : Int} {visited : List RecoveryCandidate}
    {claims : List WalletRecoveryClaim}
    (recovered : Recovered codec keys clock leaseDuration repository visited (claims, after))
    (key : SessionKey) :
    (RepositoryCall.claimRecoverableRounds limit leaseDuration : RepositoryCall ω).Moves id clock
      (.ok claims) key (repository.view key) (after.view key) := by
  by_cases claimed : ∃ claim ∈ claims, claim.record.key.session = key
  · obtain ⟨claim, member, rfl⟩ := claimed
    obtain ⟨entry, entry', event, was, is_, grants, step⟩ := recovered.granted claim member
    rw [view, view, was, is_, Option.map_some, Option.map_some]
    exact .stepped _ _ event (.granted claim event member rfl grants) step
  · have untouched : ∀ claim ∈ claims, claim.record.key.session ≠ key :=
      fun claim member same => claimed ⟨claim, member, same⟩
    rw [view, view, recovered.kept key untouched]
    cases repository.sessions.lookup key with
    | none => exact .absent
    | some entry => exact .stepped _ _ .idle (.untouched untouched) .idle

/-- A candidate that does not add up is isolated. -/
theorem checkCandidate_committed (formed : repository.WellFormed codec keys) {quarantineNow : Time}
    {candidate : RecoveryCandidate} {error : RgsError} {limit : Int} {leaseDuration : Duration}
    (due : candidate ∈ repository.dueRounds (clock 0))
    (stopped : repository.checkCandidate codec quarantineNow candidate =
      .error (.committed error after)) :
    after.WellFormed codec keys ∧
      ∀ key, (RepositoryCall.claimRecoverableRounds limit leaseDuration : RepositoryCall ω).Moves id
        clock (.error error) key (repository.view key) (after.view key) := by
  obtain ⟨entry, id, record, there, found, copy, scheduled, _⟩ := mem_dueRounds.mp due
  have wellFormed := formed candidate.session entry there
  simp only [checkCandidate, there, bind_committed, require_committed, require_ok, false_or,
    Option.some.injEq] at stopped
  obtain ⟨_, rfl, stopped⟩ := stopped
  split at stopped
  case isFalse => exact absurd stopped pure_committed
  case isTrue =>
    cases stopped
    have claimable : record.status = .prepared ∨ record.status = .walletPending := by
      rw [← (normalize_kept record).1, ← copy]
      exact scheduled.1.1
    have roundID : candidate.record.key.roundID = id := by
      rw [copy, (normalize_kept record).2.1, (wellFormed.named id record found).key]
    rw [roundID]
    obtain ⟨formed', step⟩ := MemorySession.quarantine_step wellFormed found claimable quarantineNow
    refine ⟨formed.insert formed', ?_⟩
    intro key
    rw [view_insert]
    split
    case isTrue same =>
      subst same
      rw [view, there, Option.map_some]
      exact .stepped _ _ (.isolated id) (.isolated id) step
    case isFalse =>
      cases repository.view key with
      | none => exact .absent
      | some session => exact .stepped session session .idle .idle .idle

theorem recover_moves (formed : repository.WellFormed codec keys) {limit : Int}
    {leaseDuration : Duration} {reply : Except RgsError (List WalletRecoveryClaim)}
    (settled : settle repository (repository.claimRecoverableRounds codec limit leaseDuration (clock 0)
      (clock 1)) = (reply, after)) :
    after.WellFormed codec keys ∧
      (∀ key, (RepositoryCall.claimRecoverableRounds limit leaseDuration :
        RepositoryCall ω).Moves id clock reply key (repository.view key) (after.view key)) ∧
      ((RepositoryCall.claimRecoverableRounds limit leaseDuration : RepositoryCall ω).granted
        reply |>.map fun claim => claim.record.key.session).Nodup := by
  set candidates := recoveryCandidates (repository.dueRounds (clock 0)) limit.toNat
  have operated : ∀ candidate ∈ repository.dueRounds (clock 0),
      candidate.record.key.operatorID = candidate.session.operatorID := by
    intro candidate member
    obtain ⟨entry, id, record, there, found, copy, _⟩ := mem_dueRounds.mp member
    rw [copy, (normalize_kept record).2.1, ((formed _ entry there).named id record found).key]
  have distinct : candidates.Pairwise fun left right => left.session ≠ right.session :=
    recoveryCandidates_distinct limit.toNat (formed.keyed.dueRounds_distinct (clock 0)) operated
  -- once the checks pass, the claims are made
  have recovered (accepted : validateRecoveryBatch limit leaseDuration = .ok ())
      (checked : ∀ candidate ∈ candidates,
        repository.checkCandidate codec (clock 1) candidate = .ok ()) :
      ∃ claimed, candidates.foldlM (claimCandidate (clock 0) leaseDuration) ([], repository) =
          .ok claimed ∧
        Recovered codec keys clock leaseDuration repository candidates claimed := by
    simp only [validateRecoveryBatch, refuse_ok, not_or, not_le] at accepted
    exact claimCandidates_recovered formed accepted.2.2.1 distinct fun candidate member =>
      ⟨mem_recoveryCandidates member, checkCandidate_bound (checked candidate member)⟩
  rcases settle_cases settled with ⟨claims, done, rfl⟩ | ⟨error, _, rfl, rfl⟩ | ⟨error, stopped, rfl⟩
  · simp only [claimRecoverableRounds, bind_ok, check_ok, exists_unit, forM_ok] at done
    obtain ⟨accepted, checked, done⟩ := done
    obtain ⟨claimed, ran, recovered⟩ := recovered accepted checked
    obtain rfl : claimed = (claims, after) := Except.ok.inj (ran.symm.trans done)
    refine ⟨recovered.formed, recovered.moves, ?_⟩
    exact List.Nodup.sublist recovered.once (List.pairwise_map.mpr distinct)
  · exact ⟨formed, moves_unchanged fun key session => .idle, List.nodup_nil⟩
  · simp only [claimRecoverableRounds, bind_committed, check_committed, check_ok, exists_unit,
      false_or, forM_ok] at stopped
    obtain ⟨accepted, bad | ⟨checked, ran⟩⟩ := stopped
    · obtain ⟨candidate, member, stopped⟩ := forM_committed bad
      obtain ⟨formed', moves⟩ :=
        checkCandidate_committed formed (mem_recoveryCandidates member) stopped
      exact ⟨formed', moves, List.nodup_nil⟩
    · obtain ⟨claimed, done, _⟩ := recovered accepted checked
      rw [done] at ran
      cases ran

end Recovery

/-! ## Every call -/

/-- The round keys a call may add to the store. -/
def Uses (keys : Set RoundKey) : RepositoryCall ω → Prop
  | .prepareRound request _ _ _ => request.key ∈ keys
  | _ => True

/-- A call on one session that writes nothing before it fails. -/
theorem moves_atomic (call : RepositoryCall ω) {reply : Except RgsError call.Reply}
    (formed : repository.WellFormed codec keys) {target : SessionKey}
    {program : MemorySession → Except (Abort MemorySession RgsError) (call.Reply × MemorySession)}
    (ran : repository.onSession target program = (reply, after))
    (atomic : ∀ entry, Atomic (program entry))
    (effect : ∀ key session event,
      ((target = key ∧ call.Reports id clock session reply event) ∨ (target ≠ key ∧ event = .idle)) →
        call.Effect id clock key session reply event)
    (failing : ∀ error session, call.Reports id clock session (.error error) .idle)
    (step : ∀ entry entry' result, repository.sessions.lookup target = some entry →
      entry.WellFormed codec keys target → program entry = .ok (result, entry') →
      entry'.WellFormed codec keys target ∧
        ∃ event, call.Reports id clock entry.view (.ok result) event ∧
          entry.view.Step event entry'.view) :
    after.WellFormed codec keys ∧
      ∀ key, call.Moves id clock reply key (repository.view key) (after.view key) := by
  refine moves_session call formed ran effect ?_
  intro entry entry' found wellFormed settled
  rcases settle_atomic (atomic entry) settled with ⟨result, done, rfl⟩ | ⟨error, rfl, rfl⟩
  · exact step entry entry' result found wellFormed done
  · exact ⟨wellFormed, .idle, failing error _, .idle⟩

theorem createSession_moves (formed : repository.WellFormed codec keys) {session : Session}
    {reply : Except RgsError Unit}
    (settled : settle repository (repository.createSession session) = (reply, after)) :
    after.WellFormed codec keys ∧
      ∀ key, (RepositoryCall.createSession session : RepositoryCall ω).Moves id clock reply key
        (repository.view key) (after.view key) := by
  have atomic : Atomic (repository.createSession session) :=
    .bind (.check _) fun _ => .bind (.abortWhen _ _) fun _ => .bind (.abortWhen _ _) fun _ => .pure _
  rcases settle_atomic atomic settled with ⟨_, done, rfl⟩ | ⟨error, rfl, rfl⟩
  · simp only [createSession, bind_ok, check_ok, abortWhen_ok, exists_unit, not_not, pure_ok,
      Prod.mk.injEq, true_and, ne_eq] at done
    obtain ⟨valid, free, absent, rfl⟩ := done
    refine ⟨formed.insert ⟨?_, ?_⟩, ?_⟩
    · intro id record found
      cases found
    · intro id record found
      cases found
    · intro key
      rw [view_insert]
      by_cases same : key = session.key
      · subst same
        have created : (MemorySession.create session).view = .created session :=
          SessionView.ext rfl free rfl rfl rfl rfl rfl
        rw [if_pos rfl, view, absent, created]
        exact .created session rfl rfl valid
      · rw [if_neg same]
        cases repository.view key with
        | none => exact .absent
        | some view => exact .stepped view view .idle (.inr ⟨Ne.symm same, rfl⟩) .idle
  · exact ⟨formed, moves_unchanged fun key session => RepositoryCall.effect_error _ _ _ _ _ error⟩

theorem readSession_moves {target : SessionKey}
    {program : MemorySession → Except RgsError call.Reply}
    (ran : repository.readSession target program = (reply, after))
    (effect : ∀ key session, call.Effect id clock key session reply .idle) :
    after = repository ∧
      ∀ key, call.Moves id clock reply key (repository.view key) (after.view key) := by
  unfold readSession at ran
  have same : after = repository := by
    split at ran <;> cases ran <;> rfl
  subst same
  exact ⟨rfl, moves_unchanged effect⟩

theorem afterCheck_cases {checked : Except RgsError Unit} {program : Except RgsError α × MemoryRepository}
    {reply : Except RgsError α} (ran : repository.afterCheck checked program = (reply, after)) :
    (∃ error, reply = .error error ∧ after = repository) ∨
      (checked = .ok () ∧ program = (reply, after)) := by
  cases checked with
  | error error =>
      cases ran
      exact .inl ⟨error, rfl, rfl⟩
  | ok => exact .inr ⟨rfl, ran⟩

theorem claimWallet_moves (formed : repository.WellFormed codec keys) {target : RoundKey}
    {leaseDuration : Duration} (accepted : validateLeaseDuration leaseDuration = .ok ())
    {reply : Except RgsError (WalletRecoveryClaim × Bool)}
    (ran : repository.onSession target.session (fun entry =>
      entry.claimWallet codec target.roundID leaseDuration (clock 0) (clock 0)) = (reply, after)) :
    after.WellFormed codec keys ∧
      ∀ key, (RepositoryCall.claimWallet target leaseDuration : RepositoryCall ω).Moves id clock reply
        key (repository.view key) (after.view key) := by
  simp only [validateLeaseDuration, refuse_ok, not_or, not_le] at accepted
  refine moves_session (.claimWallet target leaseDuration) formed ran (fun _ _ _ done => done) ?_
  intro entry entry' _ wellFormed settled
  rcases settle_cases settled with ⟨result, done, rfl⟩ | ⟨error, _, rfl, rfl⟩ | ⟨error, stopped, rfl⟩
  · obtain ⟨formed', ⟨refused, rfl⟩ | ⟨granted, record, found, sameKey, until_, command, profile, step⟩⟩ :=
      MemorySession.claimWallet_ok wellFormed done (clock.positive 0) accepted.1
    · refine ⟨formed', .idle, ?_, .idle⟩
      obtain ⟨claim, _⟩ := result
      subst refused
      exact .idle
    · refine ⟨formed', _, ?_, step⟩
      obtain ⟨claim, _⟩ := result
      subst granted
      have named : claim.record.key = target := sameKey.trans (wellFormed.named _ record found).key
      refine ⟨named, ⟨0, until_, ?_⟩, ?_⟩
      · rw [named]
        rfl
      · intro round seen
        rw [named, MemorySession.view_found found, Option.some.injEq] at seen
        subst seen
        exact ⟨command, profile⟩
  · exact ⟨wellFormed, .idle, .idle, .idle⟩
  · obtain ⟨formed', step⟩ := MemorySession.claimWallet_committed wellFormed stopped
    exact ⟨formed', _, .isolated _, step⟩

theorem prepareRound_moves (distinct : Distinct codec keys)
    (formed : repository.WellFormed codec keys) {request : SpinRequest} {fingerprint : String}
    {walletProfile : Profile} {prepare : PrepareOutcome ω} {world world' : ω}
    {reply : Except RgsError (RoundRecord × Bool)} (used : request.key ∈ keys)
    (ran : repository.prepareRound codec request fingerprint walletProfile prepare clock world =
      (reply, after, world')) :
    after.WellFormed codec keys ∧
      ∀ key, (RepositoryCall.prepareRound request fingerprint walletProfile prepare).Moves id clock
        reply key (repository.view key) (after.view key) := by
  have refused (error : RgsError) (key : SessionKey) :
      (RepositoryCall.prepareRound request fingerprint walletProfile prepare).Moves id clock
        (.error error) key (repository.view key) (repository.view key) :=
    moves_unchanged (fun key session => RepositoryCall.effect_error _ _ _ _ _ error) key
  simp only [prepareRound] at ran
  split at ran
  · cases ran
    exact ⟨formed, refused _⟩
  · cases ran
    exact ⟨formed, refused _⟩
  case _ entry accepted there =>
    split at ran
    · cases ran
      exact ⟨formed, refused _⟩
    · cases ran
      refine ⟨formed, moves_unchanged fun key session => ?_⟩
      by_cases concerns : request.key.session = key
      · exact .inl ⟨concerns, .idle⟩
      · exact .inr ⟨concerns, rfl⟩
    case _ admitted =>
      split at ran
      · cases ran
        exact ⟨formed, refused _⟩
      case _ result _ =>
        cases ran
        have named : request.roundID ≠ "" := by
          intro empty
          simp only [validatePrepareArguments, validateSpinRequest, validateIdentifiers, bind_ok,
            exists_unit, forM_ok, refuse_ok] at accepted
          have checked := accepted.1.1 ("roundId", request.roundID) (by simp)
          rw [empty] at checked
          exact checked (by decide)
        refine moves_atomic (.prepareRound request fingerprint walletProfile prepare) formed
          rfl ?_ (fun _ _ _ done => done) (fun _ _ => .idle) ?_
        · intro entry
          exact .bind (.check _) fun _ => .bind (.check _) fun _ => .pure _
        · intro other entry' result found wellFormed done
          obtain rfl : other = entry := Option.some.inj (found.symm.trans there)
          obtain ⟨formed', fresh, sameKey, round, step, facts⟩ := MemorySession.persist_step wellFormed
            distinct rfl used named (MemorySession.admitRound_fresh admitted) done
          refine ⟨formed', _, ?_, step⟩
          obtain ⟨record, _⟩ := result
          subst fresh
          exact ⟨round, rfl, sameKey, facts⟩

theorem run_pair {X : α × MemoryRepository} {a : α} {world world' : ω}
    (ran : (match X with | (reply, repository) => (reply, repository, world)) = (a, after, world')) :
    X = (a, after) := by
  obtain ⟨reply, repository⟩ := X
  cases ran
  rfl

/-- Every call of the store is one step of each session it is about. -/
theorem run_moves (distinct : Distinct codec keys) (formed : repository.WellFormed codec keys)
    {world world' : ω} (uses : Uses keys call)
    (ran : MemoryRepository.run codec clock call repository world = (reply, after, world')) :
    after.WellFormed codec keys ∧
      (∀ key, call.Moves id clock reply key (repository.view key) (after.view key)) ∧
      ((call.granted reply).map fun claim => claim.record.key.session).Nodup := by
  -- a read reports nothing and changes nothing
  have read {call : RepositoryCall ω} {reply : Except RgsError call.Reply} {target : SessionKey}
      {program : MemorySession → Except RgsError call.Reply}
      (ran : repository.readSession target program = (reply, after))
      (effect : ∀ key session, call.Effect id clock key session reply .idle) :
      after.WellFormed codec keys ∧
        ∀ key, call.Moves id clock reply key (repository.view key) (after.view key) := by
    obtain ⟨rfl, moves⟩ := readSession_moves ran effect
    exact ⟨formed, moves⟩
  have failed {call : RepositoryCall ω} (error : RgsError) :
      repository.WellFormed codec keys ∧
        ∀ key, call.Moves id clock (.error error) key (repository.view key) (repository.view key) :=
    ⟨formed, moves_unchanged fun key session => RepositoryCall.effect_error _ _ _ _ _ error⟩
  -- an upkeep of the named session is the effect of a call that reports nothing
  have quiet {target key : SessionKey} :
      (target = key ∧ Event.IsUpkeep .idle) ∨ (target ≠ key ∧ Event.idle = .idle) := by
    by_cases same : target = key
    · exact .inl ⟨same, .idle⟩
    · exact .inr ⟨same, rfl⟩
  cases call with
  | createSession session =>
      obtain ⟨formed', moves⟩ := createSession_moves formed (run_pair ran)
      exact ⟨formed', moves, List.nodup_nil⟩
  | getSession target =>
      obtain ⟨formed', moves⟩ := @read (.getSession target) reply _ _ (run_pair ran) fun _ _ => quiet
      exact ⟨formed', moves, List.nodup_nil⟩
  | authorizeSessionRelaunch target =>
      obtain ⟨formed', moves⟩ := @read (.authorizeSessionRelaunch target) reply _ _ (run_pair ran) fun _ _ => quiet
      exact ⟨formed', moves, List.nodup_nil⟩
  | resetSessionTransport target idleDisconnect =>
      refine and_assoc.mp ⟨?_, List.nodup_nil⟩
      rcases afterCheck_cases (run_pair ran) with ⟨error, rfl, rfl⟩ | ⟨_, ran⟩
      · exact failed error
      · refine moves_atomic _ formed ran ?_ (fun _ _ _ done => done) (fun _ _ => .idle) ?_
        · intro entry
          exact .bind (.check _) fun _ => .bind (.abortWhen _ _) fun _ => .pure _
        · intro entry entry' session _ wellFormed done
          obtain ⟨view, rounds, ledger⟩ := MemorySession.resetTransport_view done
          refine ⟨⟨by rw [rounds]; exact wellFormed.named, ?_⟩, .idle, .idle, by rw [view]; exact .idle⟩
          rw [rounds, ledger]
          exact wellFormed.ledger
  | authorizeSessionTransport target transportGeneration allowIdleRecovery =>
      refine and_assoc.mp ⟨?_, List.nodup_nil⟩
      refine moves_atomic _ formed (run_pair ran) ?_ (fun _ _ _ done => done) (fun _ _ => .idle) ?_
      · intro entry
        exact .bind (.abortWhen _ _) fun _ => .bind (.check _) fun _ =>
          .bind (.abortWhen _ _) fun _ => .pure _
      · intro entry entry' session _ wellFormed done
        obtain ⟨view, rounds, ledger⟩ := MemorySession.authorizeTransport_view done
        refine ⟨⟨by rw [rounds]; exact wellFormed.named, ?_⟩, .idle, .idle, by rw [view]; exact .idle⟩
        rw [rounds, ledger]
        exact wellFormed.ledger
  | getRound target =>
      obtain ⟨formed', moves⟩ := @read (.getRound target) reply _ _ (run_pair ran) fun _ _ => quiet
      exact ⟨formed', moves, List.nodup_nil⟩
  | getPendingResultDelivery target =>
      obtain ⟨formed', moves⟩ := @read (.getPendingResultDelivery target) reply _ _ (run_pair ran) fun _ _ => quiet
      exact ⟨formed', moves, List.nodup_nil⟩
  | acknowledgeResultDelivery receipt =>
      refine and_assoc.mp ⟨?_, List.nodup_nil⟩
      rcases afterCheck_cases (run_pair ran) with ⟨error, rfl, rfl⟩ | ⟨_, ran⟩
      · exact failed error
      · refine moves_atomic _ formed ran ?_ (fun _ _ _ done => done) (fun _ _ => .idle) ?_
        · intro entry
          refine .bind (.abortWhen _ _) fun _ => .bind (.require _ _) fun _ =>
            .bind (.abortWhen _ _) fun _ => ?_
          split
          · exact .pure _
          · exact .pure _
        · intro entry entry' result _ wellFormed done
          obtain ⟨delivery, fresh⟩ := result
          obtain ⟨formed', ⟨rfl, rfl⟩ | ⟨rfl, step | same⟩⟩ :=
            MemorySession.acknowledge_step wellFormed done (clock.positive 0)
          · exact ⟨formed', .idle, .idle, .idle⟩
          · exact ⟨formed', _, .inl rfl, step⟩
          · exact ⟨formed', .idle, .inr .idle, by rw [same]; exact .idle⟩
  | prepareRound request fingerprint walletProfile prepare =>
      obtain ⟨formed', moves⟩ := prepareRound_moves distinct formed uses ran
      exact ⟨formed', moves, List.nodup_nil⟩
  | claimWallet target leaseDuration =>
      have once : (((RepositoryCall.claimWallet target leaseDuration : RepositoryCall ω).granted
          reply).map fun claim => claim.record.key.session).Nodup := by
        match reply with
        | .ok (claim, true) => exact List.nodup_singleton _
        | .ok (claim, false) => exact List.nodup_nil
        | .error error => exact List.nodup_nil
      refine and_assoc.mp ⟨?_, once⟩
      rcases afterCheck_cases (run_pair ran) with ⟨error, rfl, rfl⟩ | ⟨accepted, ran⟩
      · exact failed error
      · exact claimWallet_moves formed accepted ran
  | commitClaim claim receipt =>
      refine and_assoc.mp ⟨?_, List.nodup_nil⟩
      refine moves_atomic _ formed (run_pair ran) ?_ (fun _ _ _ done => done) (fun _ _ => .idle) ?_
      · intro entry
        exact .bind (.require _ _) fun _ => .bind (.abortWhen _ _) fun _ => .bind (.check _) fun _ =>
          .bind (.abortWhen _ _) fun _ => .bind (.abortWhen _ _) fun _ => .bind (.check _) fun _ =>
          .pure _
      · intro entry entry' result _ wellFormed done
        obtain ⟨formed', fresh, step⟩ := MemorySession.commit_step wellFormed distinct done
        refine ⟨formed', _, ?_, step⟩
        obtain ⟨record, _⟩ := result
        subst fresh
        rfl
  | rejectClaim claim reason =>
      refine and_assoc.mp ⟨?_, List.nodup_nil⟩
      refine moves_atomic _ formed (run_pair ran) ?_ (fun _ _ _ done => done) (fun _ _ => .idle) ?_
      · intro entry
        exact .bind (.require _ _) fun _ => .bind (.abortWhen _ _) fun _ => .pure _
      · intro entry entry' result _ wellFormed done
        obtain ⟨formed', fresh, step⟩ := MemorySession.reject_step wellFormed distinct done
        refine ⟨formed', _, ?_, step⟩
        obtain ⟨record, _⟩ := result
        subst fresh
        rfl
  | markClaimManualReview claim reason =>
      refine and_assoc.mp ⟨?_, List.nodup_nil⟩
      refine moves_atomic _ formed (run_pair ran) ?_ (fun _ _ _ done => done) (fun _ _ => .idle) ?_
      · intro entry
        exact .bind (.require _ _) fun _ => .bind (.abortWhen _ _) fun _ => .pure _
      · intro entry entry' result _ wellFormed done
        obtain ⟨formed', fresh, step⟩ := MemorySession.review_step wellFormed distinct done
        refine ⟨formed', _, ?_, step⟩
        obtain ⟨record, _⟩ := result
        subst fresh
        exact .inl rfl
  | markManualReview target reason =>
      refine and_assoc.mp ⟨?_, List.nodup_nil⟩
      refine moves_atomic _ formed (run_pair ran) ?_ (fun _ _ _ done => done) (fun _ _ => .idle) ?_
      · intro entry
        refine .bind (.require _ _) fun _ => .bind (.abortWhen _ _) fun _ => ?_
        split
        · exact .pure _
        · exact .pure _
      · intro entry entry' result _ wellFormed done
        obtain ⟨record, fresh⟩ := result
        obtain ⟨formed', ⟨rfl, rfl⟩ | ⟨rfl, step⟩⟩ := MemorySession.mark_step wellFormed done
        · exact ⟨formed', .idle, .idle, .idle⟩
        · exact ⟨formed', _, .inl rfl, step⟩
  | claimRecoverableRounds limit leaseDuration => exact recover_moves formed (run_pair ran)
  | scheduleWalletRecovery claim disposition jitterDelay =>
      refine and_assoc.mp ⟨?_, List.nodup_nil⟩
      rcases afterCheck_cases (run_pair ran) with ⟨error, rfl, rfl⟩ | ⟨accepted, ran⟩
      · exact failed error
      · refine moves_atomic _ formed ran ?_ (fun _ _ _ done => done) (fun _ _ => .idle) ?_
        · intro entry
          refine .bind (.require _ _) fun _ => ?_
          split
          · exact .pure _
          · exact .bind (.abortWhen _ _) fun _ => .pure _
        · intro entry entry' done_ _ wellFormed done
          obtain ⟨formed', ⟨rfl, rfl⟩ | ⟨rfl, at_, later, step⟩⟩ :=
            MemorySession.schedule_step wellFormed accepted done
          · exact ⟨formed', .idle, .idle, .idle⟩
          · exact ⟨formed', _, ⟨at_, later, rfl⟩, step⟩

end MemoryRepository

/-- The reference store keeps the contract on rounds with distinct operations. -/
def memoryContract (codec : Codec) {keys : Set RoundKey} (distinct : Distinct codec keys) :
    Contract (memoryRepository codec : Repository ω) where
  stored := id
  clock := id
  view := MemoryRepository.view
  Valid := MemoryRepository.WellFormed codec keys
  Admits := MemoryRepository.Uses keys
  moves := fun uses formed ran => MemoryRepository.run_moves distinct formed uses ran

end SlotsGame.Rgs
