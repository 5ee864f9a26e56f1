/-
# SlotsGame.Rgs.Recovery -- what a recovery pass of the memory store claims

The candidates of a pass are turns sorted by rank (`recoveryCandidates_eq`), so the
rotation of `Theory.RoundRobin` holds of them; a candidate that is due and whose ledger
entry validates is claimed (`claimCandidates_claimed`).  A pass that chooses a round
whose entry does not validate claims nothing, and isolates that round.
-/
import SlotsGame.Rgs.MemoryContract
import SlotsGame.Theory.RoundRobin

namespace SlotsGame.Rgs

open SlotsGame.Game SlotsGame.Theory

set_option autoImplicit false

/-! ## The order of the candidates -/

/-- The operator of a candidate. -/
def RecoveryCandidate.owner (candidate : RecoveryCandidate) : String :=
  candidate.record.key.operatorID

theorem RecoveryCandidate.before_sorts : Sorts RecoveryCandidate.before :=
  .lex (fun candidate : RecoveryCandidate => candidate.record.nextAttemptAt)
    (.lex (fun candidate : RecoveryCandidate => candidate.record.updatedAt)
      (.lex (fun candidate : RecoveryCandidate => candidate.record.key.sessionID)
        (.of_key fun candidate : RecoveryCandidate => candidate.record.key.roundID)))

theorem rankedBefore_sorts : Sorts rankedBefore :=
  .lex (fun turn : Nat × RecoveryCandidate => turn.1)
    (.lex (fun turn : Nat × RecoveryCandidate => turn.2.record.nextAttemptAt)
      (.of_key fun turn : Nat × RecoveryCandidate => turn.2.record.key.operatorID))

theorem rankedBefore_rank (left right : Nat × RecoveryCandidate)
    (sorted : rankedBefore left right = true) : left.1 ≤ right.1 := by
  unfold rankedBefore at sorted
  split at sorted
  · exact le_of_lt (of_decide_eq_true sorted)
  · next same => exact le_of_eq (not_not.mp same)

/-- The turns of a set of candidates. -/
def recoveryTurns (candidates : List RecoveryCandidate) : List (Nat × RecoveryCandidate) :=
  sortedTurns RecoveryCandidate.owner RecoveryCandidate.before rankedBefore candidates

/-- The candidates of one operator, oldest first. -/
def recoveryQueue (candidates : List RecoveryCandidate) (operatorID : String) :
    List RecoveryCandidate :=
  queueOf RecoveryCandidate.owner RecoveryCandidate.before candidates operatorID

theorem recoveryCandidates_eq (candidates : List RecoveryCandidate) (limit : Nat) :
    recoveryCandidates candidates limit = ((recoveryTurns candidates).take limit).map (·.2) :=
  List.map_take.symm

theorem recoveryTurns_roundRobin (candidates : List RecoveryCandidate) :
    RoundRobin RecoveryCandidate.owner (recoveryQueue candidates) (recoveryTurns candidates) :=
  sortedTurns_roundRobin rankedBefore_sorts rankedBefore_rank

theorem recoveryCandidates_length (candidates : List RecoveryCandidate) (limit : Nat) :
    (recoveryCandidates candidates limit).length = min limit candidates.length := by
  have all : ((recoveryTurns candidates).map (·.2)).length = candidates.length :=
    sortedTurns_items.length_eq
  rw [List.length_map] at all
  rw [recoveryCandidates_eq, List.length_map, List.length_take, all]

/-- The candidates of an operator are the first of its queue. -/
theorem recoveryCandidates_served (candidates : List RecoveryCandidate) (limit : Nat)
    (operatorID : String) :
    ((recoveryCandidates candidates limit).filter fun candidate => candidate.owner = operatorID) =
      (recoveryQueue candidates operatorID).take
        (turnsWithin RecoveryCandidate.owner (recoveryTurns candidates) limit operatorID) := by
  rw [recoveryCandidates_eq]
  exact (recoveryTurns_roundRobin candidates).served limit operatorID

/-- A queue holds the candidates of its operator, oldest first. -/
theorem recoveryQueue_oldest (candidates : List RecoveryCandidate) (operatorID : String) :
    (recoveryQueue candidates operatorID).Perm
        (candidates.filter fun candidate => candidate.owner = operatorID) ∧
      (recoveryQueue candidates operatorID).Pairwise fun left right =>
        left.record.nextAttemptAt ≤ right.record.nextAttemptAt := by
  refine ⟨List.mergeSort_perm _ _, (RecoveryCandidate.before_sorts.mergeSort _).imp ?_⟩
  intro left right sorted
  unfold RecoveryCandidate.before at sorted
  split at sorted
  · exact le_of_lt (of_decide_eq_true sorted)
  · next same => exact le_of_eq (not_not.mp same)

/-! ## Claims -/

/-- The claim of a candidate. -/
def RecoveryCandidate.claim (now : Time) (leaseDuration : Duration) (candidate : RecoveryCandidate) :
    WalletRecoveryClaim :=
  { record := claimedRecord candidate.record now (now + leaseDuration)
    action := candidate.record.walletPhase
    leaseUntil := now + leaseDuration }

namespace MemoryRepository

variable {repository after : MemoryRepository} {codec : Codec} {now quarantineNow : Time}
variable {leaseDuration : Duration} {candidate : RecoveryCandidate}

theorem claimMemoryWallet_due {entry : MemorySession} (member : candidate ∈ repository.dueRounds now)
    (there : repository.sessions.lookup candidate.session = some entry) :
    claimMemoryWallet candidate.record entry.session now leaseDuration =
      .ok (some (candidate.claim now leaseDuration)) := by
  obtain ⟨entry', id, record, there', _, copy, due⟩ := mem_dueRounds.mp member
  obtain rfl : entry' = entry := Option.some.inj (there'.symm.trans there)
  have normal : normalizeLegacyRecoveryState candidate.record = candidate.record := by
    rw [copy, normalize_twice]
  have open_ : ¬ (entry'.session.pendingRoundID ≠ candidate.record.key.roundID ∨
      entry'.session.revision ≠ candidate.record.request.startRevision) := by
    rw [not_or, not_not, not_not]
    exact due.1.2.2
  unfold claimMemoryWallet
  rw [normal]
  dsimp only
  rw [if_neg (not_not.mpr due), refuse, if_neg open_]
  rfl

/-- The claims of the candidates that a pass went through, and the store it leaves. -/
structure Claimed (repository : MemoryRepository) (now : Time) (leaseDuration : Duration)
    (visited : List RecoveryCandidate) (claimed : List WalletRecoveryClaim × MemoryRepository) :
    Prop where
  claims : claimed.1 = visited.map (RecoveryCandidate.claim now leaseDuration)
  kept : ∀ key, (∀ candidate ∈ visited, candidate.session ≠ key) →
    claimed.2.sessions.lookup key = repository.sessions.lookup key
  written : ∀ candidate ∈ visited, ∃ entry,
    repository.sessions.lookup candidate.session = some entry ∧
    claimed.2.sessions.lookup candidate.session =
      some { entry with
        rounds := entry.rounds.insert (candidate.claim now leaseDuration).record.key.roundID
          (candidate.claim now leaseDuration).record }

/-- Every candidate that is due is claimed. -/
theorem claimCandidates_claimed (leaseDuration : Duration) {candidates : List RecoveryCandidate}
    (distinct : candidates.Pairwise fun left right => left.session ≠ right.session)
    (due : ∀ candidate ∈ candidates, candidate ∈ repository.dueRounds now) :
    ∃ claimed, candidates.foldlM (claimCandidate now leaseDuration) ([], repository) = .ok claimed ∧
      Claimed repository now leaseDuration candidates claimed := by
  refine foldlM_ok_of (Claimed repository now leaseDuration) ?_ ?_
  · exact ⟨rfl, fun _ _ => rfl, fun candidate member => by cases member⟩
  rintro before candidate claimed ⟨rest, rfl⟩ passed
  have member := due candidate (by simp)
  have fresh : ∀ other ∈ before, other.session ≠ candidate.session := fun other visited =>
    (List.pairwise_append.mp distinct).2.2 other visited candidate List.mem_cons_self
  obtain ⟨entry, _, _, there, _⟩ := mem_dueRounds.mp member
  have current : claimed.2.sessions.lookup candidate.session = some entry :=
    (passed.kept candidate.session fresh).trans there
  simp only [claimCandidate, current, require, bind_ok, exists_eq_left', Except.ok.injEq,
    claimMemoryWallet_due member there]
  refine ⟨_, rfl, ?_, ?_, ?_⟩
  · rw [List.map_append, passed.claims]
    rfl
  · intro key untouched
    rw [Table.lookup_insert, if_neg (Ne.symm (untouched candidate (by simp)))]
    exact passed.kept key fun other visited => untouched other (List.mem_append_left _ visited)
  · intro other visited
    rcases List.mem_append.mp visited with old | new
    · obtain ⟨entry', was, is_⟩ := passed.written other old
      refine ⟨entry', was, ?_⟩
      rw [Table.lookup_insert, if_neg (fresh other old), is_]
    · rw [List.mem_singleton.mp new]
      exact ⟨entry, there, (Table.lookup_insert _ _ _ _).trans (if_pos rfl)⟩

/-! ## A pass -/

/-- The ledger entries of the chosen rounds validate. -/
def Sound (codec : Codec) (repository : MemoryRepository) (candidates : List RecoveryCandidate) :
    Prop :=
  ∀ candidate ∈ candidates, ∀ entry, repository.sessions.lookup candidate.session = some entry →
    validateWalletRecoveryMemoryBinding codec entry candidate.record = .ok ()

/-- A check of a candidate that is due passes, or isolates the round of the candidate. -/
theorem checkCandidate_cases (codec : Codec) (quarantineNow : Time) {entry : MemorySession}
    (there : repository.sessions.lookup candidate.session = some entry) :
    (validateWalletRecoveryMemoryBinding codec entry candidate.record = .ok () ∧
        repository.checkCandidate codec quarantineNow candidate = .ok ()) ∨
      (validateWalletRecoveryMemoryBinding codec entry candidate.record ≠ .ok () ∧
        repository.checkCandidate codec quarantineNow candidate =
          .error (.committed { kind := .manualReview }
            { sessions := repository.sessions.insert candidate.session
                (quarantineMemoryWalletClaim entry candidate.record.key.roundID quarantineNow) })) := by
  by_cases bound : validateWalletRecoveryMemoryBinding codec entry candidate.record = .ok ()
  · exact .inl ⟨bound, by simp [checkCandidate, there, require, bind, Except.bind, bound]⟩
  · exact .inr ⟨bound, by simp [checkCandidate, there, require, bind, Except.bind, bound]; rfl⟩

theorem forM_error {σ ε α : Type} {check : α → Except (Abort σ ε) Unit} {items : List α}
    {abort : Abort σ ε} (stopped : items.forM check = .error abort) :
    ∃ item ∈ items, check item = .error abort := by
  induction items with
  | nil => cases stopped
  | cons item rest ih =>
      have split : (check item >>= fun _ => rest.forM check) = .error abort := stopped
      cases here : check item with
      | error _ =>
          rw [here] at split
          exact ⟨item, List.mem_cons_self, here.trans split⟩
      | ok _ =>
          rw [here] at split
          obtain ⟨found, member, there⟩ := ih split
          exact ⟨found, List.mem_cons_of_mem item member, there⟩

theorem Keyed.owner (keyed : repository.Keyed) (member : candidate ∈ repository.dueRounds now) :
    candidate.record.key.session = candidate.session := by
  obtain ⟨entry, id, record, there, found, copy, _⟩ := mem_dueRounds.mp member
  rw [copy, (normalize_kept record).2.1, keyed candidate.session entry there id record found]
  rfl

theorem Keyed.candidates_distinct (keyed : repository.Keyed) (now : Time) (limit : Nat) :
    (recoveryCandidates (repository.dueRounds now) limit).Pairwise fun left right =>
      left.session ≠ right.session := by
  refine recoveryCandidates_distinct limit (keyed.dueRounds_distinct now) fun candidate member => ?_
  rw [← keyed.owner member]
  rfl

/-- A pass whose chosen rounds validate claims all of them. -/
theorem claimRecoverableRounds_sound (quarantineNow : Time) (keyed : repository.Keyed) {limit : Int}
    (accepted : validateRecoveryBatch limit leaseDuration = .ok ())
    (sound : Sound codec repository (recoveryCandidates (repository.dueRounds now) limit.toNat)) :
    ∃ claimed, repository.claimRecoverableRounds codec limit leaseDuration now quarantineNow =
        .ok claimed ∧
      Claimed repository now leaseDuration
        (recoveryCandidates (repository.dueRounds now) limit.toNat) claimed := by
  obtain ⟨claimed, ran, passed⟩ := claimCandidates_claimed leaseDuration
    (keyed.candidates_distinct now limit.toNat) fun candidate member =>
      mem_recoveryCandidates member
  refine ⟨claimed, ?_, passed⟩
  simp only [claimRecoverableRounds, bind_ok, check_ok, exists_unit, forM_ok]
  refine ⟨accepted, fun candidate member => ?_, ran⟩
  obtain ⟨entry, _, _, there, _⟩ := mem_dueRounds.mp (mem_recoveryCandidates member)
  rcases checkCandidate_cases codec quarantineNow there with
    ⟨_, passes⟩ | ⟨bad, _⟩
  · exact passes
  · exact absurd (sound candidate member entry there) bad

/-- A pass that chose a round that does not validate isolates such a round, and claims
nothing. -/
theorem claimRecoverableRounds_unsound {limit : Int}
    (accepted : validateRecoveryBatch limit leaseDuration = .ok ())
    (unsound : ¬ Sound codec repository
      (recoveryCandidates (repository.dueRounds now) limit.toNat)) :
    ∃ candidate ∈ recoveryCandidates (repository.dueRounds now) limit.toNat, ∃ entry,
      repository.sessions.lookup candidate.session = some entry ∧
      validateWalletRecoveryMemoryBinding codec entry candidate.record ≠ .ok () ∧
      repository.claimRecoverableRounds codec limit leaseDuration now quarantineNow =
        .error (.committed { kind := .manualReview }
          { sessions := repository.sessions.insert candidate.session
              (quarantineMemoryWalletClaim entry candidate.record.key.roundID quarantineNow) }) := by
  have begun : repository.claimRecoverableRounds codec limit leaseDuration now quarantineNow =
      (recoveryCandidates (repository.dueRounds now) limit.toNat).forM
        (repository.checkCandidate codec quarantineNow) >>= fun _ =>
        (recoveryCandidates (repository.dueRounds now) limit.toNat).foldlM
          (claimCandidate now leaseDuration) ([], repository) := by
    rw [claimRecoverableRounds, accepted]
    rfl
  cases checked : (recoveryCandidates (repository.dueRounds now) limit.toNat).forM
      (repository.checkCandidate codec quarantineNow) with
  | ok _ =>
      refine absurd (fun candidate member entry there => ?_) unsound
      have passes := forM_ok.mp checked candidate member
      exact checkCandidate_bound passes entry there
  | error abort =>
      obtain ⟨candidate, member, stopped⟩ := forM_error checked
      obtain ⟨entry, _, _, there, _⟩ := mem_dueRounds.mp (mem_recoveryCandidates member)
      rcases checkCandidate_cases codec quarantineNow there with
        ⟨_, passes⟩ | ⟨bad, isolated⟩
      · rw [passes] at stopped
        cases stopped
      · refine ⟨candidate, member, entry, there, bad, ?_⟩
        have same := Except.error.inj (stopped.symm.trans isolated)
        rw [begun, checked, same]
        rfl

end MemoryRepository

/-- The claims of one operator. -/
def claimsOf (claims : List WalletRecoveryClaim) (operatorID : String) :
    List WalletRecoveryClaim :=
  claims.filter fun claim => claim.record.key.operatorID = operatorID

theorem claimsOf_claims (now : Time) (leaseDuration : Duration)
    (candidates : List RecoveryCandidate) (operatorID : String) :
    claimsOf (candidates.map (RecoveryCandidate.claim now leaseDuration)) operatorID =
      (candidates.filter fun candidate => candidate.owner = operatorID).map
        (RecoveryCandidate.claim now leaseDuration) := by
  rw [claimsOf, List.filter_map]
  refine congrArg (List.map _) (List.filter_congr fun candidate _ => ?_)
  have same := (claimedRecord_kept candidate.record now (now + leaseDuration)).1
  exact decide_eq_decide.mpr (by rw [RecoveryCandidate.claim, same, RecoveryCandidate.owner])

/-- What a recovery pass claims, of every store that keeps its rounds under their keys: as
many of the rounds that are due as the limit allows, none twice, each operator's oldest
first, and by turns.  A pass out of bounds claims nothing, and so does one that chose a
round whose ledger entry does not validate. -/
theorem claimRecoverableRounds_fair (codec : Codec) {repository : MemoryRepository}
    (keyed : repository.Keyed) (limit : Int) (leaseDuration : Duration) (now quarantineNow : Time) :
    (validateRecoveryBatch limit leaseDuration ≠ .ok () →
      repository.claimRecoverableRounds codec limit leaseDuration now quarantineNow =
        .error (.rolledBack { kind := .invalidRequest })) ∧
    (validateRecoveryBatch limit leaseDuration = .ok () →
      repository.Sound codec (recoveryCandidates (repository.dueRounds now) limit.toNat) →
      ∃ claims after, repository.claimRecoverableRounds codec limit leaseDuration now quarantineNow =
          .ok (claims, after) ∧
        claims.length = min limit.toNat (repository.dueRounds now).length ∧
        (claims.map fun claim => claim.record.key).Nodup ∧
        (∀ operatorID,
          (recoveryQueue (repository.dueRounds now) operatorID).Perm ((repository.dueRounds now).filter
            fun candidate => candidate.owner = operatorID) ∧
          (recoveryQueue (repository.dueRounds now) operatorID).Pairwise (fun left right =>
            left.record.nextAttemptAt ≤ right.record.nextAttemptAt) ∧
          claimsOf claims operatorID =
            ((recoveryQueue (repository.dueRounds now) operatorID).take
              (claimsOf claims operatorID).length).map
                (RecoveryCandidate.claim now leaseDuration)) ∧
        ∀ operatorID other rank, rank ≤ (claimsOf claims operatorID).length →
          min (rank - 1) (recoveryQueue (repository.dueRounds now) other).length ≤
            (claimsOf claims other).length) ∧
    (validateRecoveryBatch limit leaseDuration = .ok () →
      ¬ repository.Sound codec (recoveryCandidates (repository.dueRounds now) limit.toNat) →
      ∃ candidate ∈ recoveryCandidates (repository.dueRounds now) limit.toNat, ∃ entry,
        repository.sessions.lookup candidate.session = some entry ∧
        validateWalletRecoveryMemoryBinding codec entry candidate.record ≠ .ok () ∧
        repository.claimRecoverableRounds codec limit leaseDuration now quarantineNow =
          .error (.committed { kind := .manualReview }
            { sessions := repository.sessions.insert candidate.session
                (quarantineMemoryWalletClaim entry candidate.record.key.roundID
                  quarantineNow) })) := by
  refine ⟨?_, ?_, MemoryRepository.claimRecoverableRounds_unsound⟩
  · intro refused
    have invalid : validateRecoveryBatch limit leaseDuration =
        .error { kind := .invalidRequest } := by
      unfold validateRecoveryBatch refuse at refused ⊢
      split
      · rfl
      · next within => exact absurd (if_neg within) refused
    rw [MemoryRepository.claimRecoverableRounds, invalid]
    rfl
  · intro accepted sound
    obtain ⟨⟨claims, after⟩, ran, passed⟩ :=
      MemoryRepository.claimRecoverableRounds_sound quarantineNow keyed accepted sound
    have claimed : claims = _ := passed.claims
    have counted (operatorID : String) : (claimsOf claims operatorID).length =
        turnsWithin RecoveryCandidate.owner (recoveryTurns (repository.dueRounds now)) limit.toNat
          operatorID := by
      rw [claimed, claimsOf_claims, List.length_map, recoveryCandidates_eq, List.filter_map,
        List.length_map]
      rfl
    refine ⟨claims, after, ran, ?_, ?_, ?_, ?_⟩
    · rw [claimed, List.length_map, recoveryCandidates_length]
    · rw [claimed, List.map_map]
      refine List.pairwise_map.mpr ((keyed.candidates_distinct now limit.toNat).imp_of_mem ?_)
      intro left right inLeft inRight different same
      simp only [Function.comp_apply, RecoveryCandidate.claim, claimedRecord_kept] at same
      have owned := keyed.owner (MemoryRepository.mem_recoveryCandidates inLeft)
      have owned' := keyed.owner (MemoryRepository.mem_recoveryCandidates inRight)
      exact different (owned.symm.trans ((congrArg RoundKey.session same).trans owned'))
    · intro operatorID
      obtain ⟨members, oldest⟩ := recoveryQueue_oldest (repository.dueRounds now) operatorID
      refine ⟨members, oldest, ?_⟩
      rw [counted, claimed, claimsOf_claims, recoveryCandidates_served]
    · intro operatorID other rank within
      rw [counted] at within ⊢
      exact (recoveryTurns_roundRobin _).fair within

/-! ## Two operators -/

def plainDigest : String := "0000000000000000000000000000000000000000000000000000000000000000"

theorem plainDigest_digest (_bytes : List UInt8) : Text.digestPattern plainDigest = true := by
  decide +kernel

def plainCodec : Codec where
  sha256 _ := plainDigest
  sha256_digest := plainDigest_digest
  marshalResult _ := []
  marshalLegacyResult _ := []
  marshal_transport := Codec.silent_transport

def plainProfile : Profile :=
  { contractVersion := walletContractVersionV2, profileID := atomicHTTPProfileID
    routeBindingID := walletRouteBindingPrefix ++ plainDigest
    capabilities :=
      { atomicRound := true, lookupByOperation := true, reapplySameOperationAfterNotFound := true
        notFoundConsistencyWindow := Duration.second, explicitRollback := false
        requiresWalletSessionRef := true, requiresCommandDigest := true
        returnsAuthoritativeBalance := true } }

def waitingSession (key : RoundKey) : Session :=
  { operatorID := key.operatorID, sessionID := key.sessionID, playerID := "player"
    walletAccountID := "account", walletSessionID := "wallet", gameID := "game"
    definitionVersion := "1", definitionHash := plainDigest, currency := "EUR"
    currencyExponent := 2, jurisdiction := "MT", status := .active, expiresAt := Duration.hour
    idleDisconnectAt := Duration.minute, idleDisconnect := Duration.minute
    transportGeneration := 1, balanceMinor := 1000, revision := 0, sequence := 0
    feature := FeatureState.emptyFeatureState, pendingRoundID := key.roundID }

def waitingRequest (key : RoundKey) : SpinRequest :=
  { operatorID := key.operatorID, sessionID := key.sessionID, roundID := key.roundID
    gameID := "game", definitionVersion := "1", definitionHash := plainDigest, currency := "EUR"
    roundKind := .base, betMinor := 10, startRevision := 0, transportGeneration := 1 }

def waitingResult (key : RoundKey) : SpinResult :=
  { resultSchemaVersion := resultSchemaPaidFactsV1, operatorID := key.operatorID
    sessionID := key.sessionID, roundID := key.roundID, gameID := "game"
    definitionVersion := "1", definitionHash := plainDigest, currency := "EUR", roundKind := .base
    serverTransactionID := walletOperationID plainCodec (waitingRequest key)
    walletTransactionID := "", startRevision := 0, endRevision := 0, sequence := 1, betMinor := 10
    chargedBetMinor := 10, balanceMinor := 0, totalWinMinor := 0
    idleDisconnectAt := Duration.minute, grid := [], wins := [], events := []
    featureState := FeatureState.emptyFeatureState }

def waitingRecord (key : RoundKey) (since : Time) : RoundRecord :=
  preparedRecord plainCodec (waitingSession key) (waitingRequest key)
    (fingerprintFor plainCodec (waitingRequest key)) plainProfile (waitingResult key) plainDigest
    since

/-- A session whose only round waits since `since`, without an entry in its ledger. -/
def unbookedSession (key : RoundKey) (since : Time) : MemorySession :=
  (MemorySession.create (waitingSession key)).putRound (waitingRecord key since)

def bookedSession (key : RoundKey) (since : Time) : MemorySession :=
  (unbookedSession key since).putTransaction (waitingRecord key since).walletCommand.operationID
    { command := (waitingRecord key since).walletCommand, kind := .play, status := .pending }

def storeOf (entries : List MemorySession) : MemoryRepository :=
  { sessions := entries.foldl (fun table entry => table.insert entry.session.key entry) ∅ }

def waitingKey (operatorID sessionID : String) : RoundKey :=
  { operatorID := operatorID, sessionID := sessionID, roundID := "round" }

/-- Two rounds of one operator and a later one of another. -/
def waitingStore : MemoryRepository :=
  storeOf [bookedSession (waitingKey "east" "s1") 1, bookedSession (waitingKey "east" "s2") 2,
    bookedSession (waitingKey "west" "s3") 3]

theorem waitingStore_due : waitingStore.dueRounds 10 =
    [⟨(waitingKey "west" "s3").session, waitingRecord (waitingKey "west" "s3") 3⟩,
      ⟨(waitingKey "east" "s2").session, waitingRecord (waitingKey "east" "s2") 2⟩,
      ⟨(waitingKey "east" "s1").session, waitingRecord (waitingKey "east" "s1") 1⟩] := by
  rfl

/-- Both operators are served before the second round of either. -/
theorem waitingStore_fair :
    ∃ claims after, waitingStore.claimRecoverableRounds plainCodec 2 Duration.second 10 10 =
        .ok (claims, after) ∧
      claims.length = 2 ∧
      min ((claimsOf claims "east").length - 1) 1 ≤ (claimsOf claims "west").length := by
  have keyed : waitingStore.Keyed := by
    intro key entry there id record found
    have rows : ∀ row ∈ waitingStore.sessions.rows, ∀ round ∈ row.2.rounds.rows,
        round.2.key = ⟨row.1.operatorID, row.1.sessionID, round.1⟩ := by decide +kernel
    exact rows (key, entry) (Table.mem_rows.mpr there) (id, record) (Table.mem_rows.mpr found)
  have sound : waitingStore.Sound plainCodec
      (recoveryCandidates (waitingStore.dueRounds 10) (2 : Int).toNat) := by
    intro candidate member entry there
    have due := MemoryRepository.mem_recoveryCandidates member
    have valid : ∀ row ∈ waitingStore.sessions.rows, ∀ other ∈ waitingStore.dueRounds 10,
        other.session = row.1 →
          validateWalletRecoveryMemoryBinding plainCodec row.2 other.record = .ok () := by
      rw [waitingStore_due]
      decide +kernel
    exact valid (candidate.session, entry) (Table.mem_rows.mpr there) candidate due rfl
  obtain ⟨claims, after, ran, counted, _, _, fair⟩ :=
    (claimRecoverableRounds_fair plainCodec keyed 2 Duration.second 10 10).2.1 (by decide) sound
  refine ⟨claims, after, ran, counted, ?_⟩
  have queue : (recoveryQueue (waitingStore.dueRounds 10) "west").length = 1 := by
    rw [(recoveryQueue_oldest (waitingStore.dueRounds 10) "west").1.length_eq, waitingStore_due]
    decide +kernel
  have turns := fair "east" "west" (claimsOf claims "east").length le_rfl
  rwa [queue] at turns

/-- A round without a ledger entry, the only one that is due, is not claimed; and no
batch of more than 256 claims anything. -/
theorem unbookedStore_unclaimed :
    ((storeOf [unbookedSession (waitingKey "east" "s1") 1]).dueRounds 10).length = 1 ∧
    (∀ claimed, (storeOf [unbookedSession (waitingKey "east" "s1") 1]).claimRecoverableRounds
      plainCodec 1 Duration.second 10 10 ≠ .ok claimed) ∧
    ∀ claimed, waitingStore.claimRecoverableRounds plainCodec 257 Duration.second 10 10 ≠
      .ok claimed := by
  refine ⟨rfl, fun claimed ran => ?_, fun claimed ran => ?_⟩
  · have due : (storeOf [unbookedSession (waitingKey "east" "s1") 1]).dueRounds 10 =
        [⟨(waitingKey "east" "s1").session, waitingRecord (waitingKey "east" "s1") 1⟩] := rfl
    obtain ⟨candidate, member⟩ := List.exists_mem_of_length_pos
      (by rw [recoveryCandidates_length, due]; decide :
        0 < (recoveryCandidates ((storeOf [unbookedSession (waitingKey "east" "s1") 1]).dueRounds
          10) (1 : Int).toNat).length)
    have found := MemoryRepository.mem_recoveryCandidates member
    rw [due, List.mem_singleton] at found
    simp only [MemoryRepository.claimRecoverableRounds, bind_ok, check_ok, exists_unit,
      forM_ok] at ran
    have bound := MemoryRepository.checkCandidate_bound (ran.2.1 candidate member)
      (unbookedSession (waitingKey "east" "s1") 1) (by rw [found]; rfl)
    rw [found] at bound
    exact absurd bound (by decide +kernel)
  · simp only [MemoryRepository.claimRecoverableRounds, bind_ok, check_ok] at ran
    obtain ⟨⟨⟩, accepted, _⟩ := ran
    exact absurd accepted (by decide)

end SlotsGame.Rgs
