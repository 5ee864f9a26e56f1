/-
# SlotsGame.Rgs.Deliveries -- what a committed round delivers

A round that is played under a valid request from a valid feature state (`Playable`) may be
committed with any valid receipt: its delivery then names one round, carries the hash of
its result, and starts from the state that the result was played from
(`Playable.delivers`).  In the reference store every round is playable and every delivery
is sound, whatever calls have led to it (`Served.deliverable`).
-/
import SlotsGame.Rgs.MemoryAttempts

namespace SlotsGame.Rgs

open SlotsGame.Game SlotsGame.Theory FeatureState

set_option autoImplicit false

variable {ω : Type} {codec : Codec}

/-! ## A playable round -/

/-- The spin that a result reports. -/
def SpinResult.spinOutcome (result : SpinResult) : SpinOutcome :=
  { grid := result.grid, wins := result.wins, events := result.events
    totalWinMinor := result.totalWinMinor, nextFeature := result.featureState }

/-- The result is that of a valid request, played from a valid feature state. -/
structure Playable (key : RoundKey) (request : SpinRequest) (input : FeatureState)
    (result : SpinResult) : Prop where
  valid : validateSpinRequest request = .ok ()
  named : request.key = key
  kind : request.roundKind = expectedRoundKind input
  identity : result.operatorID = key.operatorID ∧ result.sessionID = key.sessionID ∧
    result.roundID = key.roundID
  terms : result.roundKind = request.roundKind ∧ result.startRevision = request.startRevision ∧
    result.betMinor = request.betMinor
  base : request.roundKind = .base → result.chargedBetMinor = request.betMinor
  free : request.roundKind = .freeSpin → result.chargedBetMinor = 0
  locked : input.active = true → input.betMinor = request.betMinor
  sequence : 0 < result.sequence ∧ result.sequence ≤ maxClientSequence
  credit : 0 ≤ result.totalWinMinor
  origin : validatePersistedFeatureState input = .ok ()
  structured : validateOutcomeStructure { betMinor := result.betMinor, feature := input }
    result.spinOutcome = .ok ()

/-- What `ValidateResultDelivery` asks of a delivery, past the schema of its result. -/
structure ResultDelivery.Sound (codec : Codec) (delivery : ResultDelivery) : Prop where
  identifiers : Text.identifierPattern delivery.operatorID = true ∧
    Text.identifierPattern delivery.sessionID = true ∧
    Text.identifierPattern delivery.roundID = true
  identity : delivery.operatorID = delivery.result.operatorID ∧
    delivery.sessionID = delivery.result.sessionID ∧ delivery.roundID = delivery.result.roundID ∧
    delivery.sequence = delivery.result.sequence
  sequence : 0 < delivery.sequence ∧ delivery.sequence ≤ maxClientSequence
  hash : committedResultHashFor codec delivery.result = .ok delivery.resultHash
  origin : validatePersistedFeatureState delivery.originFeatureState = .ok ()
  locked : delivery.originFeatureState.active = true →
    delivery.originFeatureState.betMinor = delivery.result.betMinor
  kind : delivery.result.roundKind = expectedRoundKind delivery.originFeatureState
  charge : delivery.result.chargedBetMinor =
    if delivery.originFeatureState.active = true then 0 else delivery.result.betMinor
  revision : delivery.result.startRevision < maxStateRevision ∧
    delivery.result.endRevision = delivery.result.startRevision + 1
  money : 0 < delivery.result.betMinor ∧ 0 ≤ delivery.result.balanceMinor ∧
    0 ≤ delivery.result.totalWinMinor
  transaction : Text.identifierPattern delivery.result.walletTransactionID = true
  structured : validateOutcomeStructure
    { betMinor := delivery.result.betMinor, feature := delivery.originFeatureState }
    delivery.result.spinOutcome = .ok ()

theorem validateSpinRequest_facts {request : SpinRequest}
    (valid : validateSpinRequest request = .ok ()) :
    Text.identifierPattern request.operatorID = true ∧
      Text.identifierPattern request.sessionID = true ∧
      Text.identifierPattern request.roundID = true ∧ 0 < request.betMinor := by
  simp only [validateSpinRequest, bind_ok, refuse_ok, exists_unit, not_le] at valid
  obtain ⟨identifiers, _, _, bet, _⟩ := valid
  simp only [validateIdentifiers, forM_ok, List.mem_cons, List.not_mem_nil, or_false,
    forall_eq_or_imp, forall_eq, refuse_ok, Bool.not_eq_false] at identifiers
  exact ⟨identifiers.1, identifiers.2.1, identifiers.2.2.1, bet⟩

/-- A playable round that is settled is sound to deliver. -/
theorem Playable.sound {key : RoundKey} {request : SpinRequest} {input : FeatureState}
    {result : SpinResult} {hash : String} (acknowledgedAt : Time)
    (playable : Playable key request input result)
    (limit : request.startRevision < maxStateRevision)
    (next : result.endRevision = request.startRevision + 1) (balance : 0 ≤ result.balanceMinor)
    (transaction : Text.identifierPattern result.walletTransactionID = true)
    (hashed : committedResultHashFor codec result = .ok hash) :
    ResultDelivery.Sound codec
      { operatorID := key.operatorID, sessionID := key.sessionID, roundID := key.roundID
        sequence := result.sequence, resultHash := hash, result := result
        originFeatureState := input, acknowledgedAt := acknowledgedAt } := by
  obtain ⟨operator, session, round, bet⟩ := validateSpinRequest_facts playable.valid
  obtain ⟨roundKind, start, sameBet⟩ := playable.terms
  have named := playable.named
  have charged : result.chargedBetMinor = if input.active = true then 0 else result.betMinor := by
    have kind := playable.kind
    unfold expectedRoundKind at kind
    cases spinning : input.active with
    | false =>
        rw [spinning] at kind
        rw [playable.base kind, sameBet]
        rfl
    | true =>
        rw [spinning] at kind
        rw [playable.free kind]
        rfl
  constructor
  case identifiers =>
    rw [← named]
    exact ⟨operator, session, round⟩
  case identity =>
    obtain ⟨operator, session, round⟩ := playable.identity
    exact ⟨operator.symm, session.symm, round.symm, rfl⟩
  case sequence => exact playable.sequence
  case hash => exact hashed
  case origin => exact playable.origin
  case locked =>
    intro active
    exact (playable.locked active).trans sameBet.symm
  case kind => exact roundKind.trans playable.kind
  case charge => exact charged
  case revision =>
    rw [← start] at limit next
    exact ⟨limit, next⟩
  case money =>
    have positive : 0 < result.betMinor := by rwa [sameBet]
    exact ⟨positive, balance, playable.credit⟩
  case transaction => exact transaction
  case structured => exact playable.structured

/-- A playable round delivers what it is committed with. -/
theorem Playable.delivers {key : RoundKey} {record : RoundRecord} {receipt : WalletReceipt}
    {hash : String} {now : Time}
    (playable : Playable key record.request record.inputFeatureState record.result)
    (confirmed : validateWalletReceipt record.walletCommand receipt = .ok ())
    (limit : record.request.startRevision < maxStateRevision)
    (hashed : committedResultHashFor codec (committedRecord record receipt now).result = .ok hash) :
    (committedDelivery key (committedRecord record receipt now) hash).Sound codec := by
  simp only [validateWalletReceipt, refuse_ok, not_or, not_lt, Bool.not_eq_false] at confirmed
  obtain ⟨_, _, _, _, _, _, transaction, balance⟩ := confirmed
  -- the receipt is no part of the spin
  have settled : Playable key record.request record.inputFeatureState
      (committedRecord record receipt now).result := { playable with }
  exact settled.sound 0 limit rfl balance transaction hashed

/-- A result that a coordinator has written down for a request that its session admits. -/
theorem BuiltResult.playable {session : Session} {request : SpinRequest} {result : SpinResult}
    {now deadline : Time} (built : BuiltResult codec session request result)
    (valid : validateSpinRequest request = .ok ())
    (feature : validatePersistedFeatureState session.feature = .ok ())
    (binding : validateSessionBinding session request now = .ok ())
    (limit : session.sequence < maxClientSequence) :
    Playable request.key request session.feature { result with idleDisconnectAt := deadline } ∧
      validatePersistedFeatureState result.featureState = .ok () ∧
      result.resultSchemaVersion = resultSchemaPaidFactsV1 := by
  obtain ⟨⟨charged, outcome, rfl, charge, credit, structured, next, canonical⟩, _⟩ := built
  simp only [validateSessionBinding, bind_ok, refuse_ok, exists_unit, not_not] at binding
  have kind := binding.2.2.2.2.2.1
  obtain ⟨base, free, locked⟩ := chargedBet_kind charge kind
  refine ⟨?_, validatePersisted_of_outcome next canonical, rfl⟩
  exact
    { valid := valid, named := rfl, kind := kind, identity := ⟨rfl, rfl, rfl⟩
      terms := ⟨rfl, rfl, rfl⟩, base := base, free := free, locked := locked
      sequence := ⟨Nat.succ_pos _, limit⟩, credit := credit, origin := feature
      structured := structured }

/-! ## The rounds and deliveries of a session -/

/-- A stored round is playable, and leaves a valid feature state. -/
structure RoundRecord.Plays (key : RoundKey) (record : RoundRecord) : Prop where
  playable : Playable key record.request record.inputFeatureState record.result
  next : validatePersistedFeatureState record.result.featureState = .ok ()
  schema : record.result.resultSchemaVersion = resultSchemaPaidFactsV1

/-- Both records are of one spin: only its settlement differs. -/
structure RoundRecord.SameSpin (record written : RoundRecord) : Prop where
  request : written.request = record.request
  input : written.inputFeatureState = record.inputFeatureState
  result : written.result = record.result

theorem RoundRecord.Plays.same {key : RoundKey} {record written : RoundRecord}
    (plays : record.Plays key) (same : record.SameSpin written) : written.Plays key := by
  refine ⟨?_, ?_, ?_⟩
  · rw [same.request, same.input, same.result]
    exact plays.playable
  · rw [same.result]
    exact plays.next
  · rw [same.result]
    exact plays.schema

/-- The receipt of a commit is not part of the spin. -/
theorem RoundRecord.Plays.committed {key : RoundKey} {record : RoundRecord}
    (plays : record.Plays key) (receipt : WalletReceipt) (now : Time) :
    (committedRecord record receipt now).Plays key :=
  ⟨{ plays.playable with }, plays.next, plays.schema⟩

theorem normalize_sameSpin (record : RoundRecord) :
    record.SameSpin (normalizeLegacyRecoveryState record) := by
  unfold normalizeLegacyRecoveryState
  split
  · exact ⟨rfl, rfl, rfl⟩
  · split
    · exact ⟨rfl, rfl, rfl⟩
    · exact ⟨rfl, rfl, rfl⟩

theorem claimed_sameSpin (record : RoundRecord) (now leaseUntil : Time) :
    record.SameSpin (claimedRecord (normalizeLegacyRecoveryState record) now leaseUntil) := by
  obtain ⟨request, input, result⟩ := normalize_sameSpin record
  unfold claimedRecord
  dsimp only
  split
  · exact ⟨request, input, result⟩
  · exact ⟨request, input, result⟩

/-- A session's feature state is valid, its rounds are playable and its deliveries sound. -/
structure MemorySession.Deliverable (codec : Codec) (key : SessionKey) (entry : MemorySession) :
    Prop where
  feature : validatePersistedFeatureState entry.session.feature = .ok ()
  rounds : ∀ id record, entry.rounds.lookup id = some record →
    record.Plays ⟨key.operatorID, key.sessionID, id⟩
  deliveries : ∀ id delivery, entry.deliveries.lookup id = some delivery →
    delivery.Sound codec ∧ delivery.result.resultSchemaVersion = resultSchemaPaidFactsV1

namespace MemorySession

variable {key : SessionKey} {entry after : MemorySession} {request : SpinRequest}

/-- At most one round was rewritten, and nothing was delivered. -/
structure Rewrote (entry after : MemorySession) : Prop where
  feature : after.session.feature = entry.session.feature
  deliveries : after.deliveries = entry.deliveries
  rounds : after.rounds = entry.rounds ∨ ∃ id record written,
    entry.rounds.lookup id = some record ∧ record.SameSpin written ∧
      after.rounds = entry.rounds.insert id written

theorem Deliverable.insert (deliverable : entry.Deliverable codec key) {id : String}
    {written : RoundRecord} (plays : written.Plays ⟨key.operatorID, key.sessionID, id⟩) :
    ∀ other record, (entry.rounds.insert id written).lookup other = some record →
      record.Plays ⟨key.operatorID, key.sessionID, other⟩ := by
  intro other record found
  rw [Table.lookup_insert] at found
  split at found
  next same =>
    obtain rfl := Option.some.inj found
    rw [same]
    exact plays
  next => exact deliverable.rounds other record found

theorem Deliverable.rewrote (deliverable : entry.Deliverable codec key)
    (rewrote : entry.Rewrote after) : after.Deliverable codec key where
  feature := by
    rw [rewrote.feature]
    exact deliverable.feature
  deliveries := by
    rw [rewrote.deliveries]
    exact deliverable.deliveries
  rounds := by
    rcases rewrote.rounds with same | ⟨id, record, written, found, spin, same⟩
    · rw [same]
      exact deliverable.rounds
    · rw [same]
      exact deliverable.insert ((deliverable.rounds id record found).same spin)

theorem Rewrote.refl : entry.Rewrote entry := ⟨rfl, rfl, .inl rfl⟩

variable {now : Time}

theorem resetTransport_rewrote {idleDisconnect : Duration} {session : Session}
    (ran : entry.resetTransport idleDisconnect now = .ok (session, after)) :
    entry.Rewrote after := by
  simp only [resetTransport, bind_ok, check_ok, abortWhen_ok, exists_unit, pure_ok,
    Prod.mk.injEq] at ran
  obtain ⟨_, _, _, rfl⟩ := ran
  exact ⟨rfl, rfl, .inl rfl⟩

theorem authorizeTransport_rewrote {transportGeneration : Nat} {allowIdleRecovery : Bool}
    {session : Session}
    (ran : entry.authorizeTransport transportGeneration allowIdleRecovery now =
      .ok (session, after)) : entry.Rewrote after := by
  simp only [authorizeTransport, bind_ok, check_ok, abortWhen_ok, exists_unit, pure_ok,
    Prod.mk.injEq] at ran
  obtain ⟨_, _, _, _, rfl⟩ := ran
  exact ⟨rfl, rfl, .inl rfl⟩

/-- An acknowledgement only dates the delivery. -/
theorem Deliverable.acknowledge (deliverable : entry.Deliverable codec key)
    {receipt : ResultDeliveryAcknowledgement} {result : ResultDelivery × Bool}
    (ran : entry.acknowledgeResultDelivery receipt now = .ok (result, after)) :
    after.Deliverable codec key := by
  simp only [acknowledgeResultDelivery, bind_ok, require_ok, abortWhen_ok, exists_unit] at ran
  obtain ⟨_, delivery, found, _, ran⟩ := ran
  split at ran
  · obtain ⟨_, rfl⟩ := Prod.mk.inj (pure_ok.mp ran)
    exact deliverable
  · obtain ⟨_, rfl⟩ := Prod.mk.inj (pure_ok.mp ran)
    refine ⟨deliverable.feature, deliverable.rounds, ?_⟩
    intro id other there
    rw [Table.lookup_insert] at there
    split at there
    next =>
      obtain rfl := Option.some.inj there
      obtain ⟨sound, schema⟩ := deliverable.deliveries receipt.roundID delivery found
      exact ⟨{ sound with }, schema⟩
    next => exact deliverable.deliveries id other there

theorem Deliverable.persistRound (deliverable : entry.Deliverable codec request.key.session)
    {fingerprint : String} {walletProfile : Profile}
    {prepared : SpinResult} {result : RoundRecord × Bool} {bindingNow idleNow : Time}
    (valid : validateSpinRequest request = .ok ())
    (admitted : entry.admitRound request fingerprint bindingNow idleNow = .ok .fresh)
    (built : BuiltResult codec entry.session request prepared)
    (ran : entry.persistRound codec request fingerprint walletProfile prepared now =
      .ok (result, after)) : after.Deliverable codec request.key.session := by
  obtain ⟨_, _, _, binding, _, limit⟩ := admitRound_fresh_iff.mp admitted
  simp only [MemorySession.persistRound, bind_ok, check_ok, exists_unit, pure_ok,
    Prod.mk.injEq] at ran
  obtain ⟨_, outcomeHash, _, _, rfl⟩ := ran
  obtain ⟨playable, next, schema⟩ : Playable request.key request entry.session.feature
      { prepared with idleDisconnectAt := entry.session.renewedIdleDisconnectAt now } ∧ _ ∧ _ :=
    built.playable valid deliverable.feature binding limit
  exact ⟨deliverable.feature, deliverable.insert ⟨playable, next, schema⟩, deliverable.deliveries⟩

theorem claimWallet_rewrote {id : String} {leaseDuration : Duration} {quarantineNow : Time}
    {result : WalletRecoveryClaim × Bool}
    (ran : entry.claimWallet codec id leaseDuration now quarantineNow = .ok (result, after)) :
    entry.Rewrote after := by
  simp only [claimWallet, bind_ok, require_ok] at ran
  obtain ⟨record, found, ran⟩ := ran
  split at ran
  · cases ran
  · simp only [bind_ok, check_ok] at ran
    obtain ⟨claimed, granted, ran⟩ := ran
    cases claimed with
    | none =>
        obtain ⟨_, rfl⟩ := Prod.mk.inj (pure_ok.mp ran)
        exact .refl
    | some claim =>
        obtain ⟨_, rfl⟩ := Prod.mk.inj (pure_ok.mp ran)
        obtain ⟨_, rfl⟩ := claimMemoryWallet_some granted
        exact ⟨rfl, rfl, .inr ⟨id, record, _, found, claimed_sameSpin _ _ _, rfl⟩⟩

theorem quarantine_rewrote (entry : MemorySession) (id : String) (now : Time) :
    entry.Rewrote (quarantineMemoryWalletClaim entry id now) := by
  unfold quarantineMemoryWalletClaim
  split
  · exact .refl
  · next record found =>
    exact ⟨rfl, rfl, .inr ⟨id, record, reviewedRecord record .manualReview
      persistedWalletLedgerIntegrityFailure now, found, ⟨rfl, rfl, rfl⟩, rfl⟩⟩

theorem transitionClaimFailure_rewrote {claim : WalletRecoveryClaim} {status : RoundStatus}
    {reason : Bytes} {clearPending : Bool} {result : RoundRecord × Bool}
    (ran : entry.transitionClaimFailure claim status reason clearPending now =
      .ok (result, after)) : entry.Rewrote after := by
  simp only [transitionClaimFailure, bind_ok, require_ok, abortWhen_ok, exists_unit, pure_ok,
    Prod.mk.injEq, not_not] at ran
  obtain ⟨record, found, _, _, rfl⟩ := ran
  have written : ∀ ended : MemorySession, ended.session.feature = entry.session.feature →
      ended.deliveries = entry.deliveries →
      ended.rounds = entry.rounds.insert claim.record.key.roundID
        (reviewedRecord record status reason now) → entry.Rewrote ended :=
    fun _ feature deliveries rounds =>
      ⟨feature, deliveries, .inr ⟨_, record, reviewedRecord record status reason now, found,
        ⟨rfl, rfl, rfl⟩, rounds⟩⟩
  cases clearPending with
  | false => exact written _ rfl rfl rfl
  | true =>
      unfold MemorySession.release
      simp only [if_true]
      split
      · exact written _ rfl rfl rfl
      · exact written _ rfl rfl rfl

theorem markManualReview_rewrote {id : String} {reason : Bytes} {result : RoundRecord × Bool}
    (ran : entry.markManualReview id reason now = .ok (result, after)) :
    entry.Rewrote after := by
  simp only [markManualReview, bind_ok, require_ok, abortWhen_ok, exists_unit] at ran
  obtain ⟨record, found, _, ran⟩ := ran
  split at ran
  · obtain ⟨_, rfl⟩ := Prod.mk.inj (pure_ok.mp ran)
    exact .refl
  · obtain ⟨_, rfl⟩ := Prod.mk.inj (pure_ok.mp ran)
    exact ⟨rfl, rfl, .inr ⟨id, record, reviewedRecord record .manualReview reason now, found,
      ⟨rfl, rfl, rfl⟩, rfl⟩⟩

theorem schedule_rewrote {claim : WalletRecoveryClaim} {disposition : WalletRecoveryDisposition}
    {jitterDelay : Duration} {done : Bool}
    (ran : entry.scheduleWalletRecovery claim disposition jitterDelay now = .ok (done, after)) :
    entry.Rewrote after := by
  simp only [scheduleWalletRecovery, bind_ok, require_ok] at ran
  obtain ⟨record, found, ran⟩ := ran
  split at ran
  · obtain ⟨_, rfl⟩ := Prod.mk.inj (pure_ok.mp ran)
    exact .refl
  · simp only [bind_ok, abortWhen_ok, exists_unit, pure_ok, Prod.mk.injEq] at ran
    obtain ⟨_, _, rfl⟩ := ran
    exact ⟨rfl, rfl, .inr ⟨_, record, scheduledRecord record disposition jitterDelay now, found,
      ⟨rfl, rfl, rfl⟩, rfl⟩⟩

/-- A commit delivers its round, and leaves the feature state of its result. -/
theorem Deliverable.commitClaim {claim : WalletRecoveryClaim} {receipt : WalletReceipt}
    (deliverable : entry.Deliverable codec claim.record.key.session)
    {result : RoundRecord × Bool}
    (ran : entry.commitClaim codec claim receipt now = .ok (result, after)) :
    after.Deliverable codec claim.record.key.session := by
  simp only [MemorySession.commitClaim, bind_ok, require_ok, abortWhen_ok, check_ok, exists_unit,
    pure_ok, Prod.mk.injEq, not_not, not_le, ge_iff_le] at ran
  obtain ⟨record, found, _, confirmed, _, limit, hash, hashed, _, rfl⟩ := ran
  have plays := deliverable.rounds _ record found
  refine ⟨plays.next, deliverable.insert (plays.committed receipt now), ?_⟩
  intro id delivery there
  have there : (entry.deliveries.insert claim.record.key.roundID (committedDelivery claim.record.key
      (committedRecord record receipt now) hash)).lookup id = some delivery := there
  rw [Table.lookup_insert] at there
  split at there
  next =>
    obtain rfl := Option.some.inj there
    exact ⟨plays.playable.delivers confirmed limit hashed, plays.schema⟩
  next => exact deliverable.deliveries id delivery there

end MemorySession

/-! ## The store -/

/-- A round is prepared with a result that a coordinator has written down for it. -/
def RepositoryCall.Built (codec : Codec) : RepositoryCall ω → Prop
  | .prepareRound request _ _ prepare => BuiltBy codec request prepare
  | _ => True

/-- Every session of the store is as `MemorySession.Deliverable` asks. -/
def MemoryRepository.Deliverable (codec : Codec) (repository : MemoryRepository) : Prop :=
  ∀ target entry, repository.sessions.lookup target = some entry → entry.Deliverable codec target

namespace MemoryRepository

variable {repository after : MemoryRepository} {clock : Clock} {world world' : ω}
variable {call : RepositoryCall ω} {reply : Except RgsError call.Reply}
variable {target : SessionKey} {entry written : MemorySession}

theorem Deliverable.put (deliverable : repository.Deliverable codec)
    (kept : written.Deliverable codec target) :
    ({ sessions := repository.sessions.insert target written } : MemoryRepository).Deliverable
      codec := by
  intro other entry there
  rw [Table.lookup_insert] at there
  split at there
  next same =>
    obtain rfl := Option.some.inj there
    rw [same]
    exact kept
  next => exact deliverable other entry there

/-- A call on one session that writes nothing before it fails. -/
theorem Deliverable.onSession {α : Type} (deliverable : repository.Deliverable codec)
    {reply : Except RgsError α}
    {program : MemorySession → Except (Abort MemorySession RgsError) (α × MemorySession)}
    (ran : repository.onSession target program = (reply, after))
    (atomic : ∀ entry, Atomic (program entry))
    (kept : ∀ entry written result, repository.sessions.lookup target = some entry →
      program entry = .ok (result, written) → written.Deliverable codec target) :
    after.Deliverable codec := by
  rcases onSession_cases ran with ⟨_, _, rfl⟩ | ⟨entry, written, there, settled, rfl⟩
  · exact deliverable
  · refine deliverable.put ?_
    rcases settle_atomic (atomic entry) settled with ⟨result, done, _⟩ | ⟨error, _, same⟩
    · exact kept entry written result there done
    · rw [same]
      exact deliverable target entry there

theorem Deliverable.createSession (deliverable : repository.Deliverable codec) {session : Session}
    {reply : Except RgsError Unit}
    (settled : settle repository (repository.createSession session) = (reply, after)) :
    after.Deliverable codec := by
  have atomic : Atomic (repository.createSession session) :=
    .bind (.check _) fun _ => .bind (.abortWhen _ _) fun _ => .bind (.abortWhen _ _) fun _ => .pure _
  rcases settle_atomic atomic settled with ⟨_, done, rfl⟩ | ⟨error, _, rfl⟩
  · simp only [MemoryRepository.createSession, bind_ok, check_ok, abortWhen_ok, exists_unit,
      pure_ok, Prod.mk.injEq] at done
    obtain ⟨valid, _, _, _, rfl⟩ := done
    refine deliverable.put ⟨?_, ?_, ?_⟩
    · simp only [validateSession, bind_ok, refuse_ok, exists_unit] at valid
      obtain ⟨_, _, _, _, _, _, _, _, _, _, _, checked⟩ := valid
      split at checked
      · assumption
      · cases checked
    · intro id record found
      cases found
    · intro id delivery there
      cases there
  · exact deliverable

theorem Deliverable.prepareRound (deliverable : repository.Deliverable codec)
    {request : SpinRequest} {fingerprint : String} {walletProfile : Profile}
    {prepare : PrepareOutcome ω} (built : BuiltBy codec request prepare)
    {reply : Except RgsError (RoundRecord × Bool)}
    (ran : repository.prepareRound codec request fingerprint walletProfile prepare clock world =
      (reply, after, world')) : after.Deliverable codec := by
  simp only [MemoryRepository.prepareRound] at ran
  split at ran
  · cases ran
    exact deliverable
  · cases ran
    exact deliverable
  · next entry accepted there =>
    split at ran
    · cases ran
      exact deliverable
    · cases ran
      exact deliverable
    · next admitted =>
      split at ran
      · cases ran
        exact deliverable
      · next prepared generated =>
        cases ran
        refine deliverable.onSession rfl ?_ ?_
        · intro entry
          exact .bind (.check _) fun _ => .bind (.check _) fun _ => .pure _
        · intro other written result found done
          obtain rfl : other = entry := Option.some.inj (found.symm.trans there)
          simp only [validatePrepareArguments, bind_ok, exists_unit] at accepted
          exact (deliverable _ _ there).persistRound accepted.1 admitted
            (built _ _ _ _ (Prod.ext generated rfl)) done

theorem Deliverable.claimWallet (deliverable : repository.Deliverable codec) {key : RoundKey}
    {leaseDuration : Duration} {reply : Except RgsError (WalletRecoveryClaim × Bool)}
    (ran : repository.onSession key.session (fun entry =>
      entry.claimWallet codec key.roundID leaseDuration (clock 0) (clock 0)) = (reply, after)) :
    after.Deliverable codec := by
  rcases onSession_cases ran with ⟨_, _, rfl⟩ | ⟨entry, written, there, settled, rfl⟩
  · exact deliverable
  have held := deliverable key.session entry there
  rcases settle_cases settled with ⟨result, done, _⟩ | ⟨error, _, _, rfl⟩ | ⟨error, stopped, _⟩
  · exact deliverable.put (held.rewrote (MemorySession.claimWallet_rewrote done))
  · exact deliverable.put held
  · refine deliverable.put (held.rewrote ?_)
    simp only [MemorySession.claimWallet, bind_committed, require_committed, require_ok,
      false_or] at stopped
    obtain ⟨record, found, stopped⟩ := stopped
    split at stopped
    · cases stopped
      exact MemorySession.quarantine_rewrote entry key.roundID _
    · simp only [bind_committed, check_committed, check_ok, false_or] at stopped
      obtain ⟨claimed, _, stopped⟩ := stopped
      cases claimed <;> simp at stopped

theorem Deliverable.recover (deliverable : repository.Deliverable codec)
    (keyed : repository.Keyed) {limit : Int} {leaseDuration : Duration}
    {reply : Except RgsError (List WalletRecoveryClaim)}
    (settled : settle repository (repository.claimRecoverableRounds codec limit leaseDuration
      (clock 0) (clock 1)) = (reply, after)) : after.Deliverable codec := by
  have due (candidate : RecoveryCandidate)
      (member : candidate ∈ recoveryCandidates (repository.dueRounds (clock 0)) limit.toNat) :=
    mem_recoveryCandidates member
  obtain ⟨claimed, ran, passed⟩ := claimCandidates_claimed leaseDuration
    (keyed.candidates_distinct (clock 0) limit.toNat) due
  rcases settle_cases settled with ⟨claims, done, _⟩ | ⟨error, _, _, rfl⟩ | ⟨error, stopped, _⟩
  · simp only [claimRecoverableRounds, bind_ok, check_ok, exists_unit, forM_ok] at done
    obtain ⟨_, _, done⟩ := done
    obtain rfl : claimed = (claims, after) := Except.ok.inj (ran.symm.trans done)
    intro target entry there
    by_cases visits : ∃ candidate ∈ recoveryCandidates (repository.dueRounds (clock 0))
        limit.toNat, candidate.session = target
    · obtain ⟨candidate, member, rfl⟩ := visits
      obtain ⟨before, stored, later⟩ := passed.written candidate member
      obtain rfl := Option.some.inj (later.symm.trans there)
      obtain ⟨same, id, record, found', found, copy, _⟩ := mem_dueRounds.mp (due candidate member)
      obtain rfl := Option.some.inj (found'.symm.trans stored)
      -- the claim is written where the round was found
      have named : (candidate.claim (clock 0) leaseDuration).record.key.roundID = id := by
        have copied : (candidate.claim (clock.reading 0) leaseDuration).record.key =
            candidate.record.key := (claimedRecord_kept _ _ _).1
        rw [copied, copy, (normalize_kept record).2.1,
          keyed candidate.session same stored id record found]
      refine (deliverable _ same stored).rewrote ⟨rfl, rfl, .inr ⟨id, record,
        (candidate.claim (clock 0) leaseDuration).record, found, ?_, by rw [← named]⟩⟩
      show record.SameSpin (claimedRecord candidate.record _ _)
      rw [copy]
      exact claimed_sameSpin record _ _
    · rw [passed.kept target fun candidate member about => visits ⟨candidate, member, about⟩]
        at there
      exact deliverable target entry there
  · exact deliverable
  · simp only [claimRecoverableRounds, bind_committed, check_committed, check_ok, exists_unit,
      false_or, forM_ok] at stopped
    obtain ⟨_, bad | ⟨_, failed⟩⟩ := stopped
    · obtain ⟨candidate, member, stopped⟩ := forM_committed bad
      obtain ⟨entry, _, _, there, _⟩ := mem_dueRounds.mp (due candidate member)
      simp only [checkCandidate, there, bind_committed, require_committed, require_ok, false_or,
        Option.some.injEq] at stopped
      obtain ⟨_, rfl, stopped⟩ := stopped
      split at stopped
      · cases stopped
        exact deliverable.put ((deliverable _ _ there).rewrote
          (MemorySession.quarantine_rewrote entry _ _))
      · exact absurd stopped pure_committed
    · rw [ran] at failed
      cases failed

theorem Deliverable.read {α : Type} (deliverable : repository.Deliverable codec)
    {reply : Except RgsError α} {program : MemorySession → Except RgsError α}
    (ran : repository.readSession target program = (reply, after)) : after.Deliverable codec := by
  unfold readSession at ran
  split at ran
  · cases ran
    exact deliverable
  · cases ran
    exact deliverable

/-- Every call keeps the rounds playable and the deliveries sound. -/
theorem run_deliverable (keyed : repository.Keyed) (deliverable : repository.Deliverable codec)
    (built : call.Built codec)
    (ran : MemoryRepository.run codec clock call repository world = (reply, after, world')) :
    after.Deliverable codec := by
  have held : ∀ target entry, repository.sessions.lookup target = some entry →
      entry.Deliverable codec target := deliverable
  cases call with
  | createSession session => exact deliverable.createSession (run_pair ran)
  | getSession target => exact deliverable.read (run_pair ran)
  | authorizeSessionRelaunch target => exact deliverable.read (run_pair ran)
  | getRound target => exact deliverable.read (run_pair ran)
  | getPendingResultDelivery target => exact deliverable.read (run_pair ran)
  | resetSessionTransport target idleDisconnect =>
      rcases afterCheck_cases (run_pair ran) with ⟨error, _, rfl⟩ | ⟨_, ran⟩
      · exact deliverable
      · refine deliverable.onSession ran ?_ fun entry written result there done =>
          (held _ entry there).rewrote (MemorySession.resetTransport_rewrote done)
        intro entry
        exact .bind (.check _) fun _ => .bind (.abortWhen _ _) fun _ => .pure _
  | authorizeSessionTransport target transportGeneration allowIdleRecovery =>
      refine deliverable.onSession (run_pair ran) ?_ fun entry written result there done =>
        (held _ entry there).rewrote (MemorySession.authorizeTransport_rewrote done)
      intro entry
      exact .bind (.abortWhen _ _) fun _ => .bind (.check _) fun _ =>
        .bind (.abortWhen _ _) fun _ => .pure _
  | acknowledgeResultDelivery receipt =>
      rcases afterCheck_cases (run_pair ran) with ⟨error, _, rfl⟩ | ⟨_, ran⟩
      · exact deliverable
      · refine deliverable.onSession ran ?_ fun entry written result there done =>
          (held _ entry there).acknowledge done
        intro entry
        refine .bind (.abortWhen _ _) fun _ => .bind (.require _ _) fun _ =>
          .bind (.abortWhen _ _) fun _ => ?_
        split
        · exact .pure _
        · exact .pure _
  | prepareRound request fingerprint walletProfile prepare =>
      exact deliverable.prepareRound built ran
  | claimWallet target leaseDuration =>
      rcases afterCheck_cases (run_pair ran) with ⟨error, _, rfl⟩ | ⟨_, ran⟩
      · exact deliverable
      · exact deliverable.claimWallet ran
  | commitClaim claim receipt =>
      refine deliverable.onSession (run_pair ran) ?_ fun entry written result there done =>
        (held _ entry there).commitClaim done
      intro entry
      exact .bind (.require _ _) fun _ => .bind (.abortWhen _ _) fun _ => .bind (.check _) fun _ =>
        .bind (.abortWhen _ _) fun _ => .bind (.abortWhen _ _) fun _ => .bind (.check _) fun _ =>
        .pure _
  | rejectClaim claim reason =>
      refine deliverable.onSession (run_pair ran) ?_ fun entry written result there done =>
        (held _ entry there).rewrote (MemorySession.transitionClaimFailure_rewrote done)
      intro entry
      exact .bind (.require _ _) fun _ => .bind (.abortWhen _ _) fun _ => .pure _
  | markClaimManualReview claim reason =>
      refine deliverable.onSession (run_pair ran) ?_ fun entry written result there done =>
        (held _ entry there).rewrote (MemorySession.transitionClaimFailure_rewrote done)
      intro entry
      exact .bind (.require _ _) fun _ => .bind (.abortWhen _ _) fun _ => .pure _
  | markManualReview target reason =>
      refine deliverable.onSession (run_pair ran) ?_ fun entry written result there done =>
        (held _ entry there).rewrote (MemorySession.markManualReview_rewrote done)
      intro entry
      refine .bind (.require _ _) fun _ => .bind (.abortWhen _ _) fun _ => ?_
      split
      · exact .pure _
      · exact .pure _
  | claimRecoverableRounds limit leaseDuration => exact deliverable.recover keyed (run_pair ran)
  | scheduleWalletRecovery claim disposition jitterDelay =>
      rcases afterCheck_cases (run_pair ran) with ⟨error, _, rfl⟩ | ⟨_, ran⟩
      · exact deliverable
      · refine deliverable.onSession ran ?_ fun entry written result there done =>
          (held _ entry there).rewrote (MemorySession.schedule_rewrote done)
        intro entry
        refine .bind (.require _ _) fun _ => ?_
        split
        · exact .pure _
        · exact .bind (.abortWhen _ _) fun _ => .pure _

/-! ## Runs -/

/-- One call of a server. -/
def Serves (codec : Codec) (repository after : MemoryRepository) : Prop :=
  ∃ (ω : Type) (clock : Clock) (call : RepositoryCall ω) (world world' : ω)
    (reply : Except RgsError call.Reply), call.Built codec ∧
      MemoryRepository.run codec clock call repository world = (reply, after, world')

/-- A store that calls of servers have led to. -/
def Served (codec : Codec) (repository : MemoryRepository) : Prop :=
  Relation.ReflTransGen (Serves codec) newMemoryRepository repository

theorem Served.orderly (served : Served codec repository) :
    repository.Orderly ∧ repository.Deliverable codec := by
  induction served with
  | refl =>
      refine ⟨fun key record found => ?_, fun target entry there => ?_⟩
      · simp [round, newMemoryRepository] at found
      · simp [newMemoryRepository] at there
  | tail _ step ih =>
      obtain ⟨ω, clock, call, world, world', reply, built, ran⟩ := step
      obtain ⟨orderly, deliverable⟩ := ih
      exact ⟨(run_rounds orderly ran).orderly orderly,
        run_deliverable orderly.keyed deliverable built ran⟩

/-- Every delivery of the reference store is sound. -/
theorem Served.deliverable (served : Served codec repository) : repository.Deliverable codec :=
  served.orderly.2

end MemoryRepository

end SlotsGame.Rgs
