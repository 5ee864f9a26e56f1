/-
# SlotsGame.Postgres.Deliveries -- results of either schema

A result of the first schema is paid its nominal amounts when it is read; its hash is of
what it was written with, so it stays (`normalizePersistedSpinResult_hash`).
`ValidateResultDelivery` accepts exactly the deliveries that are sound once their result is
normal (`validateResultDelivery_ok`), and whatever a store commits is one.
-/
import SlotsGame.Rgs.Deliveries
import SlotsGame.Postgres.Durability

namespace SlotsGame.Postgres

open SlotsGame.Game SlotsGame.Rgs SlotsGame.Theory FeatureState

set_option autoImplicit false

variable {codec : Codec} {database after : Database} {result normal : SpinResult}

/-! ## Normal results -/

/-- A schema that a persisted result may have. -/
def supportedSchema (version : String) : Prop :=
  version = "" ∨ version = resultSchemaPaidFactsV1

/-- A win that is paid its nominal amounts. -/
def nominalWin (win : Win) : Win :=
  { win with
    paidAmountMinor := win.amountMinor
    pathAwards := win.pathAwards.map fun award => { award with paidAmountMinor := award.amountMinor } }

theorem nominalWin_nominal (win : Win) : nominalWin (nominalWin win) = nominalWin win := by
  simp [nominalWin, Function.comp_def]

theorem normalizePersistedSpinResult_cases :
    normalizePersistedSpinResult result = .ok normal ↔
      (result.resultSchemaVersion = "" ∧ normal = { result with wins := result.wins.map nominalWin }) ∨
        (result.resultSchemaVersion = resultSchemaPaidFactsV1 ∧ normal = result) := by
  unfold normalizePersistedSpinResult
  split
  · next legacy =>
    have current : result.resultSchemaVersion ≠ resultSchemaPaidFactsV1 := by
      rw [legacy]
      decide
    rw [Except.ok.injEq]
    constructor
    · rintro rfl
      exact .inl ⟨legacy, rfl⟩
    · rintro (⟨_, rfl⟩ | ⟨version, _⟩)
      · rfl
      · exact absurd version current
  · next current =>
    split
    · next version =>
      rw [Except.ok.injEq]
      constructor
      · rintro rfl
        exact .inr ⟨version, rfl⟩
      · rintro (⟨legacy, _⟩ | ⟨_, rfl⟩)
        · exact absurd legacy current
        · rfl
    · next other => simp [current, other]

/-- Every result of a supported schema has a normal form. -/
theorem normalizePersistedSpinResult_supported :
    (∃ normal, normalizePersistedSpinResult result = .ok normal) ↔
      supportedSchema result.resultSchemaVersion := by
  simp only [normalizePersistedSpinResult_cases]
  constructor
  · rintro ⟨normal, ⟨legacy, _⟩ | ⟨current, _⟩⟩
    · exact .inl legacy
    · exact .inr current
  · rintro (legacy | current)
    · exact ⟨_, .inl ⟨legacy, rfl⟩⟩
    · exact ⟨_, .inr ⟨current, rfl⟩⟩

/-- A normal result stays as it is. -/
theorem normalizePersistedSpinResult_normal
    (normalized : normalizePersistedSpinResult result = .ok normal) :
    normalizePersistedSpinResult normal = .ok normal := by
  rcases normalizePersistedSpinResult_cases.mp normalized with ⟨legacy, rfl⟩ | ⟨current, rfl⟩
  · refine normalizePersistedSpinResult_cases.mpr (.inl ⟨legacy, ?_⟩)
    have wins : (result.wins.map nominalWin).map nominalWin = result.wins.map nominalWin := by
      rw [List.map_map]
      refine List.map_congr_left fun win _ => ?_
      exact nominalWin_nominal win
    show _ = { result with wins := (result.wins.map nominalWin).map nominalWin }
    rw [wins]
  · exact normalized

/-- The historical projection leaves out what was filled in. -/
theorem legacyProjection_nominal (result : SpinResult) :
    makeLegacySpinResultHashProjection { result with wins := result.wins.map nominalWin } =
      makeLegacySpinResultHashProjection result := by
  simp [makeLegacySpinResultHashProjection, nominalWin, Function.comp_def]

theorem normalizePersistedSpinResult_hash (codec : Codec)
    (normalized : normalizePersistedSpinResult result = .ok normal) :
    outcomeHashFor codec normal = outcomeHashFor codec result ∧
      preparedOutcomeHashFor codec normal = preparedOutcomeHashFor codec result ∧
      committedResultHashFor codec normal = committedResultHashFor codec result := by
  have hashed : ∀ {result normal : SpinResult},
      normalizePersistedSpinResult result = .ok normal →
        outcomeHashFor codec normal = outcomeHashFor codec result := by
    intro result normal normalized
    rcases normalizePersistedSpinResult_cases.mp normalized with ⟨legacy, rfl⟩ | ⟨current, rfl⟩
    · unfold outcomeHashFor
      rw [if_pos legacy, if_pos legacy, legacyProjection_nominal]
    · rfl
  refine ⟨hashed normalized, hashed ?_, hashed normalized⟩
  -- the fields of the receipt are not the schema's
  rcases normalizePersistedSpinResult_cases.mp normalized with ⟨legacy, rfl⟩ | ⟨current, rfl⟩
  · exact normalizePersistedSpinResult_cases.mpr (.inl ⟨legacy, rfl⟩)
  · exact normalizePersistedSpinResult_cases.mpr (.inr ⟨current, rfl⟩)

/-! ## The check of a delivery -/

def validateResultDelivery (codec : Codec) (delivery : ResultDelivery) : Except RgsError Unit := do
  let result ← (normalizePersistedSpinResult delivery.result).mapError fun _ =>
    invalidRequest "invalid result schema"
  refuse (Text.identifierPattern delivery.operatorID = false ∨
      Text.identifierPattern delivery.sessionID = false ∨
      Text.identifierPattern delivery.roundID = false ∨
      delivery.operatorID ≠ result.operatorID ∨ delivery.sessionID ≠ result.sessionID ∨
      delivery.roundID ≠ result.roundID ∨ delivery.sequence ≠ result.sequence ∨
      delivery.sequence = 0 ∨ delivery.sequence > maxClientSequence ∨
      Text.digestPattern delivery.resultHash = false)
    (invalidRequest "invalid result delivery identity")
  refuse (committedResultHashFor codec result ≠ .ok delivery.resultHash)
    (invalidRequest "invalid result delivery hash")
  let origin := delivery.originFeatureState
  refuse (validatePersistedFeatureState origin ≠ .ok ())
    (invalidRequest "invalid result delivery origin")
  refuse (origin.active = true ∧ origin.betMinor ≠ result.betMinor)
    (invalidRequest "result delivery origin bet mismatch")
  let expectedCharge := if origin.active = true then 0 else result.betMinor
  refuse (result.roundKind ≠ expectedRoundKind origin ∨ result.chargedBetMinor ≠ expectedCharge ∨
      result.startRevision ≥ maxStateRevision ∨ result.endRevision ≠ result.startRevision + 1 ∨
      result.betMinor ≤ 0 ∨ result.balanceMinor < 0 ∨ result.totalWinMinor < 0 ∨
      Text.identifierPattern result.walletTransactionID = false)
    (invalidRequest "invalid committed result delivery")
  refuse (validateOutcomeStructure { betMinor := result.betMinor, feature := origin }
      (outcomeOf result result.totalWinMinor) ≠ .ok ())
    (invalidRequest "invalid result delivery outcome")

theorem committedHash_digest {hash : String}
    (hashed : committedResultHashFor codec result = .ok hash) :
    Text.digestPattern hash = true := by
  unfold committedResultHashFor outcomeHashFor at hashed
  split at hashed
  · obtain rfl := Except.ok.inj hashed
    exact codec.sha256_digest _
  · split at hashed
    · obtain rfl := Except.ok.inj hashed
      exact codec.sha256_digest _
    · cases hashed

/-- What the check accepts. -/
theorem validateResultDelivery_ok {delivery : ResultDelivery} :
    validateResultDelivery codec delivery = .ok () ↔
      ∃ normal, normalizePersistedSpinResult delivery.result = .ok normal ∧
        ResultDelivery.Sound codec { delivery with result := normal } := by
  simp only [validateResultDelivery, bind_ok, mapError_ok, refuse_ok, exists_unit, not_or, not_not,
    not_and, not_lt, not_le, ge_iff_le, gt_iff_lt, Bool.not_eq_false]
  constructor
  · rintro ⟨normal, normalized, ⟨operator, session, round, operator', session', round', sequence,
      positive, limit, _⟩, hashed, origin, locked, ⟨kind, charge, least, next, bet, balance, win,
      transaction⟩, structured⟩
    exact ⟨normal, normalized,
      { identifiers := ⟨operator, session, round⟩
        identity := ⟨operator', session', round', sequence⟩
        sequence := ⟨Nat.pos_of_ne_zero positive, limit⟩, hash := hashed, origin := origin
        locked := locked, kind := kind, charge := charge, revision := ⟨least, next⟩
        money := ⟨bet, balance, win⟩, transaction := transaction, structured := structured }⟩
  · rintro ⟨normal, normalized, sound⟩
    obtain ⟨operator, session, round⟩ := sound.identifiers
    obtain ⟨operator', session', round', sequence⟩ := sound.identity
    obtain ⟨positive, limit⟩ := sound.sequence
    obtain ⟨least, next⟩ := sound.revision
    obtain ⟨bet, balance, win⟩ := sound.money
    exact ⟨normal, normalized, ⟨operator, session, round, operator', session', round', sequence,
      Nat.ne_of_gt positive, limit, committedHash_digest sound.hash⟩, sound.hash, sound.origin,
      sound.locked, ⟨sound.kind, sound.charge, least, next, bet, balance, win, sound.transaction⟩,
      sound.structured⟩

theorem ResultDelivery.Sound.accepted {delivery : ResultDelivery}
    (sound : delivery.Sound codec)
    (normal : normalizePersistedSpinResult delivery.result = .ok delivery.result) :
    validateResultDelivery codec delivery = .ok () :=
  validateResultDelivery_ok.mpr ⟨delivery.result, normal, sound⟩

/-! ## Rounds read back -/

theorem validateRoundInputFeature_facts {feature : FeatureState} {request : SpinRequest}
    (input : validateRoundInputFeature feature request = .ok ()) (bet : 0 < request.betMinor) :
    validatePersistedFeatureState feature = .ok () ∧
      request.roundKind = expectedRoundKind feature ∧
      (feature.active = true → feature.betMinor = request.betMinor) := by
  simp only [validateRoundInputFeature, bind_ok, refuse_ok, exists_unit] at input
  obtain ⟨meter, state⟩ := input
  cases active : feature.active with
  | false =>
      rw [active, if_pos rfl, refuse_ok] at state
      simp only [not_or, not_and, not_not] at state
      obtain ⟨mode, remaining, awarded, stake, won, kind⟩ := state
      refine ⟨?_, by simp [expectedRoundKind, active, kind], fun spinning => by cases spinning⟩
      simp only [validatePersistedFeatureState, bind_ok, refuse_ok, exists_unit, active, if_true]
      refine ⟨meter, ?_, by simp [remaining, awarded, stake, won]⟩
      rintro ⟨unset, none⟩
      exact none (mode unset)
  | true =>
      rw [active, if_neg (by decide), refuse_ok] at state
      simp only [not_or, not_and, not_not, not_lt] at state
      obtain ⟨mode, least, awarded, most, most', stake, won, kind⟩ := state
      refine ⟨?_, by simp [expectedRoundKind, active, kind], fun _ => stake⟩
      simp only [validatePersistedFeatureState, bind_ok, refuse_ok, exists_unit, active,
        Bool.true_eq_false, if_false]
      refine ⟨meter, ?_, ?_⟩
      · rintro ⟨expansion, overdrive⟩
        exact overdrive (mode expansion)
      · rw [stake]
        omega

variable {key : RoundKey} {row : RoundRow} {owner : SessionRow} {profile : Profile}
variable {feature : FeatureState}

/-- A row that is read back is of a round that was played from its feature state. -/
theorem RoundRow.Reads.playable (reads : row.Reads codec key owner profile feature result) :
    Playable key (row.request key) feature result := by
  obtain ⟨_, _, _, positive, limit, bet, _, win⟩ := reads.bounds
  obtain ⟨origin, kind, locked⟩ := validateRoundInputFeature_facts reads.input bet
  have described := reads.described
  simp only [checkResultColumns, bind_ok, refuse_ok, exists_unit, not_or, not_not, not_and]
    at described
  obtain ⟨⟨operator, session, round, _, _, _, _, sameKind, start, sequence, _, sameBet, charged,
    won⟩, base, free⟩ := described
  refine
    { valid := reads.request, named := rfl, kind := kind, identity := ⟨operator, session, round⟩
      terms := ⟨sameKind, start, sameBet⟩
      base := fun spinning => charged.trans (base spinning)
      free := fun spinning => charged.trans (free spinning)
      locked := locked, sequence := ?_, credit := by rw [won]; exact win, origin := origin
      structured := ?_ }
  · omega
  · have same : result.spinOutcome = outcomeOf result row.winMinor := by
      rw [← won]
      rfl
    rw [same, sameBet]
    exact reads.structured

/-- A round that is read back has the schema of a normal result. -/
theorem RoundRow.Reads.normalized (reads : row.Reads codec key owner profile feature result) :
    normalizePersistedSpinResult result = .ok result := by
  obtain ⟨document, _, normalized⟩ := reads.decoded
  exact normalizePersistedSpinResult_normal normalized

theorem lockRound_playable {record : RoundRecord}
    (locked : database.lockRound codec key = .ok record) :
    record.key = key ∧ Playable key record.request record.inputFeatureState record.result ∧
      normalizePersistedSpinResult record.result = .ok record.result := by
  obtain ⟨row, owner, _, _, scanned⟩ := lockRound_ok.mp locked
  obtain ⟨profile, feature, result, reads, rfl⟩ := scanRound_ok.mp scanned
  exact ⟨rfl, reads.playable, reads.normalized⟩

/-! ## What the stores commit -/

theorem committedRecord_normal {record : RoundRecord} (receipt : WalletReceipt) (now : Time)
    (normal : normalizePersistedSpinResult record.result = .ok record.result) :
    normalizePersistedSpinResult (committedRecord record receipt now).result =
      .ok (committedRecord record receipt now).result := by
  rcases normalizePersistedSpinResult_cases.mp normal with ⟨legacy, same⟩ | ⟨current, _⟩
  · refine normalizePersistedSpinResult_cases.mpr (.inl ⟨legacy, ?_⟩)
    have wins : record.result.wins = record.result.wins.map nominalWin :=
      congrArg SpinResult.wins same
    show _ = { (committedRecord record receipt now).result with
      wins := record.result.wins.map nominalWin }
    rw [← wins]
    rfl
  · exact normalizePersistedSpinResult_cases.mpr (.inr ⟨current, rfl⟩)

variable {claim : WalletRecoveryClaim} {receipt : WalletReceipt} {now : Time}
variable {record : RoundRecord} {changed : Bool}

/-- A commit writes the hash of a delivery that is accepted, in any database. -/
theorem commitClaim_delivers
    (ran : database.commitClaim codec claim receipt now = .ok ((record, changed), after)) :
    ∃ row hash, after.rounds.lookup claim.record.key = some row ∧ row.resultHash = some hash ∧
      row.resultJSON = marshalResult record.result ∧ row.DeliveryPending ∧
      record.result.walletTransactionID = receipt.transactionID ∧
      validateResultDelivery codec (deliveryOf record hash 0) = .ok () := by
  obtain ⟨session, before, hash, rows, _, locked, _, confirmed, _, _, limit, rfl, _, hashed, _, _,
    rfl⟩ := commitClaim_ok.mp ran
  obtain ⟨named, playable, normal⟩ := lockRound_playable locked
  have sound := playable.delivers confirmed limit hashed
  rw [← named] at sound
  refine ⟨rows.round.committed (committedRecord before receipt now) receipt hash now, hash, ?_, rfl,
    rfl, ?_, rfl, ResultDelivery.Sound.accepted sound (committedRecord_normal receipt now normal)⟩
  · show (database.rounds.insert _ _).lookup _ = _
    rw [Table.lookup_insert, if_pos rfl]
  · exact ⟨rfl, rfl, rfl⟩

/-- Whatever a database holds, a delivery that it hands out is accepted if its wallet
transaction has a name. -/
theorem getPendingResultDelivery_accepted {target : SessionKey} {delivery : ResultDelivery}
    (ran : database.getPendingResultDelivery codec target now = .ok (delivery, after))
    (named : Text.identifierPattern delivery.result.walletTransactionID = true) :
    validateResultDelivery codec delivery = .ok () := by
  unfold Database.getPendingResultDelivery at ran
  split at ran
  · simp only [bind_ok] at ran
    obtain ⟨_, _, failed⟩ := ran
    cases failed
  · next roundKey row pending =>
    simp only [bind_ok, abortWhen_ok, exists_unit] at ran
    obtain ⟨_, ⟨record, later⟩, read, ran⟩ := ran
    obtain ⟨locked, rfl⟩ := getRound_ok.mp read
    split at ran
    · split at ran
      · exact absurd ran failQuarantined_ok
      · cases ran
    · next consistent =>
      obtain ⟨rfl, rfl⟩ := Prod.mk.inj (pure_ok.mp ran)
      simp only [not_or, not_not] at consistent
      obtain ⟨hashed, status, _⟩ := consistent
      obtain ⟨found, owner, there, owned, scanned⟩ := lockRound_ok.mp locked
      obtain ⟨profile, feature, result, reads, rfl⟩ := scanRound_ok.mp scanned
      obtain ⟨least, most, next, _⟩ := reads.bounds
      have receipt := reads.receipt
      have committed : found.status = .committed := status
      simp only [checkReceiptColumns, committed, refuse_ok, not_or, not_not, not_lt] at receipt
      obtain ⟨revision, _, _, _, balance, _, credit⟩ := receipt
      refine ResultDelivery.Sound.accepted
        (reads.playable.sound 0 ?_ ?_ ?_ named hashed) reads.normalized
      · show found.startingRevision.toNat < maxStateRevision
        omega
      · show result.endRevision = found.startingRevision.toNat + 1
        omega
      · rw [balance]
        exact credit

/-- The delivery that a session waits for after a commit is accepted. -/
theorem commitClaim_read
    (ran : database.commitClaim codec claim receipt now = .ok ((record, changed), after))
    {later : Time} {delivery : ResultDelivery} {final : Database}
    (read : after.getPendingResultDelivery codec claim.record.key.session later =
      .ok (delivery, final)) : validateResultDelivery codec delivery = .ok () := by
  refine getPendingResultDelivery_accepted read ?_
  obtain ⟨_, before, hash, rows, _, _, _, confirmed, _, _, _, rfl, _, _, _, free, rfl⟩ :=
    commitClaim_ok.mp ran
  simp only [validateWalletReceipt, refuse_ok, not_or, Bool.not_eq_false] at confirmed
  obtain ⟨_, _, _, _, _, _, transaction, _⟩ := confirmed
  unfold Database.getPendingResultDelivery at read
  split at read
  · simp only [bind_ok] at read
    obtain ⟨_, _, failed⟩ := read
    cases failed
  · next roundKey row pending =>
    have selected := List.find?_some pending
    simp only [decide_eq_true_eq] at selected
    have found := Table.mem_rows.mp (List.mem_of_find?_eq_some pending)
    have stored : (database.rounds.insert claim.record.key (rows.round.committed
        (committedRecord before receipt now) receipt hash now)).lookup roundKey = some row := found
    -- no other round of the session waits to be delivered
    have written : row = rows.round.committed (committedRecord before receipt now) receipt hash
        now := by
      rw [Table.lookup_insert] at stored
      split at stored
      · exact (Option.some.inj stored).symm
      · exact absurd ⟨(roundKey, row), Table.mem_rows.mpr stored, selected⟩ free
    simp only [bind_ok, abortWhen_ok, exists_unit] at read
    obtain ⟨_, ⟨record, _⟩, got, read⟩ := read
    obtain ⟨locked, rfl⟩ := getRound_ok.mp got
    split at read
    · split at read
      · exact absurd read failQuarantined_ok
      · cases read
    · obtain ⟨rfl, rfl⟩ := Prod.mk.inj (pure_ok.mp read)
      obtain ⟨row', owner, found', _, scanned⟩ := lockRound_ok.mp locked
      obtain rfl : row' = row := Option.some.inj (found'.symm.trans found)
      obtain ⟨profile, feature, result, reads, rfl⟩ := scanRound_ok.mp scanned
      obtain ⟨document, decoded, normalized⟩ := reads.decoded
      rw [written] at decoded
      obtain rfl := Document.value.inj decoded
      rcases normalizePersistedSpinResult_cases.mp normalized with ⟨_, rfl⟩ | ⟨_, rfl⟩
      · exact transaction
      · exact transaction

/-- Results of every supported schema have one normal form, which hashes as they do, and
every delivery that a store commits is accepted once its result is normal: every delivery
of a reference store that servers have used, and the delivery of every commit to any
database, as it was committed and as the database hands it out again. -/
theorem persisted_results_normalize (codec : Codec) :
    (∀ result, supportedSchema result.resultSchemaVersion →
      ∃ normal, normalizePersistedSpinResult result = .ok normal ∧
        normalizePersistedSpinResult normal = .ok normal ∧
        outcomeHashFor codec normal = outcomeHashFor codec result ∧
        preparedOutcomeHashFor codec normal = preparedOutcomeHashFor codec result ∧
        committedResultHashFor codec normal = committedResultHashFor codec result) ∧
    (∀ repository, MemoryRepository.Served codec repository →
      ∀ target entry id delivery, repository.sessions.lookup target = some entry →
        entry.deliveries.lookup id = some delivery →
          validateResultDelivery codec delivery = .ok ()) ∧
    ∀ (database after : Database) claim receipt now record changed,
      database.commitClaim codec claim receipt now = .ok ((record, changed), after) →
        (∃ row hash, after.rounds.lookup claim.record.key = some row ∧ row.DeliveryPending ∧
          row.resultHash = some hash ∧
          validateResultDelivery codec (deliveryOf record hash 0) = .ok ()) ∧
        ∀ later delivery final,
          after.getPendingResultDelivery codec claim.record.key.session later =
            .ok (delivery, final) → validateResultDelivery codec delivery = .ok () := by
  refine ⟨fun result supported => ?_, ?_, ?_⟩
  · obtain ⟨normal, normalized⟩ := normalizePersistedSpinResult_supported.mpr supported
    exact ⟨normal, normalized, normalizePersistedSpinResult_normal normalized,
      normalizePersistedSpinResult_hash codec normalized⟩
  · intro repository served target entry id delivery there delivered
    obtain ⟨sound, schema⟩ := (served.deliverable target entry there).deliveries id delivery
      delivered
    exact ResultDelivery.Sound.accepted sound
      (normalizePersistedSpinResult_cases.mpr (.inr ⟨schema, rfl⟩))
  · intro database after claim receipt now record changed ran
    obtain ⟨row, hash, found, hashed, _, pending, _, accepted⟩ := commitClaim_delivers ran
    exact ⟨⟨row, hash, found, pending, hashed, accepted⟩,
      fun later delivery final read => commitClaim_read ran read⟩

end SlotsGame.Postgres
