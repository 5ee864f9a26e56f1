/-
# SlotsGame.Postgres.Reading -- when a row is read back, and as what

`scanSession_ok` and `scanRound_ok` turn the two readers into the lists of what
they check (`SessionRow.Reads`, `RoundRow.Reads`).  Below them, what an update of
a row must establish for the row to be read back, one lemma per update: the
columns that no update touches are read as before.
-/
import SlotsGame.Postgres.Repository

namespace SlotsGame.Postgres

open SlotsGame.Game SlotsGame.Rgs SlotsGame.Theory

set_option autoImplicit false

theorem mapError_ok {ε ε' α : Type} {checked : Except ε α} {change : ε → ε'} {a : α} :
    checked.mapError change = .ok a ↔ checked = .ok a := by
  cases checked <;> simp [Except.mapError]

/-! ## Sessions -/

/-- What `validateSession` asks of a session, by what a transition may change. -/
structure ValidSession (session : Session) : Prop where
  identifiers : validateIdentifiers
    [("operatorId", session.operatorID), ("sessionId", session.sessionID),
      ("playerId", session.playerID), ("walletAccountId", session.walletAccountID),
      ("walletSessionId", session.walletSessionID), ("gameId", session.gameID),
      ("definitionVersion", session.definitionVersion)] = .ok ()
  digest : Text.digestPattern session.definitionHash = true
  currency : Text.currencyPattern session.currency = true
  exponent : 0 ≤ session.currencyExponent ∧ session.currencyExponent ≤ 6
  jurisdiction : Text.jurisdictionPattern session.jurisdiction = true
  status : knownSessionStatus session.status
  expires : session.expiresAt ≠ 0
  idle : Duration.second ≤ session.idleDisconnect ∧ session.idleDisconnect ≤ 24 * Duration.hour
  deadline : session.idleDisconnectAt ≠ 0 ∧ session.idleDisconnectAt ≤ session.expiresAt
  generation : session.transportGeneration ≠ 0 ∧ session.transportGeneration ≤ maxStateRevision
  balance : 0 ≤ session.balanceMinor
  sequence : session.sequence ≤ maxClientSequence
  revision : session.revision ≤ maxStateRevision
  pending : session.pendingRoundID = "" ∨ Text.identifierPattern session.pendingRoundID = true
  feature : validatePersistedFeatureState session.feature = .ok ()

theorem validateSession_ok {session : Session} :
    validateSession session = .ok () ↔ ValidSession session := by
  simp only [validateSession, bind_ok, refuse_ok, exists_unit]
  constructor
  · rintro ⟨identifiers, digest, currency, exponent, jurisdiction, status, expires, idle, balance,
      counters, pending, feature⟩
    simp only [not_or, not_lt, Bool.not_eq_false] at *
    refine
      { identifiers := identifiers, digest := digest, currency := currency
        exponent := ⟨by omega, by omega⟩, jurisdiction := jurisdiction, status := ?_
        expires := expires, idle := ⟨idle.1, idle.2.1⟩, deadline := ⟨idle.2.2.1, idle.2.2.2.1⟩
        generation := ⟨idle.2.2.2.2.1, idle.2.2.2.2.2⟩, balance := balance
        sequence := counters.1, revision := counters.2, pending := ?_, feature := ?_ }
    · unfold knownSessionStatus
      tauto
    · by_cases absent : session.pendingRoundID = ""
      · exact .inl absent
      · exact .inr (by simpa [absent] using pending)
    · split at feature
      · assumption
      · cases feature
  · intro valid
    have idle := valid.idle
    have deadline := valid.deadline
    have generation := valid.generation
    have status := valid.status
    unfold knownSessionStatus at status
    refine ⟨valid.identifiers, by simp [valid.digest], by simp [valid.currency], ?_,
      by simp [valid.jurisdiction], by tauto, valid.expires, ?_, not_lt.mpr valid.balance, ?_, ?_,
      ?_⟩
    · have := valid.exponent
      omega
    · simp only [not_or, not_lt]
      exact ⟨idle.1, idle.2, deadline.1, deadline.2, generation.1, generation.2⟩
    · have := valid.sequence
      have := valid.revision
      omega
    · rcases valid.pending with absent | pattern
      · simp [absent]
      · simp [pattern]
    · rw [valid.feature]
      rfl

/-- The row of a session is read back, with `feature`. -/
structure SessionRow.Reads (key : SessionKey) (row : SessionRow) (feature : FeatureState) : Prop where
  unmarked : row.integrityQuarantinedAt = none
  bounds : 0 ≤ row.sequence ∧ 0 ≤ row.revision ∧ 1 ≤ row.idleDisconnectSeconds ∧
    row.idleDisconnectSeconds ≤ 86400 ∧ 1 ≤ row.transportGeneration
  featured : row.featureState = .value feature
  valid : ValidSession (row.session key feature)

theorem scanSession_ok {key : SessionKey} {row : SessionRow} {session : Session} :
    scanSession key row = .ok session ↔
      ∃ feature, row.Reads key feature ∧ session = row.session key feature := by
  simp only [scanSession, bind_ok, refuse_ok, exists_unit, decodeColumn_ok, checkOr_ok, pure_ok,
    validateSession_ok, not_not, not_or, not_lt]
  constructor
  · rintro ⟨unmarked, ⟨sequence, revision, least, most, generation, _, _⟩, feature, featured, valid,
      rfl⟩
    exact ⟨feature, ⟨unmarked, ⟨sequence, revision, least, by omega, generation⟩, featured, valid⟩,
      rfl⟩
  · rintro ⟨feature, reads, rfl⟩
    obtain ⟨sequence, revision, least, most, generation⟩ := reads.bounds
    exact ⟨reads.unmarked, ⟨sequence, revision, least, by omega, generation,
      by have := reads.valid.sequence; simpa [SessionRow.session] using this,
      by have := reads.valid.generation.2; simpa [SessionRow.session] using this⟩, feature,
      reads.featured, reads.valid, rfl⟩

theorem lockSession_ok {database : Database} {key : SessionKey} {session : Session} :
    database.lockSession key = .ok session ↔
      ∃ owner feature, database.sessions.lookup key = some owner ∧ owner.Reads key feature ∧
        session = owner.session key feature := by
  unfold Database.lockSession
  cases found : database.sessions.lookup key with
  | none => simp
  | some owner => simp [scanSession_ok]

theorem lockSessionOrQuarantine_ok {database : Database} {key : SessionKey} {session : Session}
    {now : Time} :
    database.lockSessionOrQuarantine key now = .ok session ↔
      database.lockSession key = .ok session := by
  unfold Database.lockSessionOrQuarantine
  cases locked : database.lockSession key with
  | ok found => simp
  | error error =>
      simp only [reduceCtorEq, iff_false]
      split <;> simp

/-! ## Rounds -/

/-- The row of a round is read back, with these documents. -/
structure RoundRow.Reads (codec : Codec) (key : RoundKey) (row : RoundRow) (owner : SessionRow)
    (profile : Profile) (feature : FeatureState) (result : SpinResult) : Prop where
  unmarked : owner.integrityQuarantinedAt = none
  known : knownSessionStatus owner.status
  bounds : 0 ≤ row.startingRevision ∧ row.startingRevision < maxStateRevision ∧
    row.resultingRevision = row.startingRevision + 1 ∧ 1 ≤ row.sequence ∧
    row.sequence ≤ maxClientSequence ∧ 0 < row.betMinor ∧ 0 ≤ row.chargedMinor ∧ 0 ≤ row.winMinor
  profiled : scanWalletProfile row.walletProfile = .ok profile
  columns : checkRoundColumns row profile = .ok ()
  request : validateSpinRequest (row.request key) = .ok ()
  fingerprint : row.requestFingerprint = fingerprintFor codec (row.request key)
  featured : row.inputFeatureState = .value feature
  input : validateRoundInputFeature feature (row.request key) = .ok ()
  decoded : ∃ document, row.resultJSON = .value document ∧
    normalizePersistedSpinResult document = .ok result
  described : checkResultColumns row (row.request key) result = .ok ()
  structured : validateOutcomeStructure { betMinor := row.betMinor, feature := feature }
    (outcomeOf result row.winMinor) = .ok ()
  hashed : preparedOutcomeHashFor codec result = .ok row.outcomeHash
  receipt : checkReceiptColumns row result = .ok ()
  command : checkCommandColumns codec row (row.command codec owner (row.request key) result) = .ok ()

/-- The record a row is read back as. -/
def RoundRow.reading (codec : Codec) (key : RoundKey) (row : RoundRow) (owner : SessionRow)
    (profile : Profile) (feature : FeatureState) (result : SpinResult) : RoundRecord :=
  row.record key profile feature result (row.command codec owner (row.request key) result)

theorem scanRound_ok {codec : Codec} {key : RoundKey} {row : RoundRow} {owner : SessionRow}
    {record : RoundRecord} :
    scanRound codec key row owner = .ok record ↔
      ∃ profile feature result, row.Reads codec key owner profile feature result ∧
        record = row.reading codec key owner profile feature result := by
  simp only [scanRound, bind_ok, refuse_ok, exists_unit, decodeColumn_ok, checkOr_ok, pure_ok,
    mapError_ok, not_not, not_or, not_lt, not_le, ge_iff_le]
  constructor
  · rintro ⟨unmarked, known, ⟨least, most, next, positive, limit, bet, charged, win⟩, profile,
      profiled, columns, request, fingerprint, feature, featured, input, document, decoded, result,
      normal, described, structured, hashed, receipt, command, rfl⟩
    exact ⟨profile, feature, result, ⟨unmarked, known,
      ⟨least, most, next, positive, by omega, bet, charged, win⟩, profiled, columns, request,
      fingerprint, featured, input, ⟨document, decoded, normal⟩, described, structured, hashed,
      receipt, command⟩, rfl⟩
  · rintro ⟨profile, feature, result, reads, rfl⟩
    obtain ⟨least, most, next, positive, limit, bet, charged, win⟩ := reads.bounds
    obtain ⟨document, decoded, normal⟩ := reads.decoded
    exact ⟨reads.unmarked, reads.known,
      ⟨least, most, next, positive, by omega, bet, charged, win⟩, profile, reads.profiled,
      reads.columns, reads.request, reads.fingerprint, feature, reads.featured, reads.input,
      document, decoded, result, normal, reads.described, reads.structured, reads.hashed,
      reads.receipt, reads.command, rfl⟩

theorem lockRound_ok {codec : Codec} {database : Database} {key : RoundKey}
    {record : RoundRecord} :
    database.lockRound codec key = .ok record ↔
      ∃ row owner, database.rounds.lookup key = some row ∧
        database.sessions.lookup key.session = some owner ∧
        scanRound codec key row owner = .ok record := by
  unfold Database.lockRound
  cases round : database.rounds.lookup key with
  | none => simp
  | some row =>
      cases session : database.sessions.lookup key.session with
      | none => simp
      | some owner => simp

theorem lockRoundOrQuarantine_ok {codec : Codec} {database : Database} {key : RoundKey}
    {record : RoundRecord} {reason : Bytes} {now : Time} :
    database.lockRoundOrQuarantine codec key reason now = .ok record ↔
      database.lockRound codec key = .ok record := by
  unfold Database.lockRoundOrQuarantine
  cases locked : database.lockRound codec key with
  | ok found => simp
  | error error =>
      simp only [reduceCtorEq, iff_false]
      split
      · unfold Database.failQuarantined
        split <;> simp
      · simp

end SlotsGame.Postgres
