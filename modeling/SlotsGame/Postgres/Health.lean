/-
# SlotsGame.Postgres.Health -- the invariant of the store

`Healthy` says of every round that its row, its session's row and its ledger
entry are the ones the store itself wrote.  A healthy store reads every round
back, and its ledger is the one a claim relies on; so the integrity checks never
find anything to quarantine.

`Healthy.write` is the one way a transaction changes a round: its row, its ledger
entry and its session's row together.
-/
import SlotsGame.Postgres.Rows

namespace SlotsGame.Postgres

open SlotsGame.Game SlotsGame.Rgs SlotsGame.Theory

set_option autoImplicit false

/-- The three rows of a round. -/
structure Database.Holds (codec : Codec) (database : Database) (key : RoundKey) (row : RoundRow)
    (owner : SessionRow) (entry : WalletRow) (profile : Profile) (feature : FeatureState)
    (result : SpinResult) : Prop where
  found : database.rounds.lookup key = some row
  owned : database.sessions.lookup key.session = some owner
  booked : database.walletTransactions.lookup (row.transaction key) = some entry
  kept : row.Kept codec key owner profile feature result
  owns : owner.Owns key row
  books : entry.Books key row

structure Database.Healthy (codec : Codec) (database : Database) : Prop where
  rounds : ∀ key row, database.rounds.lookup key = some row →
    ∃ owner entry profile feature result,
      database.Holds codec key row owner entry profile feature result
  ledger : ∀ transaction entry, database.walletTransactions.lookup transaction = some entry →
    ∃ row, database.rounds.lookup ⟨transaction.operatorID, entry.sessionID, entry.roundID⟩ =
        some row ∧ row.serverTransactionID = transaction.transactionID

theorem Database.Healthy.empty (codec : Codec) : Database.empty.Healthy codec where
  rounds key row found := by simp [Database.empty] at found
  ledger transaction entry found := by simp [Database.empty] at found

section Reading

variable {codec : Codec} {database : Database} {key : RoundKey} {row : RoundRow}
  {owner : SessionRow} {entry : WalletRow} {profile : Profile} {feature : FeatureState}
  {result : SpinResult}

/-! ## What a healthy store reads back -/

theorem Database.Holds.lockSession
    (holds : database.Holds codec key row owner entry profile feature result) :
    ∃ session, database.lockSession key.session = .ok session := by
  obtain ⟨input, reads⟩ := holds.owns.reads
  exact ⟨_, lockSession_ok.mpr ⟨owner, input, holds.owned, reads, rfl⟩⟩

theorem Database.Holds.lockRound
    (holds : database.Holds codec key row owner entry profile feature result) :
    database.lockRound codec key = .ok (row.reading codec key owner profile feature result) :=
  lockRound_ok.mpr ⟨row, owner, holds.found, holds.owned,
    scanRound_ok.mpr ⟨profile, feature, result, holds.kept.reads, rfl⟩⟩

/-- A round is read back from its three rows. -/
theorem Database.Healthy.lockRound_ok (healthy : database.Healthy codec) {record : RoundRecord} :
    database.lockRound codec key = .ok record ↔
      ∃ row owner entry profile feature result,
        database.Holds codec key row owner entry profile feature result ∧
          record = row.reading codec key owner profile feature result := by
  constructor
  · intro locked
    obtain ⟨row, owner, found, _, _⟩ := Postgres.lockRound_ok.mp locked
    obtain ⟨owner, entry, profile, feature, result, holds⟩ := healthy.rounds key row found
    rw [holds.lockRound, Except.ok.injEq] at locked
    exact ⟨row, owner, entry, profile, feature, result, holds, locked.symm⟩
  · rintro ⟨row, owner, entry, profile, feature, result, holds, rfl⟩
    exact holds.lockRound

/-- The only round that cannot be read back is one that is not there. -/
theorem Database.Healthy.lockRound_error (healthy : database.Healthy codec) {error : RgsError}
    (locked : database.lockRound codec key = .error error) :
    error = { kind := .roundNotFound } ∧ database.rounds.lookup key = none := by
  cases found : database.rounds.lookup key with
  | none =>
      rw [Database.lockRound, found] at locked
      exact ⟨(Except.error.inj locked).symm, rfl⟩
  | some row =>
      obtain ⟨owner, entry, profile, feature, result, holds⟩ := healthy.rounds key row found
      rw [holds.lockRound] at locked
      cases locked

/-- The ledger of a round is its one entry. -/
theorem Database.Healthy.ledger_eq (healthy : database.Healthy codec)
    (holds : database.Holds codec key row owner entry profile feature result) :
    database.ledger key = [(row.transaction key, entry)] := by
  refine Table.rows_filter_single holds.booked ?_ ?_
  · simp [RoundRow.transaction, holds.books.session, holds.books.round]
  · rintro ⟨operatorID, transactionID⟩ third there selected
    obtain ⟨rfl, session, round⟩ := of_decide_eq_true selected
    obtain ⟨other, found, same⟩ := healthy.ledger _ third there
    rw [session, round] at found
    rw [holds.found, Option.some.injEq] at found
    simp [RoundRow.transaction, found, same]

theorem identifier_ne {value : String} (pattern : Text.identifierPattern value = true) :
    value ≠ "" := by
  rintro rfl
  exact absurd pattern (by decide)

/-- The recovery check accepts every claimable round. -/
theorem Database.Holds.recovers
    (holds : database.Holds codec key row owner entry profile feature result)
    (claimable : row.status = .prepared ∨ row.status = .walletPending) {session : Session}
    (locked : database.lockSession key.session = .ok session) :
    validateWalletRecoveryRecord codec session
      (row.reading codec key owner profile feature result) = .ok () := by
  obtain ⟨_, input, owned, reads, rfl⟩ := lockSession_ok.mp locked
  rw [holds.owned, Option.some.injEq] at owned
  subst owned
  obtain ⟨pending, revision⟩ := holds.owns.waits (RoundRow.waiting_of_claimable claimable)
  have identifiers := reads.valid.identifiers
  simp only [validateIdentifiers, forM_ok, List.forall_mem_cons, refuse_ok, Bool.not_eq_false,
    List.not_mem_nil, false_implies, implies_true, and_true] at identifiers
  obtain ⟨_, _, player, account, wallet, _, _⟩ := identifiers
  have described := holds.kept.reads.described
  simp only [checkResultColumns, bind_ok, refuse_ok, exists_unit, not_or, not_not] at described
  obtain ⟨⟨operator, session, round, game, version, hash, currency, kind, start, sequence, operation,
    bet, charged, win⟩, base, free⟩ := described
  have command := holds.kept.reads.command
  simp only [checkCommandColumns, bind_ok, refuse_ok, exists_unit, checkOr_ok] at command
  obtain ⟨_, _, _, _, _, _, chargedNonneg, winNonneg⟩ := holds.kept.reads.bounds
  have same : row.command codec owner (row.request key) result =
      walletCommandFor codec (owner.session key.session input) (row.request key)
        row.requestFingerprint result.serverTransactionID result := by
    rw [operation]
    rfl
  simp only [validateWalletRecoveryRecord, bind_ok, refuse_ok, exists_unit, not_or, not_not, not_lt]
  refine ⟨?status, ⟨rfl, rfl, rfl, identifier_ne player, identifier_ne account, identifier_ne wallet,
    holds.owns.game, holds.owns.version, holds.owns.hash, holds.owns.currency, ?pending,
    ?revision⟩, ⟨holds.kept.reads.request, holds.kept.reads.fingerprint, operator, session, round,
    game, version, hash, kind, currency, start, bet, ?charged, ?win⟩, ?base, ?free,
    ⟨same, command.2.2, holds.kept.supported⟩, holds.kept.reads.hashed⟩
  case status =>
    show ¬ (row.status ≠ .prepared ∧ row.status ≠ .walletPending)
    rcases claimable with status | status <;> simp [status]
  case pending =>
    show owner.pendingRoundID.getD "" = key.roundID
    rw [pending]
    rfl
  case revision =>
    show owner.revision.toNat = row.startingRevision.toNat
    rw [revision]
  case charged =>
    show 0 ≤ result.chargedBetMinor
    rwa [charged]
  case win =>
    show 0 ≤ result.totalWinMinor
    rwa [win]
  case base =>
    rintro ⟨kind, different⟩
    exact base ⟨kind, fun same => different (charged.trans same)⟩
  case free =>
    rintro ⟨kind, charge⟩
    exact free ⟨kind, fun same => charge (charged.trans same)⟩

/-- The ledger of every claimable round is the one its claim relies on. -/
theorem Database.Healthy.claims (healthy : database.Healthy codec)
    (holds : database.Holds codec key row owner entry profile feature result)
    (claimable : row.status = .prepared ∨ row.status = .walletPending) {session : Session}
    (locked : database.lockSession key.session = .ok session) :
    lockAndValidateWalletClaimLedger codec database session
      (row.reading codec key owner profile feature result) = .ok () := by
  have described := holds.kept.reads.described
  simp only [checkResultColumns, bind_ok, refuse_ok, exists_unit, not_or, not_not] at described
  have pending := holds.books.pending (RoundRow.waiting_of_claimable claimable)
  simp only [lockAndValidateWalletClaimLedger, bind_ok, refuse_ok, exists_unit]
  refine ⟨holds.recovers claimable locked, ?_⟩
  have ledger : database.ledger (row.reading codec key owner profile feature result).key =
      [(row.transaction key, entry)] := healthy.ledger_eq holds
  rw [ledger]
  simp only [List.length_singleton, ne_eq, not_true, false_or, List.head?_cons, Option.mem_some]
  rintro ⟨_, rfl, refused⟩
  refine refused ⟨rfl, rfl, holds.books.session, holds.books.round, holds.books.kind, .inl pending,
    holds.books.currency, holds.books.amount.trans described.1.2.2.2.2.2.2.2.2.2.2.2.2.1.symm,
    holds.books.fingerprint⟩

end Reading

/-! ## What keeps the store healthy -/

section Writing

variable {codec : Codec} {before after : Database} {key : RoundKey} {row : RoundRow}
  {owner : SessionRow} {entry : WalletRow} {profile : Profile} {feature : FeatureState}
  {result : SpinResult}

/-- A transaction that writes the three rows of one round. -/
structure Database.Writes (before after : Database) (key : RoundKey) (row : RoundRow)
    (owner : SessionRow) (entry : WalletRow) : Prop where
  rounds : ∀ other, after.rounds.lookup other =
    if other = key then some row else before.rounds.lookup other
  sessions : ∀ other, after.sessions.lookup other =
    if other = key.session then some owner else before.sessions.lookup other
  transactions : ∀ other, after.walletTransactions.lookup other =
    if other = row.transaction key then some entry else before.walletTransactions.lookup other
  reviews : ∀ other, other ≠ key →
    after.riskReviews.lookup other = before.riskReviews.lookup other

theorem Database.Writes.lockRound (writes : before.Writes after key row owner entry)
    (kept : row.Kept codec key owner profile feature result) :
    after.lockRound codec key = .ok (row.reading codec key owner profile feature result) :=
  lockRound_ok.mpr ⟨row, owner, by rw [writes.rounds, if_pos rfl],
    by rw [writes.sessions, if_pos rfl],
    scanRound_ok.mpr ⟨profile, feature, result, kept.reads, rfl⟩⟩

theorem lockRound_putRound (owned : before.sessions.lookup key.session = some owner)
    (kept : row.Kept codec key owner profile feature result) :
    (before.putRound key row).lockRound codec key =
      .ok (row.reading codec key owner profile feature result) :=
  lockRound_ok.mpr ⟨row, owner, by simp [Database.putRound], owned,
    scanRound_ok.mpr ⟨profile, feature, result, kept.reads, rfl⟩⟩

/-! ## What every other round is read back as -/

/-- Every round that is not one of `keys` is read back as before. -/
def Database.Keeps (codec : Codec) (before : Database) (keys : List RoundKey) (after : Database) :
    Prop :=
  ∀ other record, other ∉ keys → before.lockRound codec other = .ok record →
    after.lockRound codec other = .ok record

/-- No round is in quarantine. -/
def Database.Unmarked (database : Database) : Prop :=
  ∀ key row, database.rounds.lookup key = some row → row.integrityQuarantinedAt = none

/-- A healthy store after a transaction that moved the rounds `keys` and their reviews
only, and put none in quarantine.  A committed round may be acknowledged any time. -/
structure Database.Follows (codec : Codec) (before : Database) (keys : List RoundKey)
    (after : Database) : Prop where
  healthy : after.Healthy codec
  keeps : before.Keeps codec keys after
  rows : ∀ other third, other ∉ keys → third.status ≠ .committed →
    (after.rounds.lookup other = some third ↔ before.rounds.lookup other = some third)
  reviews : ∀ other, other ∉ keys →
    after.riskReviews.lookup other = before.riskReviews.lookup other
  unmarked : before.Unmarked → after.Unmarked

theorem Database.Healthy.follows (healthy : before.Healthy codec) {keys : List RoundKey} :
    before.Follows codec keys before :=
  ⟨healthy, fun _ _ _ locked => locked, fun _ _ _ _ => .rfl, fun _ _ => rfl,
    fun unmarked => unmarked⟩

/-- A later transaction on the same rounds. -/
theorem Database.Follows.trans {last : Database} {keys further : List RoundKey}
    (first : before.Follows codec keys after) (second : after.Follows codec further last)
    (within : ∀ key ∈ further, key ∈ keys) : before.Follows codec keys last := by
  have apart_ {other : RoundKey} (apart : other ∉ keys) : other ∉ further :=
    fun member => apart (within other member)
  refine ⟨second.healthy, fun other record apart locked => ?_, fun other third apart open_ => ?_,
    fun other apart => ?_, fun unmarked => second.unmarked (first.unmarked unmarked)⟩
  · exact second.keeps other record (apart_ apart) (first.keeps other record apart locked)
  · exact (second.rows other third (apart_ apart) open_).trans (first.rows other third apart open_)
  · exact (second.reviews other (apart_ apart)).trans (first.reviews other apart)

theorem lockRound_congr {other : Database}
    (rounds : other.rounds.lookup key = before.rounds.lookup key)
    (sessions : other.sessions = before.sessions) :
    other.lockRound codec key = before.lockRound codec key := by
  unfold Database.lockRound
  rw [rounds, sessions]

/-- A transaction that touches no session, and only the rounds `keys`. -/
theorem Database.Keeps.of_rounds {keys : List RoundKey} (sessions : after.sessions = before.sessions)
    (rounds : ∀ other, other ∉ keys → after.rounds.lookup other = before.rounds.lookup other) :
    before.Keeps codec keys after := by
  intro other record apart locked
  rw [lockRound_congr (rounds other apart) sessions]
  exact locked

/-- A round is read back under any later row of its session. -/
theorem Database.Holds.lockRound_under (holds : before.Holds codec key row owner entry profile feature
    result) {next : SessionRow} {input : FeatureState} (reads : next.Reads key.session input)
    (continues : owner.Continues next)
    (rounds : after.rounds.lookup key = before.rounds.lookup key)
    (owned : after.sessions.lookup key.session = some next) :
    after.lockRound codec key = .ok (row.reading codec key owner profile feature result) := by
  rw [← RoundRow.reading_owner continues]
  refine lockRound_ok.mpr ⟨row, next, rounds.trans holds.found, owned, ?_⟩
  exact scanRound_ok.mpr ⟨profile, feature, result, (holds.kept.under reads continues).reads, rfl⟩

theorem Database.Writes.keeps (writes : before.Writes after key row owner entry)
    (healthy : before.Healthy codec) {input : FeatureState} (reads : owner.Reads key.session input)
    (continues : ∀ old, before.sessions.lookup key.session = some old → old.Continues owner) :
    before.Keeps codec [key] after := by
  intro other record apart locked
  rw [List.mem_singleton] at apart
  obtain ⟨third, old, booked, profile, feature, result, holds, rfl⟩ :=
    healthy.lockRound_ok.mp locked
  have rounds : after.rounds.lookup other = before.rounds.lookup other := by
    rw [writes.rounds, if_neg apart]
  by_cases sibling : other.session = key.session
  · have reads' : owner.Reads other.session input := by rwa [sibling]
    have was := holds.owned
    rw [sibling] at was
    exact holds.lockRound_under reads' (continues old was) rounds
      (by rw [writes.sessions, if_pos sibling])
  · refine lockRound_ok.mpr ⟨third, old, rounds.trans holds.found, ?_, ?_⟩
    · rw [writes.sessions, if_neg sibling]
      exact holds.owned
    · exact scanRound_ok.mpr ⟨profile, feature, result, holds.kept.reads, rfl⟩

/-- Health is about these three tables. -/
theorem Database.Healthy.congr (healthy : before.Healthy codec) {keys : List RoundKey}
    (rounds : after.rounds = before.rounds) (sessions : after.sessions = before.sessions)
    (transactions : after.walletTransactions = before.walletTransactions)
    (reviews : ∀ other, other ∉ keys →
      after.riskReviews.lookup other = before.riskReviews.lookup other) :
    before.Follows codec keys after := by
  refine ⟨⟨?_, ?_⟩, .of_rounds sessions fun _ _ => by rw [rounds],
    fun _ _ _ _ => by rw [rounds], reviews, fun unmarked key row found => unmarked key row (rounds ▸ found)⟩
  · intro key row found
    rw [rounds] at found
    obtain ⟨owner, entry, profile, feature, result, holds⟩ := healthy.rounds key row found
    exact ⟨owner, entry, profile, feature, result,
      { holds with
        found := by rw [rounds]; exact holds.found
        owned := by rw [sessions]; exact holds.owned
        booked := by rw [transactions]; exact holds.booked }⟩
  · intro transaction entry found
    rw [transactions] at found
    rw [rounds]
    exact healthy.ledger transaction entry found

/-- Two waiting rounds of one session are one round. -/
theorem Database.Healthy.waiting_unique (healthy : before.Healthy codec) {other : RoundKey}
    {third : RoundRow} (found : before.rounds.lookup key = some row) (waiting : row.Waiting)
    (found' : before.rounds.lookup other = some third) (waiting' : third.Waiting)
    (session : other.session = key.session) : other = key := by
  obtain ⟨owner, _, _, _, _, holds⟩ := healthy.rounds key row found
  obtain ⟨owner', _, _, _, _, holds'⟩ := healthy.rounds other third found'
  have owned := holds'.owned
  rw [session, holds.owned, Option.some.injEq] at owned
  subst owned
  have pending := (holds.owns.waits waiting).1.symm.trans (holds'.owns.waits waiting').1
  obtain ⟨operatorID, sessionID, roundID⟩ := key
  obtain ⟨operatorID', sessionID', roundID'⟩ := other
  simp only [RoundKey.session, SessionKey.mk.injEq] at session
  simp only [Option.some.injEq] at pending
  rw [session.1, session.2, pending]

/-- Writing the rows of one round keeps every other round. -/
theorem Database.Healthy.rewrite (healthy : before.Healthy codec)
    (writes : before.Writes after key row owner entry)
    (kept : row.Kept codec key owner profile feature result) (owns : owner.Owns key row)
    (books : entry.Books key row)
    (continues : ∀ old, before.sessions.lookup key.session = some old → old.Continues owner)
    (alone : (∃ old, before.sessions.lookup key.session = some old ∧
        owner.pendingRoundID = old.pendingRoundID ∧ owner.revision = old.revision) ∨
      ∀ other third, other ≠ key → other.session = key.session →
        before.rounds.lookup other = some third → ¬ third.Waiting)
    (same : ∀ old, before.rounds.lookup key = some old →
      old.serverTransactionID = row.serverTransactionID)
    (unique : ∀ old, before.walletTransactions.lookup (row.transaction key) = some old →
      old.sessionID = key.sessionID ∧ old.roundID = key.roundID) :
    after.Healthy codec ∧ before.Keeps codec [key] after := by
  obtain ⟨input, reads⟩ := owns.reads
  refine ⟨⟨?_, ?_⟩, writes.keeps healthy reads continues⟩
  · intro other third found
    rw [writes.rounds] at found
    by_cases this : other = key
    · subst this
      rw [if_pos rfl, Option.some.injEq] at found
      subst found
      exact ⟨owner, entry, profile, feature, result,
        { found := by rw [writes.rounds, if_pos rfl]
          owned := by rw [writes.sessions, if_pos rfl]
          booked := by rw [writes.transactions, if_pos rfl]
          kept := kept, owns := owns, books := books }⟩
    · rw [if_neg this] at found
      obtain ⟨old, booked, profile, feature, result, holds⟩ := healthy.rounds other third found
      -- an entry is found under one key only
      have apart : third.transaction other ≠ row.transaction key := by
        intro shared
        have there := holds.booked
        rw [shared] at there
        obtain ⟨session, round⟩ := unique _ there
        have operator : other.operatorID = key.operatorID := congrArg (·.operatorID) shared
        apply this
        obtain ⟨operatorID, sessionID, roundID⟩ := key
        obtain ⟨operatorID', sessionID', roundID'⟩ := other
        simp only [RoundKey.mk.injEq]
        exact ⟨operator, holds.books.session.symm.trans session,
          holds.books.round.symm.trans round⟩
      have booked_ := holds.booked
      by_cases sibling : other.session = key.session
      · have was := holds.owned
        rw [sibling] at was
        have reads : owner.Reads other.session input := by rwa [sibling]
        have continues := continues old was
        refine ⟨owner, booked, profile, feature, result,
          { found := by rw [writes.rounds, if_neg this]; exact found
            owned := by rw [writes.sessions, if_pos sibling]
            booked := by rw [writes.transactions, if_neg apart]; exact booked_
            kept := holds.kept.under reads continues
            owns := holds.owns.under ⟨input, reads⟩ continues ?_, books := holds.books }⟩
        intro waiting
        rcases alone with ⟨_, unchanged, waited⟩ | alone
        · rw [was, Option.some.injEq] at unchanged
          subst unchanged
          exact waited
        · exact absurd waiting (alone other third this sibling found)
      · exact ⟨old, booked, profile, feature, result,
          { holds with
            found := by rw [writes.rounds, if_neg this]; exact found
            owned := by rw [writes.sessions, if_neg sibling]; exact holds.owned
            booked := by rw [writes.transactions, if_neg apart]; exact booked_ }⟩
  · intro transaction third found
    rw [writes.transactions] at found
    by_cases this : transaction = row.transaction key
    · subst this
      rw [if_pos rfl, Option.some.injEq] at found
      subst found
      refine ⟨row, ?_, rfl⟩
      rw [writes.rounds, if_pos]
      rw [books.session, books.round]
      rfl
    · rw [if_neg this] at found
      obtain ⟨old, there, named⟩ := healthy.ledger transaction third found
      refine ⟨old, ?_, named⟩
      rw [writes.rounds, if_neg]
      · exact there
      · intro itself
        rw [itself] at there
        apply this
        obtain ⟨operatorID, transactionID⟩ := transaction
        simp only [RoundRow.transaction, TransactionKey.mk.injEq]
        exact ⟨congrArg (·.operatorID) itself, named.symm.trans (same old there)⟩

/-- A transaction that writes the rows of one round, and does not put it in quarantine. -/
theorem Database.Healthy.write (healthy : before.Healthy codec)
    (writes : before.Writes after key row owner entry)
    (kept : row.Kept codec key owner profile feature result) (owns : owner.Owns key row)
    (books : entry.Books key row)
    (continues : ∀ old, before.sessions.lookup key.session = some old → old.Continues owner)
    (alone : (∃ old, before.sessions.lookup key.session = some old ∧
        owner.pendingRoundID = old.pendingRoundID ∧ owner.revision = old.revision) ∨
      ∀ other third, other ≠ key → other.session = key.session →
        before.rounds.lookup other = some third → ¬ third.Waiting)
    (same : ∀ old, before.rounds.lookup key = some old →
      old.serverTransactionID = row.serverTransactionID)
    (unique : ∀ old, before.walletTransactions.lookup (row.transaction key) = some old →
      old.sessionID = key.sessionID ∧ old.roundID = key.roundID)
    (mark : row.integrityQuarantinedAt = none ∨ ∃ old, before.rounds.lookup key = some old ∧
      row.integrityQuarantinedAt = old.integrityQuarantinedAt) :
    before.Follows codec [key] after := by
  obtain ⟨healthy', keeps⟩ := healthy.rewrite writes kept owns books continues alone same unique
  refine ⟨healthy', keeps, fun other third apart _ => ?_, fun other apart => ?_,
    fun unmarked other third found => ?_⟩
  · rw [writes.rounds, if_neg (List.mem_singleton.not.mp apart)]
  · exact writes.reviews other (List.mem_singleton.not.mp apart)
  · rw [writes.rounds] at found
    split at found
    · rw [Option.some.injEq] at found
      subst found
      rcases mark with none | ⟨old, there, marked⟩
      · exact none
      · exact marked.trans (unmarked key old there)
    · exact unmarked other third found

/-- What no update of a round changes, of what its session and its ledger entry
are compared with. -/
structure RoundRow.Same (before after : RoundRow) : Prop where
  operation : after.serverTransactionID = before.serverTransactionID
  game : after.gameID = before.gameID
  version : after.definitionVersion = before.definitionVersion
  hash : after.definitionHash = before.definitionHash
  currency : after.currency = before.currency
  charged : after.chargedMinor = before.chargedMinor
  fingerprint : after.requestFingerprint = before.requestFingerprint
  start : after.startingRevision = before.startingRevision
  mark : after.integrityQuarantinedAt = before.integrityQuarantinedAt

/-- An update that does not send a round into review. -/
def RoundRow.Unreviewed (before after : RoundRow) : Prop :=
  after.status = before.status ∨ before.Waiting ∧ after.status ≠ .manualReview

theorem SessionRow.Owns.next (owns : owner.Owns key row) {next : RoundRow}
    (same : row.Same next) (waits : next.Waiting → row.Waiting) (moved : row.Unreviewed next) :
    owner.Owns key next where
  reads := owns.reads
  game := owns.game.trans same.game.symm
  version := owns.version.trans same.version.symm
  hash := owns.hash.trans same.hash.symm
  currency := owns.currency.trans same.currency.symm
  waits := by
    intro waiting
    obtain ⟨pending, revision⟩ := owns.waits (waits waiting)
    exact ⟨pending, revision.trans same.start.symm⟩
  reviewed := by
    intro review
    rcases moved with status | ⟨_, unreviewed⟩
    · exact owns.reviewed (status ▸ review)
    · exact absurd review unreviewed
  marked := by
    rw [same.mark]
    intro mark
    rcases moved with status | ⟨waiting, _⟩
    · rw [status]
      exact owns.marked mark
    · exact absurd (owns.waiting_unmarked waiting) mark

theorem WalletRow.Books.next (books : entry.Books key row) {next : RoundRow} (same : row.Same next)
    (waits : next.Waiting → row.Waiting) : entry.Books key next where
  session := books.session
  round := books.round
  kind := books.kind
  currency := books.currency.trans same.currency.symm
  amount := books.amount.trans same.charged.symm
  fingerprint := books.fingerprint.trans same.fingerprint.symm
  pending waiting := books.pending (waits waiting)

/-- An update of a round's own row. -/
theorem Database.Healthy.putRound (healthy : before.Healthy codec)
    (holds : before.Holds codec key row owner entry profile feature result) {next : RoundRow}
    {result' : SpinResult} (kept : next.Kept codec key owner profile feature result')
    (same : row.Same next) (waits : next.Waiting → row.Waiting) (moved : row.Unreviewed next) :
    before.Follows codec [key] (before.putRound key next) := by
  have operation : next.transaction key = row.transaction key := by
    rw [RoundRow.transaction, RoundRow.transaction, same.operation]
  refine healthy.write
    { rounds := fun other => by simp [Database.putRound]
      sessions := fun other => ?sessions, transactions := fun other => ?transactions
      reviews := fun _ _ => rfl } kept
    (holds.owns.next same waits moved) (holds.books.next same waits) ?continues
    (.inl ⟨owner, holds.owned, rfl, rfl⟩) ?same ?unique (.inr ⟨row, holds.found, same.mark⟩)
  case sessions =>
    split
    · next this => rw [this]; exact holds.owned
    · rfl
  case transactions =>
    rw [operation]
    split
    · next this => rw [this]; exact holds.booked
    · rfl
  case continues =>
    intro old owned
    rw [holds.owned, Option.some.injEq] at owned
    subst owned
    exact ⟨rfl, rfl, rfl, rfl, rfl, rfl, rfl, id⟩
  case same =>
    intro old found
    rw [holds.found, Option.some.injEq] at found
    rw [← found, same.operation]
  case unique =>
    intro old booked
    rw [operation, holds.booked, Option.some.injEq] at booked
    subst booked
    exact ⟨holds.books.session, holds.books.round⟩

/-- The end of a waiting round: its row, its ledger entry and its session's row. -/
theorem Database.Healthy.end_ (healthy : before.Healthy codec)
    (holds : before.Holds codec key row owner entry profile feature result) (waiting : row.Waiting)
    {next : RoundRow} {result' : SpinResult} {owner' : SessionRow} {input : FeatureState}
    (kept : next.Kept codec key owner profile feature result') (same : row.Same next)
    (ended : ¬ next.Waiting) (reads : owner'.Reads key.session input)
    (continues : owner.Continues owner')
    (blocks : next.status = .manualReview → owner'.status = .blocked) (money : TransactionStatus)
    (writes : before.Writes after key next owner' { entry with status := money }) :
    before.Follows codec [key] after := by
  have operation : next.transaction key = row.transaction key := by
    rw [RoundRow.transaction, RoundRow.transaction, same.operation]
  have books := holds.books.next same fun waits => absurd waits ended
  refine healthy.write writes (kept.under reads continues) ?owns ?books ?continues (.inr ?alone)
    ?same ?unique (.inr ⟨row, holds.found, same.mark⟩)
  case owns =>
    exact
      { reads := ⟨input, reads⟩
        game := continues.game.trans (holds.owns.game.trans same.game.symm)
        version := continues.version.trans (holds.owns.version.trans same.version.symm)
        hash := continues.hash.trans (holds.owns.hash.trans same.hash.symm)
        currency := continues.currency.trans (holds.owns.currency.trans same.currency.symm)
        waits := fun waits => absurd waits ended
        reviewed := blocks
        marked := fun mark =>
          absurd (same.mark.trans (holds.owns.waiting_unmarked waiting)) mark }
  case books =>
    exact { books with pending := fun waits => absurd waits ended }
  case continues =>
    intro old owned
    rw [holds.owned, Option.some.injEq] at owned
    subst owned
    exact continues
  case alone =>
    intro other third different session found waits
    exact different (healthy.waiting_unique holds.found waiting found waits session)
  case same =>
    intro old found
    rw [holds.found, Option.some.injEq] at found
    rw [← found, same.operation]
  case unique =>
    intro old booked
    rw [operation, holds.booked, Option.some.injEq] at booked
    subst booked
    exact ⟨holds.books.session, holds.books.round⟩

/-- An update of a session's row that no waiting round can tell. -/
theorem Database.Healthy.putSession (healthy : before.Healthy codec) {session : SessionKey}
    (owned : before.sessions.lookup session = some owner) {owner' : SessionRow}
    {input : FeatureState} (reads : owner'.Reads session input) (continues : owner.Continues owner')
    (waits : owner'.pendingRoundID = owner.pendingRoundID ∧ owner'.revision = owner.revision) :
    before.Follows codec [] (before.putSession session owner') := by
  refine ⟨⟨?rounds, healthy.ledger⟩, ?keeps, fun _ _ _ _ => .rfl, fun _ _ => rfl,
    fun unmarked => unmarked⟩
  case rounds =>
    intro key row found
    obtain ⟨old, entry, profile, feature, result, holds⟩ := healthy.rounds key row found
    by_cases this : key.session = session
    · subst this
      have same := holds.owned
      rw [owned, Option.some.injEq] at same
      subst same
      exact ⟨owner', entry, profile, feature, result,
        { found := found, owned := by simp [Database.putSession], booked := holds.booked
          kept := holds.kept.under reads continues
          owns := holds.owns.under ⟨input, reads⟩ continues fun _ => waits, books := holds.books }⟩
    · exact ⟨old, entry, profile, feature, result,
        { holds with
          owned := by simp [Database.putSession, this, holds.owned] }⟩
  case keeps =>
    intro other record _ locked
    obtain ⟨third, old, booked, profile, feature, result, holds, rfl⟩ :=
      healthy.lockRound_ok.mp locked
    by_cases sibling : other.session = session
    · subst sibling
      have was := holds.owned
      rw [owned, Option.some.injEq] at was
      subst was
      exact holds.lockRound_under reads continues rfl (by simp [Database.putSession])
    · refine Postgres.lockRound_ok.mpr ⟨third, old, holds.found, ?_, ?_⟩
      · simp [Database.putSession, sibling, holds.owned]
      · exact scanRound_ok.mpr ⟨profile, feature, result, holds.kept.reads, rfl⟩

/-- A session without rounds may be anything. -/
theorem Database.Healthy.putIdle (healthy : before.Healthy codec) {session : SessionKey}
    (idle : ∀ other third, before.rounds.lookup other = some third → other.session ≠ session)
    (owner : SessionRow) : before.Follows codec [] (before.putSession session owner) := by
  refine ⟨⟨?rounds, healthy.ledger⟩, ?keeps, fun _ _ _ _ => .rfl, fun _ _ => rfl,
    fun unmarked => unmarked⟩
  case rounds =>
    intro key row found
    obtain ⟨old, entry, profile, feature, result, holds⟩ := healthy.rounds key row found
    exact ⟨old, entry, profile, feature, result,
      { holds with
        owned := by simp [Database.putSession, idle key row found, holds.owned] }⟩
  case keeps =>
    intro other record _ locked
    obtain ⟨third, old, found, owned, scanned⟩ := Postgres.lockRound_ok.mp locked
    refine Postgres.lockRound_ok.mpr ⟨third, old, found, ?_, scanned⟩
    simp [Database.putSession, idle other third found, owned]

end Writing

/-! ## What a transaction wrote -/

section Stored

variable {codec : Codec} {before after database : Database} {key : RoundKey} {record : RoundRecord}

theorem lockRound_key (locked : database.lockRound codec key = .ok record) : record.key = key := by
  obtain ⟨row, owner, _, _, scanned⟩ := lockRound_ok.mp locked
  obtain ⟨profile, feature, result, _, rfl⟩ := scanRound_ok.mp scanned
  rfl

/-- A record that a healthy store reads back is written as it is read. -/
theorem Database.Healthy.persisted_eq (healthy : database.Healthy codec)
    (locked : database.lockRound codec key = .ok record) : persisted record = record := by
  obtain ⟨row, owner, entry, profile, feature, result, holds, rfl⟩ := healthy.lockRound_ok.mp locked
  exact holds.kept.persisted

/-- Every record is read back as it was written. -/
def ReadBack (codec : Codec) (database : Database) (written : List RoundRecord) : Prop :=
  ∀ record ∈ written, database.lockRound codec record.key = .ok (persisted record)

theorem ReadBack.nil : ReadBack codec database [] :=
  fun _ member => by cases member

/-- A healthy store after a transaction that wrote the records `written` and no
other round. -/
structure Database.Stored (codec : Codec) (before : Database) (written : List RoundRecord)
    (after : Database) : Prop where
  follows : before.Follows codec (written.map fun record => record.key) after
  written : ReadBack codec after written

theorem Database.Healthy.unchanged (healthy : before.Healthy codec) : before.Stored codec [] before :=
  ⟨healthy.follows, .nil⟩

theorem Database.Follows.stored_persisted (follows : before.Follows codec [key] after)
    (keyed : record.key = key) (read : after.lockRound codec key = .ok (persisted record)) :
    before.Stored codec [record] after := by
  refine ⟨by simpa [keyed] using follows, fun other member => ?_⟩
  rw [List.mem_singleton.mp member, keyed]
  exact read

/-- A record that is written as the columns spell it. -/
theorem Database.Follows.stored (follows : before.Follows codec [key] after)
    (read : after.lockRound codec key = .ok record) : before.Stored codec [record] after := by
  refine follows.stored_persisted (lockRound_key read) ?_
  rw [follows.healthy.persisted_eq read]
  exact read

end Stored

end SlotsGame.Postgres
