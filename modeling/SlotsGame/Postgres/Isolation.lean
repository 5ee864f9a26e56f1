/-
# SlotsGame.Postgres.Isolation -- taking one round out by hand

`MarkManualReview` quarantines a round whatever its state.  A quarantined row is
still the row the store wrote, so the store stays healthy; with that step added,
`Operated` is every database that servers, operators and manual reviews lead to.

`Custody` is what a store has of its sessions and rounds, and `Undisturbed` is
what a step about one round leaves alone.  The durable store never disturbs
another round.  The reference store points its session at the round it marks,
so it does, when the session waits for another one; `mark_disturbs_iff` says
exactly when the two do what they should.
-/
import SlotsGame.Rgs.Custody
import SlotsGame.Postgres.Durability

namespace SlotsGame.Postgres

open SlotsGame.Game SlotsGame.Rgs SlotsGame.Theory

set_option autoImplicit false

variable {ω : Type} {codec : Codec} {settings : Settings} {database after : Database}
  {key : RoundKey} {row : RoundRow} {owner : SessionRow} {entry : WalletRow} {profile : Profile}
  {feature : FeatureState} {result : SpinResult}

/-! ## The row of a quarantined round -/

theorem RoundRow.Kept.status (kept : row.Kept codec key owner profile feature result) :
    Unreceipted row.status ∨ row.status = .committed := by
  have receipt := kept.reads.receipt
  unfold checkReceiptColumns at receipt
  unfold Unreceipted
  split at receipt <;> simp_all

/-- No round that was written has been rolled back. -/
theorem RoundRow.Kept.final_iff (kept : row.Kept codec key owner profile feature result) :
    economicallyFinal row.status ↔ row.status = .committed := by
  refine ⟨fun final => ?_, .inl⟩
  rcases final with committed | rolledBack
  · exact committed
  · rcases kept.status with status | committed
    · rw [rolledBack] at status
      rcases status with status | status | status | status | status <;> cases status
    · exact committed

/-- A quarantine mark is not read back. -/
theorem RoundRow.Kept.mark (kept : row.Kept codec key owner profile feature result)
    (at_ : Option Time) :
    { row with integrityQuarantinedAt := at_ }.Kept codec key owner profile feature result :=
  { kept with
    reads := { kept.reads with }
    whole := { kept.whole with } }

theorem RoundRow.Kept.quarantined (kept : row.Kept codec key owner profile feature result)
    (reason : Bytes) (now : Time) :
    (row.quarantined reason now).Kept codec key owner profile feature result := by
  have whole (status : RoundStatus) : (row.replan status .unset none none row.applyAttempts
      row.lookupAttempts row.retryCount (some reason) (stored now)).Whole :=
    ⟨kept.whole.created, stored_stored _, by rintro _ ⟨⟩, by rintro _ ⟨⟩⟩
  have columns (status : RoundStatus) (ended : status = .committed ∨ status = .manualReview) :
      checkRoundColumns (row.replan status .unset none none row.applyAttempts row.lookupAttempts
        row.retryCount (some reason) (stored now)) profile = .ok () := by
    refine RoundRow.columns_ended kept.reads.counters ?_
    intro waiting
    change status = .prepared ∨ status = .riskPending ∨ status = .walletPending at waiting
    rcases ended with rfl | rfl <;> simp at waiting
  unfold RoundRow.quarantined
  by_cases committed : row.status = .committed
  · -- the receipt stays; only the plan of the round is gone
    have same : (if economicallyFinal row.status then row.status else .manualReview) =
        RoundStatus.committed := by
      rw [if_pos (.inl committed), committed]
    have final : (row.replan .committed .unset none none row.applyAttempts row.lookupAttempts
        row.retryCount (some reason) (stored now)).Kept codec key owner profile feature result := by
      have receipt := kept.reads.receipt
      have command := kept.reads.command
      simp only [checkReceiptColumns, committed] at receipt
      simp only [checkCommandColumns, bind_ok, refuse_ok, exists_unit] at command
      refine
        { kept with
          reads :=
            { kept.reads with
              columns := columns _ (.inl rfl), receipt := receipt, command := ?_ }
          whole := whole _, delivered := fun _ => kept.delivered committed }
      simp only [checkCommandColumns, bind_ok, refuse_ok, exists_unit]
      exact ⟨fun missing => kept.digested missing.2, command.2⟩
    rw [same]
    exact final.mark (some (stored now))
  · have same : (if economicallyFinal row.status then row.status else .manualReview) =
        RoundStatus.manualReview := if_neg (kept.final_iff.not.mpr committed)
    rw [same]
    exact (kept.replan (kept.status.resolve_right committed) (.inr (.inr (.inr (.inr rfl))))
      (columns _ (.inr rfl)) (whole _)).mark (some (stored now))

theorem RoundRow.Kept.quarantined_status (kept : row.Kept codec key owner profile feature result)
    (reason : Bytes) (now : Time) :
    (row.quarantined reason now).status =
      if row.status = .committed then .committed else .manualReview := by
  show (if economicallyFinal row.status then row.status else .manualReview) = _
  rw [if_congr kept.final_iff rfl rfl]
  split
  · next committed => exact committed
  · rfl

theorem RoundRow.Kept.quarantined_ended (kept : row.Kept codec key owner profile feature result)
    (reason : Bytes) (now : Time) : ¬ (row.quarantined reason now).Waiting := by
  intro waiting
  unfold RoundRow.Waiting at waiting
  rw [kept.quarantined_status] at waiting
  split at waiting <;> simp at waiting

/-! ## The quarantine of a round -/

/-- What is left of the ledger entry of a round that is quarantined. -/
def WalletRow.quarantined (entry : WalletRow) (row : RoundRow) : WalletRow :=
  if economicallyFinal row.status then entry
  else entry.settle (if row.status = .riskPending then .failed else .unknown)

theorem WalletRow.quarantined_kept (entry : WalletRow) (row : RoundRow) :
    (entry.quarantined row).sessionID = entry.sessionID ∧
      (entry.quarantined row).roundID = entry.roundID ∧
      (entry.quarantined row).kind = entry.kind ∧
      (entry.quarantined row).currency = entry.currency ∧
      (entry.quarantined row).amountMinor = entry.amountMinor ∧
      (entry.quarantined row).requestFingerprint = entry.requestFingerprint := by
  unfold WalletRow.quarantined WalletRow.settle
  split
  · simp
  · split <;> simp

def SessionRow.block (owner : SessionRow) : SessionRow := { owner with status := .blocked }

/-- The database after the quarantine of a round. -/
def Database.isolated (database : Database) (key : RoundKey) (row : RoundRow) (reason : Bytes)
    (now : Time) : Database :=
  let recorded := database.putRound key (row.quarantined reason now)
  let settled :=
    if economicallyFinal row.status then recorded
    else recorded.updateTransaction (row.transaction key) fun entry =>
      entry.settle (if row.status = .riskPending then .failed else .unknown)
  settled.blockSession key.session

theorem quarantineCorruptRound_ok {reason : Bytes} {now : Time} :
    (∃ reply, database.quarantineCorruptRound key reason now = .ok (reply, after)) ↔
      ∃ row, database.rounds.lookup key = some row ∧
        ((row.integrityQuarantinedAt ≠ none ∧ after = database) ∨
          (row.integrityQuarantinedAt = none ∧ TextColumn (quarantineReason reason) ∧
            after = database.isolated key row (quarantineReason reason) now)) := by
  unfold Database.quarantineCorruptRound
  simp only [bind_ok, require_ok]
  constructor
  · rintro ⟨reply, row, found, ran⟩
    refine ⟨row, found, ?_⟩
    split at ran
    · next mark => exact .inl ⟨mark, (Prod.mk.inj (pure_ok.mp ran)).2.symm⟩
    · next mark =>
      simp only [bind_ok, abortWhen_ok, exists_unit, not_not, pure_ok, Prod.mk.injEq] at ran
      exact .inr ⟨not_not.mp mark, ran.1, ran.2.2.symm⟩
  · rintro ⟨row, found, ⟨mark, rfl⟩ | ⟨mark, text, rfl⟩⟩
    · exact ⟨_, row, found, by rw [if_pos mark]; rfl⟩
    · exact ⟨_, row, found, (if_neg (not_not.mpr mark)).trans
        (bind_ok.mpr ⟨(), by simpa using text, rfl⟩)⟩

/-- The quarantine of a round writes nothing before it stops. -/
theorem quarantineCorruptRound_leaves {holds : Database → Prop} {reason : Bytes} {now : Time} :
    Leaves holds (database.quarantineCorruptRound key reason now) := by
  unfold Database.quarantineCorruptRound
  refine Leaves.bind (Leaves.require _ _) fun _ _ => ?_
  split
  · exact Leaves.ok _
  · exact Leaves.bind (Leaves.abortWhen _ _) fun _ _ => Leaves.ok _

theorem updateTransaction_lookup {database : Database} {booked : TransactionKey}
    (found : database.walletTransactions.lookup booked = some entry)
    (change : WalletRow → WalletRow) :
    database.updateTransaction booked change = database.putTransaction booked (change entry) := by
  unfold Database.updateTransaction
  rw [found]

theorem blockSession_lookup {database : Database} {session : SessionKey}
    (found : database.sessions.lookup session = some owner) :
    database.blockSession session = database.putSession session owner.block := by
  unfold Database.blockSession
  rw [found]
  rfl

/-- The quarantine of a round writes the round's three rows. -/
theorem Database.Holds.isolated
    (holds : database.Holds codec key row owner entry profile feature result) (reason : Bytes)
    (now : Time) :
    (database.isolated key row reason now).riskReviews = database.riskReviews ∧
      database.Writes (database.isolated key row reason now) key (row.quarantined reason now)
        owner.block (entry.quarantined row) := by
  have operation : (row.quarantined reason now).transaction key = row.transaction key := rfl
  by_cases final : economicallyFinal row.status
  · have same : database.isolated key row reason now =
        (database.putRound key (row.quarantined reason now)).putSession key.session owner.block := by
      simp only [Database.isolated, if_pos final]
      exact blockSession_lookup holds.owned
    have entry_ : entry.quarantined row = entry := if_pos final
    rw [same, entry_]
    refine ⟨rfl, fun other => by simp [Database.putSession, Database.putRound],
      fun other => by simp [Database.putSession, Database.putRound], fun other => ?_, fun _ _ => rfl⟩
    rw [operation]
    split
    · next this => rw [this]; exact holds.booked
    · rfl
  · have same : database.isolated key row reason now =
        ((database.putRound key (row.quarantined reason now)).putTransaction (row.transaction key)
          (entry.quarantined row)).putSession key.session owner.block := by
      simp only [Database.isolated, WalletRow.quarantined, if_neg final]
      rw [updateTransaction_lookup (by exact holds.booked)]
      exact blockSession_lookup holds.owned
    rw [same]
    exact ⟨rfl, fun other => by simp [Database.putSession, Database.putTransaction, Database.putRound],
      fun other => by simp [Database.putSession, Database.putTransaction, Database.putRound],
      fun other => by
        simp [Database.putSession, Database.putTransaction, Database.putRound, operation],
      fun _ _ => rfl⟩

theorem SessionRow.Reads.block {session : SessionKey} {input : FeatureState}
    (reads : owner.Reads session input) : owner.block.Reads session input :=
  { reads with valid := { reads.valid with status := .inr (.inl rfl) } }

theorem SessionRow.block_continues (owner : SessionRow) : owner.Continues owner.block :=
  ⟨rfl, rfl, rfl, rfl, rfl, rfl, rfl, fun _ => rfl⟩

/-- The quarantine of a round keeps the store healthy. -/
theorem Database.Healthy.isolated (healthy : database.Healthy codec)
    (holds : database.Holds codec key row owner entry profile feature result) (reason : Bytes)
    (now : Time) : (database.isolated key row reason now).Healthy codec := by
  obtain ⟨input, reads⟩ := holds.owns.reads
  have kept := holds.kept.quarantined reason now
  have ended := holds.kept.quarantined_ended reason now
  have continues := owner.block_continues
  obtain ⟨session, round, kind, currency, amount, fingerprint⟩ := entry.quarantined_kept row
  refine (healthy.rewrite (holds.isolated reason now).2 (kept.under reads.block continues) ?owns
    ?books ?continues (.inl ⟨owner, holds.owned, rfl, rfl⟩) ?same ?unique).1
  case owns =>
    refine ⟨⟨input, reads.block⟩, holds.owns.game, holds.owns.version, holds.owns.hash,
      holds.owns.currency, fun waits => absurd waits ended, fun _ => rfl, fun _ => ⟨rfl, ?_⟩⟩
    rw [holds.kept.quarantined_status]
    split
    · exact .inl rfl
    · exact .inr rfl
  case books =>
    exact ⟨session.trans holds.books.session, round.trans holds.books.round,
      kind.trans holds.books.kind, currency.trans holds.books.currency,
      amount.trans holds.books.amount, fingerprint.trans holds.books.fingerprint,
      fun waits => absurd waits ended⟩
  case continues =>
    intro old found
    rw [holds.owned, Option.some.injEq] at found
    subst found
    exact continues
  case same =>
    intro old found
    rw [holds.found, Option.some.injEq] at found
    rw [← found]
    rfl
  case unique =>
    intro old booked
    change database.walletTransactions.lookup (row.transaction key) = some old at booked
    rw [holds.booked, Option.some.injEq] at booked
    subst booked
    exact ⟨holds.books.session, holds.books.round⟩

/-! ## Manual review -/

/-- The database after `MarkManualReview`. -/
def Database.reviewed (database : Database) (key : RoundKey) (reason : Bytes) (now : Time) :
    Database :=
  (settle database (database.markManualReview key reason now)).2

/-- A round is quarantined at most once, and a key without a round quarantines at most
a session that cannot be read. -/
theorem Database.Healthy.reviewed_cases (healthy : database.Healthy codec) (key : RoundKey)
    (reason : Bytes) (now : Time) :
    database.reviewed key reason now = database ∨
      (database.rounds.lookup key = none ∧ database.reviewed key reason now =
        database.quarantineCorruptSession key.session now ∧
        ∃ error, database.lockSession key.session = .error error) ∨
      ∃ row, database.rounds.lookup key = some row ∧ row.integrityQuarantinedAt = none ∧
        TextColumn (quarantineReason reason) ∧
        database.reviewed key reason now =
          database.isolated key row (quarantineReason reason) now := by
  rcases ran : settle database (database.markManualReview key reason now) with ⟨reply, after⟩
  have reviewed : database.reviewed key reason now = after := by
    unfold Database.reviewed
    rw [ran]
  rw [reviewed]
  rcases settle_cases ran with ⟨answer, done, _⟩ | ⟨error, _, _, rfl⟩ | ⟨error, left, _⟩
  · unfold Database.markManualReview at done
    obtain ⟨_, _, done⟩ := bind_ok.mp done
    obtain ⟨row, found, ⟨_, rfl⟩ | ⟨mark, text, rfl⟩⟩ := quarantineCorruptRound_ok.mp ⟨_, done⟩
    · exact .inl rfl
    · exact .inr (.inr ⟨row, found, mark, text, rfl⟩)
  · exact .inl rfl
  · unfold Database.markManualReview at left
    rcases bind_committed.mp left with stopped | ⟨_, _, stopped⟩
    · unfold Database.lockSessionOrQuarantine at stopped
      split at stopped
      · cases stopped
      · next unread =>
        split at stopped
        · cases stopped
          refine .inr (.inl ⟨?_, rfl, _, unread⟩)
          cases found : database.rounds.lookup key with
          | none => rfl
          | some row => exact absurd rfl (healthy.unread unread key row found)
        · cases stopped
    · have never : Leaves (fun _ => False) (database.quarantineCorruptRound key reason now) :=
        quarantineCorruptRound_leaves
      exact absurd stopped (never error after)

theorem Database.Healthy.reviewed (healthy : database.Healthy codec) (key : RoundKey)
    (reason : Bytes) (now : Time) : (database.reviewed key reason now).Healthy codec := by
  rcases healthy.reviewed_cases key reason now with same | ⟨_, same, _, unread⟩ |
    ⟨row, found, _, _, same⟩
  · rw [same]
    exact healthy
  · rw [same]
    exact (healthy.quarantineCorruptSession unread now).healthy
  · obtain ⟨owner, entry, profile, feature, result, holds⟩ := healthy.rounds key row found
    rw [same]
    exact healthy.isolated holds _ now

/-- A round that is there is quarantined, if it is not already. -/
theorem Database.Holds.reviewed
    (holds : database.Holds codec key row owner entry profile feature result) {reason : Bytes}
    (text : TextColumn (quarantineReason reason)) (now : Time) :
    database.reviewed key reason now =
      if row.integrityQuarantinedAt = none then
        database.isolated key row (quarantineReason reason) now
      else database := by
  obtain ⟨session, locked⟩ := holds.lockSession
  have left : ∀ after, (∃ reply, database.quarantineCorruptRound key reason now =
      .ok (reply, after)) → database.reviewed key reason now = after := by
    rintro after ⟨reply, done⟩
    have marked : database.markManualReview key reason now = .ok (reply, after) :=
      bind_ok.mpr ⟨session, lockSessionOrQuarantine_ok.mpr locked, done⟩
    unfold Database.reviewed
    rw [marked]
    rfl
  refine left _ (quarantineCorruptRound_ok.mpr ⟨row, holds.found, ?_⟩)
  split
  · next mark => exact .inr ⟨mark, text, rfl⟩
  · next mark => exact .inl ⟨mark, rfl⟩

/-- One transaction of the store: a server's, or the quarantine of a round by hand. -/
inductive StoreStep (settings : Settings) : Database → Database → Prop
  | served {before after : Database} {written : List RoundRecord}
      (step : ServerStep settings before written after) : StoreStep settings before after
  | reviewed (before : Database) (key : RoundKey) (reason : Bytes) (now : Time) :
      StoreStep settings before (before.reviewed key reason now)

/-- The databases that every call and every decision lead to. -/
def Operated (settings : Settings) : Database → Prop :=
  Reachable (· = Database.empty) (StoreStep settings)

theorem StoreStep.healthy (step : StoreStep settings database after)
    (healthy : database.Healthy settings.codec) : after.Healthy settings.codec := by
  cases step with
  | served step => exact (step.stored healthy).follows.healthy
  | reviewed key reason now => exact healthy.reviewed key reason now

theorem Operated.healthy (operated : Operated settings database) :
    database.Healthy settings.codec := by
  refine Reachable.invariant (Database.Healthy settings.codec) ?_ ?_ operated
  · rintro _ rfl
    exact Database.Healthy.empty settings.codec
  · intro before after _ healthy step
    exact step.healthy healthy

/-! ## What the durable store has of its sessions and rounds -/

def Database.custody (database : Database) : Custody RoundRow TransactionKey WalletRow where
  pending session :=
    (database.sessions.lookup session).map fun owner => owner.pendingRoundID.getD ""
  round key := database.rounds.lookup key
  entries key :=
    { booked | database.walletTransactions.lookup booked.1 = some booked.2 ∧
        (⟨booked.1.operatorID, booked.2.sessionID, booked.2.roundID⟩ : RoundKey) = key }

def Database.standing (database : Database) (key : RoundKey) : Option Standing := do
  let owner ← database.sessions.lookup key.session
  let row ← database.rounds.lookup key
  return { session := owner.status, pending := owner.pendingRoundID.getD "", round := row.status }

theorem standing_eq_some {standing : Standing} :
    database.standing key = some standing ↔
      ∃ owner row, database.sessions.lookup key.session = some owner ∧
        database.rounds.lookup key = some row ∧
        standing = ⟨owner.status, owner.pendingRoundID.getD "", row.status⟩ := by
  simp only [Database.standing, Option.bind_eq_bind, Option.bind_eq_some_iff, Option.pure_def,
    Option.some.injEq]
  constructor
  · rintro ⟨owner, owned, row, found, rfl⟩
    exact ⟨owner, row, owned, found, rfl⟩
  · rintro ⟨owner, row, owned, found, rfl⟩
    exact ⟨owner, owned, row, found, rfl⟩

/-- A manual review of one round leaves every other round alone, and its session's
pending round too. -/
theorem Database.Healthy.undisturbed (healthy : database.Healthy codec) (key : RoundKey)
    (reason : Bytes) (now : Time) :
    database.custody.Undisturbed key (database.reviewed key reason now).custody := by
  rcases healthy.reviewed_cases key reason now with same | ⟨_, same, _⟩ | ⟨row, found, _, _, same⟩
  · rw [same]
    exact database.custody.undisturbed key
  · rw [same]
    unfold Database.quarantineCorruptSession
    split
    · exact database.custody.undisturbed key
    · next owner owned =>
      split
      · exact database.custody.undisturbed key
      · refine ⟨fun session => ?_, fun _ _ => rfl, fun _ _ => rfl⟩
        simp only [Database.custody, Database.putSession, Table.lookup_insert]
        split
        · next this => rw [this, owned]; rfl
        · rfl
  · obtain ⟨owner, entry, profile, feature, result, holds⟩ := healthy.rounds key row found
    rw [same]
    obtain ⟨session_, round_, _⟩ := entry.quarantined_kept row
    have writes := (holds.isolated (quarantineReason reason) now).2
    refine ⟨fun session => ?pending, fun other apart => ?rounds, fun other apart => ?entries⟩
    case pending =>
      simp only [Database.custody]
      rw [writes.sessions]
      split
      · next this => rw [this, holds.owned]; rfl
      · rfl
    case rounds =>
      simp only [Database.custody]
      rw [writes.rounds, if_neg apart]
    case entries =>
      -- the entry that is written is the round's own, before and after
      ext ⟨booked, third⟩
      simp only [Database.custody, Set.mem_ofPred_eq]
      rw [writes.transactions]
      have operation : (row.quarantined (quarantineReason reason) now).transaction key =
          row.transaction key := rfl
      rw [operation]
      split
      · next this =>
        subst this
        rw [holds.booked]
        simp only [Option.some.injEq]
        constructor
        · rintro ⟨rfl, named⟩
          rw [session_, round_, holds.books.session, holds.books.round] at named
          exact absurd named.symm apart
        · rintro ⟨rfl, named⟩
          rw [holds.books.session, holds.books.round] at named
          exact absurd named.symm apart
      · rfl

/-- Where a round stands after its manual review: a committed round keeps its status,
the session is blocked, and it waits for what it waited for. -/
theorem Database.Healthy.reviewed_standing (healthy : database.Healthy codec) {reason : Bytes}
    (text : TextColumn (quarantineReason reason)) (now : Time) {standing : Standing}
    (stands : database.standing key = some standing) :
    (database.reviewed key reason now).standing key =
      some
        { session := .blocked, pending := standing.pending
          round := if standing.round = .committed then .committed else .manualReview } := by
  obtain ⟨owner, row, owned, found, rfl⟩ := standing_eq_some.mp stands
  obtain ⟨owner', entry, profile, feature, result, holds⟩ := healthy.rounds key row found
  have same := holds.owned
  rw [owned, Option.some.injEq] at same
  subst same
  rw [holds.reviewed text]
  split
  · have writes := (holds.isolated (quarantineReason reason) now).2
    refine standing_eq_some.mpr ⟨owner.block, row.quarantined (quarantineReason reason) now,
      by rw [writes.sessions, if_pos rfl], by rw [writes.rounds, if_pos rfl], ?_⟩
    rw [holds.kept.quarantined_status]
    rfl
  · next mark =>
    obtain ⟨blocked, status⟩ := holds.owns.marked mark
    rw [stands, blocked]
    rcases status with status | status <;> simp [status]

/-- A round in review blocks its session. -/
theorem Database.Healthy.review_blocked (healthy : database.Healthy codec) {standing : Standing}
    (stands : database.standing key = some standing) (review : standing.round = .manualReview) :
    standing.session = .blocked := by
  obtain ⟨owner, row, owned, found, rfl⟩ := standing_eq_some.mp stands
  obtain ⟨owner', entry, profile, feature, result, holds⟩ := healthy.rounds key row found
  have same := holds.owned
  rw [owned, Option.some.injEq] at same
  subst same
  exact holds.owns.reviewed review

/-! ## The two stores -/

/-- What a manual review must do: of a round that its session does not wait for, it
leaves the session's pending round, every other round and every other round's ledger
entries alone, in both stores; and a round that stands alike in both goes on alike. -/
def ReviewsApart (settings : Settings) (repository : MemoryRepository) (database : Database)
    (key : RoundKey) (reason : Bytes) (clock : Clock) (env : Env) (world : ω) : Prop :=
  let remembered := ((memoryRepository settings.codec).run clock
    (.markManualReview key reason) repository world).2.1
  let durable := (database.execute settings env (.markManualReview key reason) world).2.1
  (¬ repository.custody.PointsAt key → repository.custody.Undisturbed key remembered.custody) ∧
    (¬ database.custody.PointsAt key → database.custody.Undisturbed key durable.custody) ∧
    ∀ standing, repository.standing key = some standing →
      database.standing key = some standing → remembered.standing key = durable.standing key

/-- When it does: the round is the one its session waits for, or it is settled; and the
session of a committed one is blocked already. -/
def Reviewable (repository : MemoryRepository) (database : Database) (key : RoundKey) : Prop :=
  (∀ standing, repository.standing key = some standing →
    standing.pending = key.roundID ∨ Settled standing.round) ∧
  ∀ standing, repository.standing key = some standing → database.standing key = some standing →
    standing.round = .committed → standing.session = .blocked

/-- **Over every database the durable store can reach, and every state of the reference
store, a manual review does what it must exactly when the round is `Reviewable`.** -/
theorem reviews_apart_iff (operated : Operated settings database)
    (repository : MemoryRepository) (key : RoundKey) {reason : Bytes}
    (text : TextColumn (quarantineReason reason)) (clock : Clock) (env : Env) (world : ω) :
    ReviewsApart settings repository database key reason clock env world ↔
      Reviewable repository database key := by
  have healthy := operated.healthy
  show (¬ repository.custody.PointsAt key → repository.custody.Undisturbed key
      (repository.reviewed key reason (clock 0)).custody) ∧
    (¬ database.custody.PointsAt key → database.custody.Undisturbed key
      (database.reviewed key reason (env.pod 0)).custody) ∧
    (∀ standing, repository.standing key = some standing → database.standing key = some standing →
      (repository.reviewed key reason (clock 0)).standing key =
        (database.reviewed key reason (env.pod 0)).standing key) ↔ _
  rw [repository.undisturbed_iff key reason (clock 0)]
  unfold Reviewable
  refine and_congr_right fun apart => ?_
  rw [and_iff_right fun _ => healthy.undisturbed key reason (env.pod 0)]
  refine forall_congr' fun standing => forall_congr' fun stands => forall_congr' fun stood => ?_
  rw [healthy.reviewed_standing text (env.pod 0) stood]
  rcases repository.reviewed_cases key reason (clock 0) with ⟨settled, same⟩ |
    ⟨entry, record, there, found, open_, same⟩
  · have unmoved : (repository.reviewed key reason (clock 0)).standing key = some standing := by
      rw [← stands]
      simp only [MemoryRepository.standing, same]
    rw [unmoved, Option.some.injEq]
    rcases settled standing stands with committed | review
    · rw [if_pos committed]
      constructor
      · intro alike _
        rw [alike]
      · intro blocked
        rw [← blocked committed, ← committed]
    · refine iff_of_true ?_ fun committed => by rw [review] at committed; cases committed
      rw [if_neg (by rw [review]; rintro ⟨⟩), ← healthy.review_blocked stood review, ← review]
  · have waits := apart standing stands
    obtain ⟨entry', record', there', found', rfl⟩ := MemoryRepository.standing_eq_some.mp stands
    rw [there, Option.some.injEq] at there'
    subst there'
    rw [found, Option.some.injEq] at found'
    subst found'
    have uncommitted : record.status ≠ .committed := fun committed => open_ (.inl committed)
    refine iff_of_true ?_ fun committed => absurd committed uncommitted
    rw [same, if_neg uncommitted]
    refine MemoryRepository.standing_eq_some.mpr ⟨_, _, by rw [Table.lookup_insert, if_pos rfl],
      by rw [(entry.isolated_entry _ record reason (clock 0)).2, Table.lookup_insert,
        if_pos rfl], ?_⟩
    rw [waits.resolve_right open_]
    rfl

/-! ## A round that was rejected before -/

theorem parity_digest (bytes : List UInt8) : Text.digestPattern
    (if (bytes.map UInt8.toNat).sum % 2 = 0 then
        "0000000000000000000000000000000000000000000000000000000000000000"
      else "1111111111111111111111111111111111111111111111111111111111111111") = true := by
  split <;> decide +kernel

/-- Stands in for SHA-256: two digests, by the parity of the bytes. -/
def parityCodec : Codec :=
  { demoCodec with
    sha256 := fun bytes =>
      if (bytes.map UInt8.toNat).sum % 2 = 0 then
        "0000000000000000000000000000000000000000000000000000000000000000"
      else "1111111111111111111111111111111111111111111111111111111111111111"
    sha256_digest := parity_digest }

/-- The states of the reference store. -/
def MemoryStep (codec : Codec) (before after : MemoryRepository) : Prop :=
  ∃ (ω : Type) (clock : Clock) (call : RepositoryCall ω) (world : ω),
    ((memoryRepository codec).run clock call before world).2.1 = after

def staleRequest (roundID : String) : SpinRequest := { demoRequest with roundID := roundID }

def staleKey (roundID : String) : RoundKey := (staleRequest roundID).key

/-- A call of the demonstration. -/
def staleRun (call : RepositoryCall (List Nat)) (repository : MemoryRepository) :
    MemoryRepository :=
  ((memoryRepository parityCodec).run demoClock call repository demoDraws).2.1

def stalePrepare (roundID : String) : RepositoryCall (List Nat) :=
  .prepareRound (staleRequest roundID) (fingerprintFor parityCodec (staleRequest roundID))
    demoProfile (prepareIntent parityCodec (fun _ _ _ => .ok (some demoSpinner))
      { admitNewIntent := none, admitNewEconomicIntent := none } (staleRequest roundID))

/-- The first round is claimed. -/
def staleClaimed : MemoryRepository :=
  staleRun (.claimWallet (staleKey "round-1") (30 * Duration.second))
    (staleRun (stalePrepare "round-1")
      (staleRun (.createSession demoSession) newMemoryRepository))

/-- The first round is rejected, and the second is prepared. -/
def staleWaiting : MemoryRepository :=
  match staleClaimed.custody.round (staleKey "round-1") with
  | none => staleClaimed
  | some record =>
      staleRun (stalePrepare "round-2")
        (staleRun (.rejectClaim { record := record, leaseUntil := record.walletLeaseUntil } [])
          staleClaimed)

theorem staleWaiting_standing :
    staleWaiting.standing (staleKey "round-1") = some ⟨.active, "round-2", .rejected⟩ := by
  decide +kernel

theorem staleRun_step (call : RepositoryCall (List Nat)) (repository : MemoryRepository) :
    MemoryStep parityCodec repository (staleRun call repository) :=
  ⟨_, demoClock, call, demoDraws, rfl⟩

theorem staleWaiting_reachable :
    Reachable (· = newMemoryRepository) (MemoryStep parityCodec) staleWaiting := by
  have begun : Reachable (· = newMemoryRepository) (MemoryStep parityCodec) newMemoryRepository :=
    .start rfl
  have claimed : Reachable (· = newMemoryRepository) (MemoryStep parityCodec) staleClaimed :=
    ((begun.next (staleRun_step _ _)).next (staleRun_step _ _)).next (staleRun_step _ _)
  unfold staleWaiting
  split
  · exact claimed
  · exact (claimed.next (staleRun_step _ _)).next (staleRun_step _ _)

theorem staleRun_review (key : RoundKey) (reason : Bytes) (repository : MemoryRepository) :
    staleRun (.markManualReview key reason) repository =
      repository.reviewed key reason (demoClock 0) := rfl

/-- A late manual review of the rejected round points the session away from the round
it waits for. -/
theorem stale_review_disturbs :
    Reachable (· = newMemoryRepository) (MemoryStep parityCodec) staleWaiting ∧
      ¬ staleWaiting.custody.PointsAt (staleKey "round-1") ∧
      ¬ staleWaiting.custody.Undisturbed (staleKey "round-1")
        (staleRun (.markManualReview (staleKey "round-1") persistedRoundIntegrityFailure)
          staleWaiting).custody := by
  have points : ¬ staleWaiting.custody.PointsAt (staleKey "round-1") := by
    obtain ⟨_, _, there, _, same⟩ := MemoryRepository.standing_eq_some.mp staleWaiting_standing
    simp only [Custody.PointsAt, MemoryRepository.custody, there, Option.map_some,
      ← (Standing.mk.inj same).2.1]
    decide
  refine ⟨staleWaiting_reachable, points, fun undisturbed => ?_⟩
  rw [staleRun_review] at undisturbed
  have waits := (staleWaiting.undisturbed_iff (staleKey "round-1") persistedRoundIntegrityFailure
    (demoClock 0)).mp (fun _ => undisturbed) _ staleWaiting_standing
  rcases waits with pending | committed | review
  · revert pending
    decide
  · cases committed
  · cases review

theorem demoPrepared_operated : Operated demoSettings demoPrepared.2.1 := by
  have begun : Operated demoSettings Database.empty := .start rfl
  exact (begun.next (.served (.call demoEnv (.createSession demoSession) ([] : List Nat) [] trivial
    rfl))).next (.served demoPrepared_step)

/-- The same two calls to the reference store. -/
def demoRemembered : MemoryRepository :=
  ((memoryRepository demoCodec).run demoClock demoCall
    ((memoryRepository demoCodec).run demoClock (.createSession demoSession) newMemoryRepository
      ([] : List Nat)).2.1 demoDraws).2.1

/-- Both stores wait for the round, and put it in review alike. -/
theorem pending_review_apart :
    demoRemembered.standing demoRequest.key = demoPrepared.2.1.standing demoRequest.key ∧
      ReviewsApart demoSettings demoRemembered demoPrepared.2.1 demoRequest.key
        persistedRoundIntegrityFailure demoClock demoEnv () := by
  obtain ⟨stands, stood⟩ :
      demoRemembered.standing demoRequest.key = some ⟨.active, "round-1", .prepared⟩ ∧
        demoPrepared.2.1.standing demoRequest.key = some ⟨.active, "round-1", .prepared⟩ := by
    decide +kernel
  refine ⟨stands.trans stood.symm, (reviews_apart_iff demoPrepared_operated demoRemembered
    demoRequest.key (by decide +kernel) demoClock demoEnv ()).mpr
      ⟨fun standing found => .inl ?_, fun standing found _ committed => ?_⟩⟩
  · rw [stands, Option.some.injEq] at found
    rw [← found]
    rfl
  · rw [stands, Option.some.injEq] at found
    rw [← found] at committed
    cases committed

end SlotsGame.Postgres
