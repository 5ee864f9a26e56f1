/-
# SlotsGame.Postgres.Lockstep -- one session in both stores

`Alike` relates a session of the reference store to the same session of the durable
store: its columns, the fingerprints of its rounds, and what is known of its
deliveries.  A call of the transport that both stores get at one reading of the
clock is accepted by both or refused by both, and leaves the session alike.

A column keeps whole microseconds, so this is about sessions whose deadlines are
whole microseconds too (`WholeDeadlines`).
-/
import SlotsGame.Rgs.MemoryTransport
import SlotsGame.Postgres.Transport

namespace SlotsGame.Postgres

open SlotsGame.Game SlotsGame.Rgs SlotsGame.Theory

set_option autoImplicit false

variable {ω : Type} {codec : Codec} {settings : Settings}

/-! ## One clock for both stores -/

/-- One reading of the clock, for the whole of a call. -/
structure Instant where
  now : Time
  positive : 0 < now
  whole : stored now = now

def Instant.clock (instant : Instant) : Clock :=
  { reading := fun _ => instant.now, positive := fun _ => instant.positive }

/-- The surroundings of the durable store; the connection does not fail. -/
def Instant.env (instant : Instant) : Env :=
  { database := instant.clock, whole := fun _ => instant.whole, pod := instant.clock }

theorem Instant.reading (instant : Instant) : Reading instant.now :=
  ⟨instant.positive, instant.whole⟩

/-- Which calls of a sequence a store accepts. -/
def accepts (repository : Repository ω) (env : Instant → repository.Env) :
    List (Instant × RepositoryCall ω) → repository.State → ω → List Bool
  | [], _, _ => []
  | (instant, call) :: rest, state, world =>
      let ran := repository.run (env instant) call state world
      ran.1.isOk :: accepts repository env rest ran.2.1 ran.2.2

/-! ## The calls -/

/-- A generator of a coordinator: it returns what a coordinator has written down, and
does not look at the instant its session was read at. -/
structure Coordinates (codec : Codec) (request : SpinRequest) (prepare : PrepareOutcome ω) :
    Prop where
  built : BuiltBy codec request prepare
  untimed : ∀ session serverTime world,
    prepare { session with serverTime := serverTime } world = prepare session world

theorem prepareIntent_coordinates (codec : Codec) (definitions : DefinitionRegistry ω)
    (gates : IntentGates ω) (request : SpinRequest) :
    Coordinates codec request (prepareIntent codec definitions gates request) :=
  ⟨prepareIntent_built codec definitions gates request, fun _ _ _ => rfl⟩

/-- Idle durations are whole seconds. -/
def WholeSeconds : RepositoryCall ω → Prop
  | .createSession session => session.idleDisconnect % Duration.second = 0
  | .resetSessionTransport _ idleDisconnect => idleDisconnect % Duration.second = 0
  | _ => True

/-- The deadlines of a new session are whole microseconds. -/
def WholeDeadlines : RepositoryCall ω → Prop
  | .createSession session =>
      stored session.expiresAt = session.expiresAt ∧
        stored session.idleDisconnectAt = session.idleDisconnectAt
  | _ => True

/-! ## The relation -/

def roundKey (key : SessionKey) (id : String) : RoundKey := ⟨key.operatorID, key.sessionID, id⟩

/-- What a receipt is compared with: the sequence and the digest of a committed
result, and whether it is acknowledged. -/
structure Posted where
  sequence : Nat
  resultHash : String
  acknowledged : Bool

def postedDelivery (delivery : ResultDelivery) : Posted :=
  { sequence := delivery.sequence, resultHash := delivery.resultHash
    acknowledged := decide (delivery.acknowledgedAt ≠ 0) }

def RoundRow.posted (row : RoundRow) : Option Posted :=
  if row.status = .committed ∧ row.resultDeliveryRequired = true then
    some
      { sequence := row.sequence.toNat, resultHash := row.resultHash.getD ""
        acknowledged := row.resultAcknowledgedAt.isSome }
  else none

/-- An entry of the reference store and a row of the durable one are one session. -/
structure Twins (key : SessionKey) (entry : MemorySession) (database : Database)
    (owner : SessionRow) (feature : FeatureState) : Prop where
  owned : database.sessions.lookup key = some owner
  reads : owner.Reads key feature
  same : entry.session = { owner.session key feature with serverTime := entry.session.serverTime }
  whole : stored owner.expiresAt = owner.expiresAt
  waits : owner.pendingRoundID ≠ some ""
  rounds : ∀ id, (entry.rounds.lookup id).map (·.fingerprint) =
    (database.rounds.lookup (roundKey key id)).map (·.requestFingerprint)
  deliveries : ∀ id, (entry.deliveries.lookup id).map postedDelivery =
    (database.rounds.lookup (roundKey key id)).bind RoundRow.posted

/-- The session `key` of the two stores: in neither of them, or the same in both. -/
inductive Alike (key : SessionKey) (memory : MemoryRepository) (database : Database) : Prop
  | absent (missing : memory.sessions.lookup key = none)
      (unknown : database.sessions.lookup key = none)
  | present (entry : MemorySession) (owner : SessionRow) (feature : FeatureState)
      (found : memory.sessions.lookup key = some entry)
      (twins : Twins key entry database owner feature)

theorem Alike.new (key : SessionKey) : Alike key newMemoryRepository Database.empty :=
  .absent rfl rfl

section Relation

variable {key : SessionKey} {memory : MemoryRepository} {database after : Database}
  {entry : MemorySession} {owner : SessionRow} {feature : FeatureState}

theorem Alike.written (twins : Twins key entry database owner feature) (memory : MemoryRepository) :
    Alike key { sessions := memory.sessions.insert key entry } database :=
  .present entry owner feature (by rw [Table.lookup_insert, if_pos rfl]) twins

/-- What is known of the deliveries decides whether one is pending. -/
theorem pending_iff (entry : MemorySession) :
    entry.DeliveryPending ↔ ∃ id, ∃ posted ∈ (entry.deliveries.lookup id).map postedDelivery,
      posted.acknowledged = false := by
  constructor
  · rintro ⟨⟨id, delivery⟩, present, waiting⟩
    refine ⟨id, postedDelivery delivery, ?_, ?_⟩
    · rw [Table.mem_rows.mp present]
      rfl
    · simpa [postedDelivery] using waiting
  · rintro ⟨id, posted, there, waiting⟩
    obtain ⟨delivery, found, rfl⟩ := Option.map_eq_some_iff.mp there
    exact ⟨(id, delivery), Table.mem_rows.mpr found, by simpa [postedDelivery] using waiting⟩

theorem pending_rows_iff (database : Database) (key : SessionKey) :
    database.DeliveryPending key ↔
      ∃ id, ∃ posted ∈ (database.rounds.lookup (roundKey key id)).bind RoundRow.posted,
        posted.acknowledged = false := by
  constructor
  · rintro ⟨⟨other, row⟩, present, same, ended, required, waiting⟩
    dsimp only at same ended required waiting
    have named : roundKey key other.roundID = other := by rw [← same]; rfl
    refine ⟨other.roundID, { sequence := row.sequence.toNat, resultHash := row.resultHash.getD ""
                             acknowledged := false }, ?_, rfl⟩
    rw [named, Table.mem_rows.mp present]
    simp [RoundRow.posted, ended, required, waiting]
  · rintro ⟨id, posted, there, waiting⟩
    obtain ⟨row, found, shown⟩ := Option.bind_eq_some_iff.mp there
    unfold RoundRow.posted at shown
    split at shown
    case isFalse => cases shown
    case isTrue final =>
      cases shown
      exact ⟨(roundKey key id, row), Table.mem_rows.mpr found, rfl, final.1, final.2,
        by simpa using waiting⟩

theorem Twins.pending (twins : Twins key entry database owner feature) :
    entry.DeliveryPending ↔ database.DeliveryPending key := by
  rw [pending_iff, pending_rows_iff]
  simp only [twins.deliveries]

/-- Another row of the session, that says the same. -/
theorem Twins.moved (twins : Twins key entry database owner feature) {next : SessionRow}
    {session : Session} (reads : next.Reads key feature)
    (same : session = { next.session key feature with serverTime := session.serverTime })
    (lifetime : next.expiresAt = owner.expiresAt)
    (pending : next.pendingRoundID = owner.pendingRoundID) :
    Twins key { entry with session := session } (database.putSession key next) next feature where
  owned := by simp [Database.putSession]
  reads := reads
  same := same
  whole := by rw [lifetime, twins.whole]
  waits := by rw [pending]; exact twins.waits
  rounds := twins.rounds
  deliveries := twins.deliveries

end Relation

/-! ## What a call leaves of the rest -/

/-- A call on the session `key` leaves every other session, keeps its session waiting
if it was, and adds a round only if its session waits for it. -/
structure Database.Framed (key : SessionKey) (before after : Database) : Prop where
  others : ∀ other, other ≠ key → after.sessions.lookup other = before.sessions.lookup other
  waits : ∀ owner ∈ before.sessions.lookup key, owner.pendingRoundID ≠ none →
    ∃ next ∈ after.sessions.lookup key, next.pendingRoundID ≠ none
  rounds : ∀ other row, after.rounds.lookup other = some row →
    (∃ old ∈ before.rounds.lookup other, old.serverTransactionID = row.serverTransactionID) ∨
      ∃ next ∈ after.sessions.lookup key, next.pendingRoundID ≠ none

section Framing

variable {key : SessionKey} {database middle after : Database}

theorem Database.Framed.refl (key : SessionKey) (database : Database) :
    database.Framed key database where
  others _ _ := rfl
  waits owner found pending := ⟨owner, found, pending⟩
  rounds _ row found := .inl ⟨row, found, rfl⟩

theorem Database.Framed.trans (first : database.Framed key middle)
    (second : middle.Framed key after) : database.Framed key after where
  others other apart := (second.others other apart).trans (first.others other apart)
  waits owner found pending := by
    obtain ⟨next, found', pending'⟩ := first.waits owner found pending
    exact second.waits next found' pending'
  rounds other row found := by
    rcases second.rounds other row found with ⟨old, there, same⟩ | waits
    · rcases first.rounds other old there with ⟨oldest, there', same'⟩ | ⟨owner, owned, pending⟩
      · exact .inl ⟨oldest, there', same'.trans same⟩
      · exact .inr (second.waits owner owned pending)
    · exact .inr waits

theorem Database.Framed.putSession {owner next : SessionRow}
    (owned : database.sessions.lookup key = some owner)
    (pending : next.pendingRoundID = owner.pendingRoundID) :
    database.Framed key (database.putSession key next) where
  others other apart := by simp [Database.putSession, apart]
  waits := by
    rintro old found waiting
    rw [owned, Option.mem_some] at found
    subst found
    exact ⟨next, by simp [Database.putSession], pending ▸ waiting⟩
  rounds _ row found := .inl ⟨row, found, rfl⟩

end Framing

/-- Both stores accept a call or both refuse it, and the session is alike after it. -/
structure Agreed {α β : Type} (key : SessionKey) (database : Database)
    (ours : Except RgsError α × MemoryRepository) (theirs : Except RgsError β × Database) :
    Prop where
  accepted : ours.1.isOk = theirs.1.isOk
  alike : Alike key ours.2 theirs.2
  framed : database.Framed key theirs.2

/-! ## Sessions -/

section Sessions

variable {key : SessionKey} {memory : MemoryRepository} {database : Database}

theorem settle_refused {σ ε α : Type} (before : σ) {program : Except (Abort σ ε) (α × σ)}
    (atomic : Atomic program) (refused : ¬ ∃ a after, program = .ok (a, after)) :
    ∃ error, settle before program = (.error error, before) := by
  match program with
  | .ok (a, after) => exact absurd ⟨a, after, rfl⟩ refused
  | .error (.rolledBack error) => exact ⟨error, rfl⟩
  | .error (.committed error after) => exact absurd rfl (atomic error after)

/-- What a program does to the entry of a session is what the call does. -/
theorem onSession_settled {α : Type} {entry entry' : MemorySession} {reply : Except RgsError α}
    {program : MemorySession → Except (Abort MemorySession RgsError) (α × MemorySession)}
    (found : memory.sessions.lookup key = some entry)
    (settled : settle entry (program entry) = (reply, entry')) :
    memory.onSession key program = (reply, { sessions := memory.sessions.insert key entry' }) := by
  simp only [MemoryRepository.onSession, found, settled]

theorem onSession_missing {α : Type}
    (program : MemorySession → Except (Abort MemorySession RgsError) (α × MemorySession))
    (missing : memory.sessions.lookup key = none) :
    memory.onSession key program = (.error { kind := .sessionNotFound }, memory) := by
  simp only [MemoryRepository.onSession, missing]

theorem Agreed.refused {α β : Type} (alike : Alike key memory database) (ours theirs : RgsError) :
    Agreed key database ((.error ours, memory) : Except RgsError α × MemoryRepository)
      ((.error theirs, database) : Except RgsError β × Database) :=
  ⟨rfl, alike, .refl key database⟩

/-- A call on one session, which either store accepts when the other does. -/
theorem Alike.on_session {α β : Type}
    {program : MemorySession → Except (Abort MemorySession RgsError) (α × MemorySession)}
    {theirs : Except RgsError β × Database}
    (alike : Alike key memory database) (atomic : ∀ entry, Atomic (program entry))
    (refused : ∀ error, theirs.1 = .error error → theirs.2 = database)
    (known : ∀ b, theirs.1 = .ok b → ∃ owner, database.sessions.lookup key = some owner)
    (forward : ∀ entry owner feature, Twins key entry database owner feature →
      ∀ b, theirs.1 = .ok b → ∃ a entry' owner', program entry = .ok (a, entry') ∧
        Twins key entry' theirs.2 owner' feature ∧ database.Framed key theirs.2)
    (backward : ∀ entry owner feature, Twins key entry database owner feature →
      ∀ a entry', program entry = .ok (a, entry') → ∃ b, theirs.1 = .ok b) :
    Agreed key database (memory.onSession key program) theirs := by
  obtain ⟨reply, after⟩ := theirs
  cases reply with
  | error error =>
      obtain rfl : after = database := refused error rfl
      cases alike with
      | absent missing unknown =>
          rw [onSession_missing program missing]
          exact .refused (.absent missing unknown) _ _
      | present entry owner feature found twins =>
          have rejected : ¬ ∃ a entry', program entry = .ok (a, entry') := by
            rintro ⟨a, entry', done⟩
            obtain ⟨b, accepted⟩ := backward entry owner feature twins a entry' done
            cases accepted
          obtain ⟨error', settled⟩ := settle_refused entry (atomic entry) rejected
          rw [onSession_settled found settled]
          exact ⟨rfl, .written twins memory, .refl key _⟩
  | ok b =>
      cases alike with
      | absent missing unknown =>
          obtain ⟨owner, owned⟩ := known b rfl
          rw [unknown] at owned
          cases owned
      | present entry owner feature found twins =>
          obtain ⟨a, entry', owner', done, twins', framed⟩ :=
            forward entry owner feature twins b rfl
          have settled : settle entry (program entry) = (.ok a, entry') := by rw [done]; rfl
          rw [onSession_settled found settled]
          exact ⟨rfl, .written twins' memory, framed⟩

/-- A call on one session that is a transaction in the durable store. -/
theorem Alike.on_transaction {α β : Type}
    {program : MemorySession → Except (Abort MemorySession RgsError) (α × MemorySession)}
    {transaction : Except (Abort Database RgsError) (β × Database)}
    (alike : Alike key memory database) (atomic : ∀ entry, Atomic (program entry))
    (atomic' : Atomic transaction)
    (known : ∀ b after, transaction = .ok (b, after) →
      ∃ owner, database.sessions.lookup key = some owner)
    (forward : ∀ entry owner feature, Twins key entry database owner feature →
      ∀ b after, transaction = .ok (b, after) → ∃ a entry' owner', program entry = .ok (a, entry') ∧
        Twins key entry' after owner' feature ∧ database.Framed key after)
    (backward : ∀ entry owner feature, Twins key entry database owner feature →
      ∀ a entry', program entry = .ok (a, entry') → ∃ b after, transaction = .ok (b, after)) :
    Agreed key database (memory.onSession key program) (settle database transaction) := by
  by_cases accepted : ∃ b after, transaction = .ok (b, after)
  · obtain ⟨b, after, done⟩ := accepted
    rw [done]
    refine alike.on_session atomic ?_ (fun _ _ => known b after done) ?_
      (fun _ _ _ _ _ _ _ => ⟨b, rfl⟩)
    · intro error answered
      cases answered
    · intro entry owner feature twins _ _
      exact forward entry owner feature twins b after done
  · obtain ⟨error, refused⟩ := settle_refused database atomic' accepted
    rw [refused]
    refine alike.on_session atomic (fun _ _ => rfl) ?_ ?_ ?_
    · rintro b ⟨⟩
    · rintro _ _ _ _ b ⟨⟩
    · intro entry owner feature twins a entry' done
      exact absurd (backward entry owner feature twins a entry' done) accepted

theorem SessionRow.Reads.feature_eq {owner : SessionRow} {feature feature' : FeatureState}
    (reads : owner.Reads key feature) (reads' : owner.Reads key feature') : feature = feature' := by
  have featured := reads.featured
  rw [reads'.featured] at featured
  exact (Document.value.inj featured).symm

/-! ## Creating a session -/

theorem seconds_cancel {idleDisconnect : Duration} (whole : idleDisconnect % Duration.second = 0) :
    idleDisconnect / Duration.second * Duration.second = idleDisconnect :=
  Int.ediv_mul_cancel (Int.dvd_of_emod_eq_zero whole)

/-- A session whose deadlines fit their columns is read back as it was created. -/
theorem sessionRow_session {session : Session}
    (seconds : session.idleDisconnect % Duration.second = 0)
    (expires : stored session.expiresAt = session.expiresAt)
    (idle : stored session.idleDisconnectAt = session.idleDisconnectAt)
    (free : session.pendingRoundID = "") :
    (sessionRow session).session session.key session.feature = { session with serverTime := 0 } := by
  obtain ⟨⟩ := session
  simp only at free expires idle seconds
  simp only [sessionRow, SessionRow.session, Session.key, seconds_cancel seconds, expires, idle,
    free, Int.toNat_natCast, Option.getD_none]

theorem sessionRow_reads {session : Session} (valid : ValidSession session)
    (seconds : session.idleDisconnect % Duration.second = 0)
    (expires : stored session.expiresAt = session.expiresAt)
    (idle : stored session.idleDisconnectAt = session.idleDisconnectAt)
    (free : session.pendingRoundID = "") :
    (sessionRow session).Reads session.key session.feature where
  unmarked := rfl
  bounds := by
    obtain ⟨least, most⟩ := valid.idle
    have positive := Nat.pos_of_ne_zero valid.generation.1
    have least' : 1 ≤ session.idleDisconnect / Duration.second :=
      (Int.le_ediv_iff_mul_le (by decide)).mpr (by simpa using least)
    have most' : session.idleDisconnect / Duration.second < 86400 + 1 :=
      (Int.ediv_lt_iff_lt_mul (by decide)).mpr (lt_of_le_of_lt most (by decide))
    refine ⟨Int.natCast_nonneg _, Int.natCast_nonneg _, least', Int.lt_add_one_iff.mp most', ?_⟩
    show (1 : Int) ≤ (session.transportGeneration : Int)
    omega
  featured := rfl
  valid := by
    rw [sessionRow_session seconds expires idle free]
    exact { valid with }

/-- No other session of the operator has the wallet session. -/
def Database.NewWallet (database : Database) (session : Session) : Prop :=
  ∀ other row, database.sessions.lookup other = some row → other ≠ session.key →
    other.operatorID = session.operatorID → row.walletSessionID ≠ session.walletSessionID

theorem Alike.createSession {session : Session} (alike : Alike session.key memory database)
    (seconds : session.idleDisconnect % Duration.second = 0)
    (expires : stored session.expiresAt = session.expiresAt)
    (idle : stored session.idleDisconnectAt = session.idleDisconnectAt)
    (rounds : database.sessions.lookup session.key = none → ∀ id,
      database.rounds.lookup (roundKey session.key id) = none)
    (wallet : database.NewWallet session) :
    Agreed session.key database (settle memory (memory.createSession session))
      (settle database (database.createSession session)) := by
  have ours : ∀ after, memory.createSession session = .ok ((), after) ↔
      validateSession session = .ok () ∧ session.pendingRoundID = "" ∧
        memory.sessions.lookup session.key = none ∧
        after = { sessions := memory.sessions.insert session.key (.create session) } := by
    intro after
    simp only [MemoryRepository.createSession, bind_ok, check_ok, abortWhen_ok, exists_unit,
      pure_ok, Prod.mk.injEq, true_and, not_not]
    constructor
    · rintro ⟨valid, free, missing, rfl⟩
      exact ⟨valid, free, missing, rfl⟩
    · rintro ⟨valid, free, missing, rfl⟩
      exact ⟨valid, free, missing, rfl⟩
  have theirs : ∀ after, database.createSession session = .ok ((), after) ↔
      validateSession session = .ok () ∧ session.pendingRoundID = "" ∧
        database.sessions.lookup session.key = none ∧
        after = database.putSession session.key (sessionRow session) := by
    intro after
    simp only [Database.createSession, bind_ok, check_ok, abortWhen_ok, exists_unit, pure_ok,
      Prod.mk.injEq, true_and, not_or, not_not, not_exists, not_and]
    constructor
    · rintro ⟨valid, free, ⟨missing, _⟩, rfl⟩
      exact ⟨valid, free, missing, rfl⟩
    · rintro ⟨valid, free, missing, rfl⟩
      refine ⟨valid, free, ⟨missing, ?_⟩, rfl⟩
      rintro ⟨other, row⟩ present operator
      have found := Table.mem_rows.mp present
      refine wallet other row found ?_ operator
      rintro rfl
      rw [missing] at found
      cases found
  have atomic : Atomic (memory.createSession session) :=
    .bind (.check _) fun _ => .bind (.abortWhen _ _) fun _ => .bind (.abortWhen _ _) fun _ => .pure _
  have atomic' : Atomic (database.createSession session) :=
    .bind (.check _) fun _ => .bind (.abortWhen _ _) fun _ => .bind (.abortWhen _ _) fun _ => .pure _
  by_cases accepted : validateSession session = .ok () ∧ session.pendingRoundID = "" ∧
      database.sessions.lookup session.key = none
  · obtain ⟨valid, free, unknown⟩ := accepted
    have missing : memory.sessions.lookup session.key = none := by
      cases alike with
      | absent missing => exact missing
      | present entry owner feature found twins =>
          rw [twins.owned] at unknown
          cases unknown
    rw [(ours _).mpr ⟨valid, free, missing, rfl⟩, (theirs _).mpr ⟨valid, free, unknown, rfl⟩]
    have reads := sessionRow_reads (validateSession_ok.mp valid) seconds expires idle free
    refine ⟨rfl, .present (.create session) (sessionRow session) session.feature
      (by rw [settle]; simp) ?_, ?_⟩
    · refine
        { owned := by simp [settle, Database.putSession], reads := reads
          same := by rw [sessionRow_session seconds expires idle free]; rfl
          whole := ?_, waits := by rintro ⟨⟩, rounds := fun id => ?_, deliveries := fun id => ?_ }
      · show stored (stored session.expiresAt) = stored session.expiresAt
        exact stored_stored _
      · simp [settle, Database.putSession, MemorySession.create, rounds unknown id]
      · simp [settle, Database.putSession, MemorySession.create, rounds unknown id]
    · refine ⟨fun other apart => by simp [settle, Database.putSession, apart], ?_,
        fun other row found => .inl ⟨row, found, rfl⟩⟩
      rintro owner owned
      rw [unknown] at owned
      cases owned
  · obtain ⟨error, refused⟩ := settle_refused memory atomic (by
      rintro ⟨⟨⟩, after, done⟩
      obtain ⟨valid, free, missing, _⟩ := (ours after).mp done
      refine accepted ⟨valid, free, ?_⟩
      cases alike with
      | absent _ unknown => exact unknown
      | present entry owner feature found twins =>
          rw [found] at missing
          cases missing)
    obtain ⟨error', refused'⟩ := settle_refused database atomic' (by
      rintro ⟨⟨⟩, after, done⟩
      obtain ⟨valid, free, unknown, _⟩ := (theirs after).mp done
      exact accepted ⟨valid, free, unknown⟩)
    rw [refused, refused']
    exact .refused alike _ _

/-! ## The transport of a session -/

theorem Twins.session_eq {entry : MemorySession} {owner : SessionRow} {feature : FeatureState}
    (twins : Twins key entry database owner feature) :
    ∃ serverTime, entry.session = { owner.session key feature with serverTime := serverTime } :=
  ⟨_, twins.same⟩

theorem Alike.relaunch (alike : Alike key memory database) (now : Time) :
    Agreed key database (memory.readSession key fun entry => entry.authorizeRelaunch now)
      (database.authorizeSessionRelaunch key now, database) := by
  cases alike with
  | absent missing unknown =>
      have locked : database.lockSession key = .error { kind := .sessionNotFound } := by
        rw [Database.lockSession, unknown]
      rw [MemoryRepository.readSession, missing, Database.authorizeSessionRelaunch, locked]
      exact .refused (.absent missing unknown) _ _
  | present entry owner feature found twins =>
      have locked := lockSession_ok.mpr ⟨owner, feature, twins.owned, twins.reads, rfl⟩
      obtain ⟨serverTime, same⟩ := twins.session_eq
      have lifetime : authorizeSessionLifetime entry.session now =
          authorizeLifetime (owner.session key feature) now := by rw [same]; rfl
      refine ⟨?_, .present entry owner feature ?_ twins, .refl key database⟩
      · rw [MemoryRepository.readSession, found, Database.authorizeSessionRelaunch, locked]
        dsimp only
        rw [MemorySession.authorizeRelaunch, lifetime]
        change _ = Except.isOk (authorizeLifetime (owner.session key feature) now >>= _)
        cases authorizeLifetime (owner.session key feature) now <;> rfl
      · rw [MemoryRepository.readSession, found]
        exact found

/-- A deadline of a reset that is kept whole. -/
theorem resetDeadline_stored {expiresAt now : Time} {idleDisconnect : Duration}
    (reading : Reading now) (seconds : idleDisconnect % Duration.second = 0)
    (whole : stored expiresAt = expiresAt) :
    stored (resetDeadline expiresAt idleDisconnect now) =
      resetDeadline expiresAt idleDisconnect now := by
  unfold resetDeadline
  split
  · exact whole
  · have micros : idleDisconnect =
        idleDisconnect / Duration.second * 1000000 * Duration.microsecond := by
      rw [mul_assoc]
      exact (seconds_cancel seconds).symm
    rw [micros]
    exact stored_add_micros reading.2 _

theorem Twins.reset {entry : MemorySession} {owner : SessionRow} {feature : FeatureState}
    (twins : Twins key entry database owner feature) {idleDisconnect : Duration} {now : Time}
    (reading : Reading now) (idle : validateResetIdleDisconnect idleDisconnect = .ok ())
    (lifetime : authorizeLifetime (owner.session key feature) now = .ok ())
    (generation : owner.transportGeneration.toNat < maxStateRevision) {session : Session}
    {entry' : MemorySession}
    (ran : entry.resetTransport idleDisconnect now = .ok (session, entry')) :
    Twins key entry' (database.putSession key
        (owner.reset idleDisconnect (resetDeadline owner.expiresAt idleDisconnect now)))
      (owner.reset idleDisconnect (resetDeadline owner.expiresAt idleDisconnect now)) feature := by
  obtain ⟨_, _, rfl, rfl⟩ := MemorySession.resetTransport_ok.mp ran
  have seconds : idleDisconnect % Duration.second = 0 := by
    simp only [validateResetIdleDisconnect, refuse_ok, not_or, not_not] at idle
    exact idle.2.2
  obtain ⟨serverTime, same⟩ := twins.session_eq
  obtain ⟨_, _, _, _, positive⟩ := twins.reads.bounds
  have next : (owner.transportGeneration + 1).toNat = owner.transportGeneration.toNat + 1 := by
    omega
  refine twins.moved (twins.reads.reset_within reading idle lifetime generation) ?_ rfl rfl
  rw [same]
  simp only [SessionRow.session, SessionRow.reset, seconds_cancel seconds, next,
    resetDeadline_stored reading seconds twins.whole]
  rfl

theorem Alike.reset (alike : Alike key memory database) {idleDisconnect : Duration} {now : Time}
    (reading : Reading now) (seconds : idleDisconnect % Duration.second = 0) :
    Agreed key database
      (memory.afterCheck (validateIdleDisconnect idleDisconnect)
        (memory.onSession key fun entry => entry.resetTransport idleDisconnect now))
      (settle database (database.resetSessionTransport key idleDisconnect now)) := by
  have atomic : Atomic (database.resetSessionTransport key idleDisconnect now) :=
    .bind (.check _) fun _ => .bind (.check _) fun _ => .bind (.check _) fun _ =>
      .bind (.abortWhen _ _) fun _ => .bind (.require _ _) fun _ =>
        .bind (.abortWhen _ _) fun _ => .pure _
  have bounds : validateIdleDisconnect idleDisconnect = .ok () ↔
      validateResetIdleDisconnect idleDisconnect = .ok () := by
    simp only [validateIdleDisconnect, validateResetIdleDisconnect, refuse_ok, not_or, not_not]
    exact ⟨fun both => ⟨both.1, both.2, seconds⟩, fun all => ⟨all.1, all.2.1⟩⟩
  cases valid : validateIdleDisconnect idleDisconnect with
  | error error =>
      obtain ⟨error', refused⟩ := settle_refused database atomic (by
        rintro ⟨session, after, done⟩
        have idle := bounds.mpr (resetSessionTransport_ok.mp done).1
        rw [valid] at idle
        cases idle)
      rw [refused]
      exact .refused alike _ _
  | ok =>
      have idle := bounds.mp valid
      refine alike.on_transaction
        (fun entry => .bind (.check _) fun _ => .bind (.abortWhen _ _) fun _ => .pure _) atomic
        ?_ ?_ ?_
      · intro session after done
        obtain ⟨_, owner, _, owned, _⟩ := resetSessionTransport_ok.mp done
        exact ⟨owner, owned⟩
      · intro entry owner feature twins session after done
        obtain ⟨_, owner', feature', owned, reads, lifetime, generation, _, rfl⟩ :=
          resetSessionTransport_ok.mp done
        rw [twins.owned, Option.some.injEq] at owned
        subst owned
        obtain rfl := twins.reads.feature_eq reads
        obtain ⟨serverTime, same⟩ := twins.session_eq
        obtain ⟨renewed, entry', ran⟩ : ∃ renewed entry',
            entry.resetTransport idleDisconnect now = .ok (renewed, entry') :=
          ⟨_, _, MemorySession.resetTransport_ok.mpr
            ⟨by rw [same]; exact lifetime, by rw [same]; exact generation, rfl, rfl⟩⟩
        exact ⟨renewed, entry', _, ran, twins.reset reading idle lifetime generation ran,
          .putSession twins.owned rfl⟩
      · intro entry owner feature twins session entry' done
        obtain ⟨lifetime, generation, _⟩ := MemorySession.resetTransport_ok.mp done
        obtain ⟨serverTime, same⟩ := twins.session_eq
        rw [same] at lifetime generation
        exact ⟨_, _, resetSessionTransport_ok.mpr ⟨idle, owner, feature, twins.owned, twins.reads,
          lifetime, generation, rfl, rfl⟩⟩

theorem Alike.authorize (alike : Alike key memory database) (transportGeneration : Nat)
    (allowIdleRecovery : Bool) (now : Time) :
    Agreed key database
      (memory.onSession key fun entry =>
        entry.authorizeTransport transportGeneration allowIdleRecovery now)
      (database.authorizeSessionTransport key transportGeneration allowIdleRecovery now,
        database) := by
  refine alike.on_session (fun entry => .bind (.abortWhen _ _) fun _ => .bind (.check _) fun _ =>
    .bind (.abortWhen _ _) fun _ => .pure _) (fun _ _ => rfl) ?_ ?_ ?_
  · intro session answered
    obtain ⟨_, owner, _, owned, _⟩ := authorizeSessionTransport_ok.mp answered
    exact ⟨owner, owned⟩
  · intro entry owner feature twins session answered
    obtain ⟨⟨positive, _⟩, owner', feature', owned, reads, current, lifetime, awake, _⟩ :=
      authorizeSessionTransport_ok.mp answered
    rw [twins.owned, Option.some.injEq] at owned
    subst owned
    obtain ⟨serverTime, same⟩ := twins.session_eq
    refine ⟨_, _, owner, MemorySession.authorizeTransport_ok.mpr ⟨positive, ?_, ?_, ?_, rfl, rfl⟩,
      { twins with same := by rw [same] }, .refl key database⟩
    · rw [same]
      exact current.symm
    · rw [same]
      exact lifetime
    · rw [same]
      exact awake
  · intro entry owner feature twins session entry' done
    obtain ⟨positive, current, lifetime, awake, _⟩ := MemorySession.authorizeTransport_ok.mp done
    obtain ⟨serverTime, same⟩ := twins.session_eq
    rw [same] at current lifetime awake
    have bounded : transportGeneration ≤ maxStateRevision := by
      rw [current]
      exact twins.reads.valid.generation.2
    exact ⟨_, authorizeSessionTransport_ok.mpr ⟨⟨positive, bounded⟩, owner, feature, twins.owned,
      twins.reads, current.symm, lifetime, awake, rfl⟩⟩

/-! ## Deliveries -/

theorem roundKey_inj {key : SessionKey} {id id' : String} :
    roundKey key id = roundKey key id' ↔ id = id' := by
  constructor
  · intro same
    exact congrArg RoundKey.roundID same
  · rintro rfl
    rfl

theorem Database.Framed.putRound {id : String} {row next : RoundRow}
    (found : database.rounds.lookup (roundKey key id) = some row)
    (same : next.serverTransactionID = row.serverTransactionID) :
    database.Framed key (database.putRound (roundKey key id) next) where
  others _ _ := rfl
  waits owner owned pending := ⟨owner, owned, pending⟩
  rounds other written there := by
    left
    by_cases this : other = roundKey key id
    · subst this
      have wrote : written = next := by simpa [Database.putRound] using there.symm
      exact ⟨row, found, by rw [wrote, same]⟩
    · exact ⟨written, by simpa [Database.putRound, this] using there, rfl⟩

/-- A delivery that is acknowledged in both stores. -/
theorem Twins.acknowledged {entry : MemorySession} {owner : SessionRow} {feature : FeatureState}
    (twins : Twins key entry database owner feature) {id : String} {row : RoundRow}
    {delivery : ResultDelivery} {now : Time} (reading : Reading now)
    (found : database.rounds.lookup (roundKey key id) = some row)
    (sent : entry.deliveries.lookup id = some delivery) :
    Twins key
      { entry with deliveries := entry.deliveries.insert id { delivery with acknowledgedAt := now } }
      (database.putRound (roundKey key id) { row with resultAcknowledgedAt := some (stored now) })
      owner feature := by
  have posted := twins.deliveries id
  rw [sent, found, Option.map_some, Option.bind_some] at posted
  refine
    { owned := twins.owned, reads := twins.reads, same := twins.same, whole := twins.whole
      waits := twins.waits, rounds := fun other => ?_, deliveries := fun other => ?_ }
  · rw [twins.rounds other]
    by_cases this : other = id
    · subst this
      simp [Database.putRound, found]
    · simp [Database.putRound, roundKey_inj, this]
  · by_cases this : other = id
    · subst this
      simp only [Database.putRound, Table.lookup_insert, if_true, Option.map_some,
        Option.bind_some]
      unfold RoundRow.posted at posted ⊢
      dsimp only
      split at posted
      · next final =>
        rw [if_pos final]
        simp only [Option.some.injEq, postedDelivery, Posted.mk.injEq] at posted ⊢
        exact ⟨posted.1, posted.2.1, by simp [reading.ne]⟩
      · cases posted
    · simp only [Database.putRound, Table.lookup_insert, if_neg this, roundKey_inj]
      exact twins.deliveries other

/-- A committed round whose delivery is required has its delivery. -/
theorem Twins.delivered {entry : MemorySession} {owner : SessionRow} {feature : FeatureState}
    (twins : Twins key entry database owner feature) {id : String} {row : RoundRow}
    (found : database.rounds.lookup (roundKey key id) = some row)
    (committed : row.status = .committed) (required : row.resultDeliveryRequired = true) :
    ∃ delivery, entry.deliveries.lookup id = some delivery ∧
      postedDelivery delivery =
        { sequence := row.sequence.toNat, resultHash := row.resultHash.getD ""
          acknowledged := row.resultAcknowledgedAt.isSome } := by
  have posted := twins.deliveries id
  rw [found, Option.bind_some, RoundRow.posted, if_pos ⟨committed, required⟩] at posted
  exact Option.map_eq_some_iff.mp posted

theorem Alike.acknowledge {receipt : ResultDeliveryAcknowledgement}
    (alike : Alike ⟨receipt.operatorID, receipt.sessionID⟩ memory database)
    (healthy : database.Healthy settings.codec) {now : Time} (reading : Reading now) :
    Agreed ⟨receipt.operatorID, receipt.sessionID⟩ database
      (memory.afterCheck (validateResultDeliveryAcknowledgement receipt)
        (memory.onSession ⟨receipt.operatorID, receipt.sessionID⟩ fun entry =>
          entry.acknowledgeResultDelivery receipt now))
      (settle database (database.acknowledgeResultDelivery settings.codec receipt now)) := by
  have atomic : Atomic (database.acknowledgeResultDelivery settings.codec receipt now) :=
    healthy.acknowledge_leaves receipt now
  cases valid : validateResultDeliveryAcknowledgement receipt with
  | error error =>
      obtain ⟨error', refused⟩ := settle_refused database atomic (by
        rintro ⟨⟨delivery, changed⟩, after, done⟩
        have checked := (acknowledge_ok.mp done).1
        rw [valid] at checked
        cases checked)
      rw [refused]
      exact .refused alike _ _
  | ok =>
      refine alike.on_transaction (fun entry => ?_) atomic ?_ ?_ ?_
      · refine .bind (.abortWhen _ _) fun _ => .bind (.require _ _) fun _ =>
          .bind (.abortWhen _ _) fun _ => ?_
        split <;> exact .pure _
      · rintro ⟨delivery, changed⟩ after done
        obtain ⟨_, session, _, _, locked, _⟩ := acknowledge_ok.mp done
        obtain ⟨owner, _, owned, _⟩ := lockSession_ok.mp locked
        exact ⟨owner, owned⟩
      · rintro entry owner feature twins ⟨reply, changed⟩ after done
        obtain ⟨_, session, record, row, locked, current, read, ended, found, _, required, sequence,
          hash, written⟩ := acknowledge_ok.mp done
        obtain ⟨owner', feature', owned, reads, rfl⟩ := lockSession_ok.mp locked
        rw [twins.owned, Option.some.injEq] at owned
        subst owned
        obtain ⟨same_, _, _, _, _, result, holds, rfl⟩ := healthy.lockRound_ok.mp read
        obtain rfl : same_ = row := Option.some.inj (holds.found.symm.trans found)
        change same_.status = .committed at ended
        change result.sequence = receipt.sequence at sequence
        obtain ⟨_, numbered⟩ := holds.delivery ended
        have counted : same_.sequence.toNat = receipt.sequence := by omega
        obtain ⟨delivery, sent, posted⟩ := twins.delivered found ended required
        simp only [postedDelivery, Posted.mk.injEq] at posted
        obtain ⟨sequence', hash', acknowledged⟩ := posted
        obtain ⟨serverTime, same⟩ := twins.session_eq
        have generation : receipt.transportGeneration = entry.session.transportGeneration := by
          rw [same]
          exact current
        have answer {reply' : ResultDelivery × Bool} {entry' : MemorySession} :=
          @MemorySession.acknowledge_ok entry entry' receipt now reply'
        cases instant : same_.resultAcknowledgedAt with
        | some at_ =>
            rw [instant] at written acknowledged
            have acknowledged' : delivery.acknowledgedAt ≠ 0 := of_decide_eq_true acknowledged
            refine ⟨_, entry, owner, answer.mpr ⟨generation, delivery, sent, sequence'.trans counted,
              hash'.trans hash, by rw [if_pos acknowledged']; exact ⟨rfl, rfl⟩⟩, ?_, ?_⟩
            · rw [written.2.2]
              exact twins
            · rw [written.2.2]
              exact .refl _ database
        | none =>
            rw [instant] at written acknowledged
            have waiting : ¬ delivery.acknowledgedAt ≠ 0 := of_decide_eq_false acknowledged
            refine ⟨_, _, owner, answer.mpr ⟨generation, delivery, sent, sequence'.trans counted,
              hash'.trans hash, by rw [if_neg waiting]; exact ⟨rfl, rfl⟩⟩, ?_, ?_⟩
            · rw [written.2.2]
              exact twins.acknowledged reading found sent
            · rw [written.2.2]
              have named : database.rounds.lookup (roundKey ⟨receipt.operatorID, receipt.sessionID⟩
                receipt.roundID) = some same_ := found
              exact .putRound named rfl
      · intro entry owner feature twins reply entry' done
        obtain ⟨current, delivery, sent, sequence, hash, _⟩ := MemorySession.acknowledge_ok.mp done
        obtain ⟨serverTime, same⟩ := twins.session_eq
        rw [same] at current
        have posted := twins.deliveries receipt.roundID
        rw [sent, Option.map_some] at posted
        obtain ⟨row, found, shown⟩ := Option.bind_eq_some_iff.mp posted.symm
        have delivered : row.delivery = some (receipt.sequence, receipt.resultHash) := by
          unfold RoundRow.posted at shown
          unfold RoundRow.delivery
          split at shown
          · next final =>
            simp only [postedDelivery, Option.some.injEq, Posted.mk.injEq] at shown
            rw [if_pos final, shown.1, shown.2.1, sequence, hash]
          · cases shown
        have receives : (postgresTransports settings :
            TransportView (postgresRepository settings : Repository Unit)).Receives database
              receipt :=
          { valid := valid
            delivered := Option.bind_eq_some_iff.mpr ⟨row, found, delivered⟩
            current := ⟨owner.transport, transport_found twins.owned, current.symm⟩ }
        exact healthy.acknowledge_accepted now receives

end Sessions

/-! ## Preparing a round -/

theorem lowerHexChar_identifier {c : Char} (hex : Text.lowerHexChar c = true) :
    Text.identifierChar c = true := by
  have letter : c.isAlphanum = true := by
    simp only [Text.lowerHexChar, Bool.or_eq_true, Bool.and_eq_true, decide_eq_true_eq] at hex
    rcases hex with digit | ⟨least, most⟩
    · simp [Char.isAlphanum, digit]
    · have low : 'a'.val ≤ c.val := least
      have high : c.val ≤ 'z'.val := le_trans most (by decide)
      simp only [Char.isAlphanum, Text.isAlpha_eq, Text.isLower_eq, Bool.or_eq_true, Bool.and_eq_true,
        decide_eq_true_eq]
      exact .inl (.inr ⟨low, high⟩)
  simp [Text.identifierChar, letter]

/-- A wallet operation is named by a label and a digest. -/
theorem walletOperationID_identifier (codec : Codec) (request : SpinRequest) :
    Text.identifierPattern (walletOperationID codec request) = true := by
  have digest (text : String) (hex : Text.digestPattern text = true) :
      Text.identifierPattern ("rgs-op-v1:" ++ text) = true := by
    rw [Text.digestPattern, Text.matchesPattern] at hex
    have label : "rgs-op-v1:".toList = 'r' :: "gs-op-v1:".toList := rfl
    rw [Text.identifierPattern, Text.matchesPattern, String.toList_append, label, List.cons_append]
    split at hex
    · cases hex
    · next first rest spelled =>
      simp only [Bool.and_eq_true, decide_eq_true_eq, List.all_eq_true] at hex
      obtain ⟨⟨⟨start, later⟩, _⟩, short⟩ := hex
      have known : "gs-op-v1:".toList.all Text.identifierChar = true := by decide
      have length : "gs-op-v1:".toList.length = 9 := rfl
      simp only [spelled, Bool.and_eq_true, decide_eq_true_eq, List.all_eq_true,
        List.length_append, List.length_cons, length]
      refine ⟨⟨⟨by decide, ?_⟩, Nat.zero_le _⟩, by omega⟩
      intro c member
      rcases List.mem_append.mp member with there | there
      · exact List.all_eq_true.mp known c there
      · rcases List.mem_cons.mp there with rfl | there
        · exact lowerHexChar_identifier start
        · exact lowerHexChar_identifier (later c there)
  exact digest _ (codec.sha256_digest _)
section Preparing

variable {key : SessionKey} {memory : MemoryRepository} {database : Database}
  {request : SpinRequest} {fingerprint : String} {walletProfile : Profile} {now : Time}

theorem arguments_iff :
    Rgs.validatePrepareArguments codec request fingerprint walletProfile = .ok () ↔
      validatePrepareArguments codec request fingerprint walletProfile = .ok () := by
  simp only [Rgs.validatePrepareArguments, validatePrepareArguments, bind_ok, refuse_ok,
    exists_unit, not_or]

/-- The two stores check a request against its session alike. -/
theorem binding_iff {session : Session} (positive : now ≠ 0) :
    validateBinding session request now = .ok () ↔
      validateSessionBinding session request now = .ok () ∧
        (request.transportGeneration = session.transportGeneration ∧
          now < session.idleDisconnectAt) ∧ session.sequence < maxClientSequence := by
  simp only [validateBinding, validateSessionBinding, bind_ok, refuse_ok, exists_unit, not_or,
    not_not, not_le, ge_iff_le]
  constructor
  · rintro ⟨named, bound, free, active, ⟨_, alive⟩, ⟨current, awake⟩, revision, kind, limits⟩
    exact ⟨⟨named, bound, free, active, alive, kind, revision, limits⟩, ⟨current.symm, awake⟩,
      limits.1⟩
  · rintro ⟨⟨named, bound, free, active, alive, kind, revision, limits⟩, ⟨current, awake⟩, _⟩
    exact ⟨named, bound, free, active, ⟨positive, alive⟩, ⟨current.symm, awake⟩, revision, kind,
      limits⟩

/-- What a coordinator has written down passes the check of the durable store too. -/
theorem BuiltResult.prepared {session : Session} {result : SpinResult}
    (built : BuiltResult codec session request result)
    (kind : request.roundKind = expectedRoundKind session.feature) :
    validatePrepared session request result = .ok () := by
  obtain ⟨⟨charged, outcome, rfl, charge, _⟩, checked⟩ := built
  obtain ⟨base, free, _⟩ := chargedBet_kind charge kind
  simp only [validatePreparedResult, bind_ok, refuse_ok, exists_unit, not_or, not_not, not_lt]
    at checked
  obtain ⟨⟨schema, operator, session_, round, game, version, hash, currency, kind_, operation⟩,
    ⟨revision, ended⟩, ⟨sequence, bet⟩, debit, credit, balance⟩ := checked
  simp only [validatePrepared, bind_ok, refuse_ok, exists_unit, not_or, not_not, not_lt, not_and]
  refine ⟨⟨schema, operator, session_, round, game, version, hash, currency, kind_, revision,
    ended, sequence, bet, ?_, rfl, balance, debit, credit⟩, base, free⟩
  intro absent
  have named := walletOperationID_identifier codec request
  exact identifier_ne named absent

/-- A policy that is valid assesses every result that can be digested. -/
theorem assess_ok (riskCodec : RiskCodec) {policy : HighValueRiskPolicy} {result : SpinResult}
    {outcomeHash : String} (valid : policy.validate = .ok ()) (positive : 0 < now)
    (win : 0 ≤ result.totalWinMinor)
    (hashed : preparedOutcomeHashFor codec result = .ok outcomeHash) :
    ∃ assessment, policy.assess codec riskCodec result now = .ok assessment := by
  have settings := valid
  unfold HighValueRiskPolicy.validate at settings
  simp only [HighValueRiskPolicy.assess, bind_ok, refuse_ok, exists_unit, not_lt]
  by_cases passes : policy.enabled = false ∨ result.totalWinMinor < policy.thresholdMinor
  · exact ⟨none, valid, win, by rw [if_pos passes]; rfl⟩
  · obtain ⟨enabled, reached⟩ := not_or.mp passes
    rw [if_neg enabled, refuse_ok] at settings
    simp only [not_or, not_lt, not_le, not_not, Bool.not_eq_false] at settings
    obtain ⟨threshold, version, least, _, expiry⟩ := settings
    have later : (0 : Int) < now + policy.reviewTTL := by
      have minute : (0 : Int) < Duration.minute := by decide
      exact add_pos positive (lt_of_lt_of_le minute least)
    let assessment : RiskAssessment :=
      { policyVersion := policy.policyVersion, thresholdMinor := policy.thresholdMinor
        payoutMinor := result.totalWinMinor, expiresAt := now + policy.reviewTTL
        expiryPolicy := policy.expiryPolicy }
    obtain ⟨summaryHash, summed⟩ : ∃ summaryHash,
        riskAssessmentSummaryHash codec riskCodec result assessment = .ok summaryHash := by
      simp only [riskAssessmentSummaryHash, bind_ok, refuse_ok, exists_unit, pure_ok, not_or,
        Bool.not_eq_false, not_le, not_lt, not_not]
      exact ⟨_, ⟨version, threshold, rfl, not_lt.mp reached, ne_of_gt later, expiry⟩, outcomeHash,
        hashed, rfl⟩
    refine ⟨some { assessment with summaryHash := summaryHash }, valid, win, ?_⟩
    rw [if_neg passes]
    simp only [bind_ok, refuse_ok, exists_unit, pure_ok]
    exact ⟨ne_of_gt positive, summaryHash, summed, rfl⟩

/-- The result of a coordinator has a digest. -/
theorem preparedOutcomeHash_built {session : Session} {result : SpinResult}
    (built : BuiltResult codec session request result) (deadline : Time) :
    ∃ outcomeHash, preparedOutcomeHashFor codec { result with idleDisconnectAt := deadline } =
      .ok outcomeHash := by
  obtain ⟨charged, outcome, rfl, _⟩ := built.built
  exact ⟨_, rfl⟩

/-- No other round of the operator has the wallet operation of the request. -/
def Database.NewOperation (codec : Codec) (database : Database) (request : SpinRequest) : Prop :=
  ∀ other row, database.rounds.lookup other = some row → other ≠ request.key →
    other.operatorID = request.operatorID →
    row.serverTransactionID ≠ walletOperationID codec request

theorem Database.Healthy.persist_accepted (healthy : database.Healthy settings.codec)
    (policy : settings.riskPolicy.validate = .ok ()) {owner : SessionRow} {feature : FeatureState}
    (owned : database.sessions.lookup request.key.session = some owner)
    (reads : owner.Reads request.key.session feature) (free : owner.pendingRoundID = none)
    (absent : database.rounds.lookup request.key = none)
    (operation : database.NewOperation settings.codec request) (reading : Reading now)
    (binding : validateBinding (owner.session request.key.session feature) request now = .ok ())
    {result : SpinResult}
    (built : BuiltResult settings.codec (owner.session request.key.session feature) request
      result) :
    ∃ record assessment,
      record.key = request.key ∧ record.fingerprint = fingerprint ∧
      (record.status = .prepared ∨ record.status = .riskPending) ∧
      database.persistRound settings.codec settings.riskCodec settings.riskPolicy
        (owner.session request.key.session feature) request fingerprint walletProfile result now =
        .ok ((record, true), database.bundle record owner assessment now) := by
  have bound := (binding_iff reading.ne).mp binding
  simp only [validateSessionBinding, bind_ok, refuse_ok, exists_unit, not_not] at bound
  obtain ⟨⟨_, _, _, _, _, kind, revision, _⟩, _⟩ := bound
  obtain ⟨outcomeHash, hashed⟩ := preparedOutcomeHash_built built
    ((owner.session request.key.session feature).renewedIdleDisconnectAt now)
  have win : 0 ≤ { result with
      idleDisconnectAt := (owner.session request.key.session feature).renewedIdleDisconnectAt
        now }.totalWinMinor := by
    obtain ⟨charged, outcome, rfl, _, nonneg, _⟩ := built.built
    exact nonneg
  obtain ⟨assessment, assessed⟩ := assess_ok settings.riskCodec policy reading.1 win hashed
  have named : result.serverTransactionID = walletOperationID settings.codec request := by
    obtain ⟨charged, outcome, rfl, _⟩ := built.built
    rfl
  refine ⟨_, assessment, ?_, ?_, ?_, persistRound_ok.mpr ⟨rfl, BuiltResult.prepared built kind,
    outcomeHash, assessment, hashed, assessed, rfl, writePrepared_ok.mpr ⟨?_, ?_, ?_, ?_, owner,
      owned, ?_, free, rfl⟩⟩⟩
  · rfl
  · rfl
  · cases assessment with
    | none => exact .inl rfl
    | some assessment => exact .inr rfl
  · show Text.identifierPattern result.serverTransactionID = true
    rw [named]
    exact walletOperationID_identifier _ _
  · exact absent
  · rintro ⟨other, row⟩ present operator same
    have found := Table.mem_rows.mp present
    refine operation other row found ?_ operator (same.trans named)
    rintro rfl
    rw [absent] at found
    cases found
  · by_contra booked
    obtain ⟨entry, found⟩ := Option.ne_none_iff_exists'.mp booked
    obtain ⟨row, there, same⟩ := healthy.ledger _ entry found
    refine operation _ row there ?_ rfl (same.trans named)
    intro this
    rw [this, absent] at there
    cases there
  · obtain ⟨_, nonneg, _⟩ := reads.bounds
    show owner.revision = (request.startRevision : Int)
    rw [← revision]
    exact (Int.toNat_of_nonneg nonneg).symm

/-- The reference store writes what a coordinator has written down. -/
theorem persistRound_accepted {entry : MemorySession} {result : SpinResult}
    (built : BuiltResult codec entry.session request result) :
    ∃ record, record.key = request.key ∧ record.fingerprint = fingerprint ∧
      entry.persistRound codec request fingerprint walletProfile result now =
        .ok ((record, true),
          (({ entry with
                session :=
                  { entry.session with
                    pendingRoundID := request.roundID
                    idleDisconnectAt := entry.session.renewedIdleDisconnectAt now } } :
              MemorySession).putRound record).putTransaction record.walletCommand.operationID
                { command := record.walletCommand, kind := .play, status := .pending }) := by
  obtain ⟨outcomeHash, hashed⟩ := preparedOutcomeHash_built built
    (entry.session.renewedIdleDisconnectAt now)
  refine ⟨Rgs.preparedRecord codec entry.session request fingerprint walletProfile
    { result with idleDisconnectAt := entry.session.renewedIdleDisconnectAt now } outcomeHash now,
    rfl, rfl, ?_⟩
  simp only [MemorySession.persistRound, bind_ok, check_ok, exists_unit, pure_ok, Prod.mk.injEq]
  exact ⟨built.checked, outcomeHash, hashed, ⟨rfl, trivial⟩, rfl⟩

/-- Both stores renew the idle deadline alike. -/
theorem renewed_min (session : Session) (now : Time) :
    session.renewedIdleDisconnectAt now = min session.expiresAt (now + session.idleDisconnect) := by
  unfold Session.renewedIdleDisconnectAt
  split
  · next later => rw [min_eq_left (le_of_lt later)]
  · next early => rw [min_eq_right (not_lt.mp early)]

theorem preparedRow_posted {record : RoundRecord}
    (status : record.status = .prepared ∨ record.status = .riskPending) :
    (preparedRow record).posted = none := by
  unfold RoundRow.posted
  rw [if_neg]
  rintro ⟨committed, _⟩
  change record.status = .committed at committed
  rcases status with prepared | held
  · rw [prepared] at committed
    cases committed
  · rw [held] at committed
    cases committed

theorem Twins.prepared {entry entry' : MemorySession} {owner : SessionRow} {feature : FeatureState}
    (twins : Twins request.key.session entry database owner feature) (reading : Reading now)
    (alive : now < owner.expiresAt) (pattern : Text.identifierPattern request.roundID = true)
    (absent : database.rounds.lookup request.key = none) {record : RoundRecord}
    {ours : RoundRecord} {assessment : Option RiskAssessment} (keyed : record.key = request.key)
    (status : record.status = .prepared ∨ record.status = .riskPending)
    (keyed' : ours.key = request.key) (same : record.fingerprint = ours.fingerprint)
    (session : entry'.session =
      { entry.session with
        pendingRoundID := request.roundID
        idleDisconnectAt := entry.session.renewedIdleDisconnectAt now })
    (rounds : entry'.rounds = entry.rounds.insert ours.key.roundID ours)
    (deliveries : entry'.deliveries = entry.deliveries) :
    Twins request.key.session entry' (database.bundle record owner assessment now)
      (owner.prepared request.roundID now) feature := by
  have writes : database.Writes (database.bundle record owner assessment now) record.key
      (preparedRow record) (owner.prepared record.key.roundID now) (preparedTransaction record) :=
    bundle_writes owner
  rw [keyed] at writes
  obtain ⟨serverTime, twin⟩ := twins.session_eq
  refine
    { owned := by rw [writes.sessions, if_pos rfl]; rfl
      reads := twins.reads.prepared reading alive pattern
      same := ?_, whole := twins.whole, waits := ?_, rounds := fun id => ?_
      deliveries := fun id => ?_ }
  · rw [session, twin, renewed_min]
    rfl
  · intro this
    exact identifier_ne pattern (Option.some.inj this)
  · rw [rounds, keyed', writes.rounds]
    have named : roundKey request.key.session request.roundID = request.key := rfl
    by_cases this : id = request.roundID
    · subst this
      have here : request.roundID = request.key.roundID := rfl
      rw [named, if_pos rfl, Table.lookup_insert, if_pos here, Option.map_some, Option.map_some]
      exact congrArg some same.symm
    · have apart : roundKey request.key.session id ≠ request.key := fun same =>
        this (roundKey_inj.mp (same.trans named.symm))
      have elsewhere : id ≠ request.key.roundID := this
      rw [if_neg apart, Table.lookup_insert, if_neg elsewhere]
      exact twins.rounds id
  · rw [deliveries, writes.rounds, twins.deliveries id]
    split
    · next this => rw [this, absent, Option.bind_none, Option.bind_some, preparedRow_posted status]
    · rfl

theorem Database.Framed.prepared {owner : SessionRow} {record : RoundRecord}
    {assessment : Option RiskAssessment} (keyed : record.key = request.key) :
    database.Framed request.key.session (database.bundle record owner assessment now) := by
  have writes : database.Writes (database.bundle record owner assessment now) record.key
      (preparedRow record) (owner.prepared record.key.roundID now) (preparedTransaction record) :=
    bundle_writes owner
  rw [keyed] at writes
  have waiting : ∃ next ∈ (database.bundle record owner assessment now).sessions.lookup
      request.key.session, next.pendingRoundID ≠ none := by
    refine ⟨owner.prepared request.key.roundID now, by rw [writes.sessions, if_pos rfl]; rfl, ?_⟩
    rintro ⟨⟩
  refine ⟨fun other apart => by rw [writes.sessions, if_neg apart], fun _ _ _ => waiting,
    fun _ _ _ => .inr waiting⟩

section Admission

variable {entry : MemorySession} {owner : SessionRow} {feature : FeatureState}

theorem Twins.replay_iff (twins : Twins request.key.session entry database owner feature)
    (healthy : database.Healthy codec) (fingerprint : String) (now : Time) :
    (∃ record, entry.admitRound request fingerprint now now = .ok (.replay record)) ↔
      ∃ record, database.admitRound codec request fingerprint now now = .ok (.replay record) := by
  have rounds := twins.rounds request.roundID
  have session := lockSession_ok.mpr ⟨owner, feature, twins.owned, twins.reads, rfl⟩
  constructor
  · rintro ⟨record, admitted⟩
    obtain ⟨found, same⟩ := MemorySession.admitRound_replay admitted
    rw [found, Option.map_some] at rounds
    obtain ⟨row, there, same'⟩ := Option.map_eq_some_iff.mp rounds.symm
    obtain ⟨_, _, _, _, _, holds⟩ := healthy.rounds request.key row there
    exact ⟨_, admitRound_replay.mpr ⟨⟨_, session⟩, holds.lockRound, same'.trans same⟩⟩
  · rintro ⟨record, admitted⟩
    obtain ⟨_, locked, same⟩ := admitRound_replay.mp admitted
    obtain ⟨row, _, _, _, _, _, holds, rfl⟩ := healthy.lockRound_ok.mp locked
    change row.requestFingerprint = fingerprint at same
    have there : database.rounds.lookup (roundKey request.key.session request.roundID) = some row :=
      holds.found
    rw [there, Option.map_some] at rounds
    obtain ⟨existing, found, same'⟩ := Option.map_eq_some_iff.mp rounds
    refine ⟨existing, ?_⟩
    unfold MemorySession.admitRound
    rw [found]
    simp only [bind_ok, refuse_ok, exists_unit, not_not, pure_ok, and_true]
    exact same'.trans same

theorem Twins.fresh_iff (twins : Twins request.key.session entry database owner feature)
    (healthy : database.Healthy codec) (fingerprint : String) (positive : now ≠ 0) :
    entry.admitRound request fingerprint now now = .ok .fresh ↔
      database.admitRound codec request fingerprint now now =
        .ok (.fresh (owner.session request.key.session feature)) := by
  have rounds := twins.rounds request.roundID
  have named : roundKey request.key.session request.roundID = request.key := rfl
  rw [named] at rounds
  have absent : entry.rounds.lookup request.roundID = none ↔
      database.rounds.lookup request.key = none := by
    rw [← Option.map_eq_none_iff, rounds, Option.map_eq_none_iff]
  have unread : database.rounds.lookup request.key = none ↔
      ∃ error, database.lockRound codec request.key = .error error ∧
        error.kind = .roundNotFound := by
    constructor
    · intro missing
      exact ⟨{ kind := .roundNotFound }, by rw [Database.lockRound, missing], rfl⟩
    · rintro ⟨error, locked, _⟩
      exact (healthy.lockRound_error locked).2
  obtain ⟨serverTime, same⟩ := twins.session_eq
  have bound : validateSessionBinding entry.session request now =
      validateSessionBinding (owner.session request.key.session feature) request now := by
    rw [same]
    rfl
  rw [MemorySession.admitRound_fresh_iff, admitRound_fresh, binding_iff positive, absent, unread,
    twins.pending, bound, same]
  have session := lockSession_ok.mpr ⟨owner, feature, twins.owned, twins.reads, rfl⟩
  constructor
  · rintro ⟨missing, delivered, free, binding, current, sequence⟩
    exact ⟨session, missing, delivered, ⟨binding, current, sequence⟩, free⟩
  · rintro ⟨_, missing, delivered, ⟨binding, current, sequence⟩, free⟩
    exact ⟨missing, delivered, free, binding, current, sequence⟩

/-- What the two stores find before they consult the generator. -/
theorem Twins.admitted (twins : Twins request.key.session entry database owner feature)
    (healthy : database.Healthy codec) (fingerprint : String) (positive : now ≠ 0) :
    (∃ error error', entry.admitRound request fingerprint now now = .error error ∧
      database.admitRound codec request fingerprint now now = .error (.rolledBack error')) ∨
    (∃ record record', entry.admitRound request fingerprint now now = .ok (.replay record) ∧
      database.admitRound codec request fingerprint now now = .ok (.replay record')) ∨
    (entry.admitRound request fingerprint now now = .ok .fresh ∧
      database.admitRound codec request fingerprint now now =
        .ok (.fresh (owner.session request.key.session feature))) := by
  have replays := twins.replay_iff healthy fingerprint now
  have fresh := twins.fresh_iff healthy fingerprint positive
  match ours : entry.admitRound request fingerprint now now with
  | .ok (.replay record) =>
      obtain ⟨record', theirs⟩ := replays.mp ⟨record, ours⟩
      exact .inr (.inl ⟨record, record', rfl, theirs⟩)
  | .ok .fresh => exact .inr (.inr ⟨rfl, fresh.mp ours⟩)
  | .error error =>
      left
      match theirs : database.admitRound codec request fingerprint now now with
      | .error (.rolledBack error') => exact ⟨error, error', rfl, rfl⟩
      | .error (.committed error' after) =>
          have unread := (healthy.admitRound_error theirs).1
          exact absurd (readable_iff.mpr ⟨owner, feature, twins.owned, twins.reads⟩) unread
      | .ok (.replay record) =>
          obtain ⟨_, replayed⟩ := replays.mpr ⟨record, theirs⟩
          rw [ours] at replayed
          cases replayed
      | .ok (.fresh session) =>
          obtain ⟨locked, _⟩ := admitRound_fresh.mp theirs
          obtain ⟨owner', feature', owned, reads, rfl⟩ := lockSession_ok.mp locked
          rw [twins.owned, Option.some.injEq] at owned
          subst owned
          obtain rfl := reads.feature_eq twins.reads
          rw [fresh.mpr theirs] at ours
          cases ours

end Admission

/-- Both stores write a fresh round. -/
theorem Twins.persist {entry : MemorySession} {owner : SessionRow} {feature : FeatureState}
    (twins : Twins request.key.session entry database owner feature)
    (healthy : database.Healthy settings.codec) (policy : settings.riskPolicy.validate = .ok ())
    (valid : validatePrepareArguments settings.codec request fingerprint walletProfile = .ok ())
    (admitted : database.admitRound settings.codec request fingerprint now now =
      .ok (.fresh (owner.session request.key.session feature)))
    (operation : owner.pendingRoundID = none → database.NewOperation settings.codec request)
    (reading : Reading now) {result : SpinResult}
    (built : BuiltResult settings.codec (owner.session request.key.session feature) request
      result) :
    ∃ record entry' record' after owner',
      entry.persistRound settings.codec request fingerprint walletProfile result now =
        .ok ((record, true), entry') ∧
      database.persistRound settings.codec settings.riskCodec settings.riskPolicy
        (owner.session request.key.session feature) request fingerprint walletProfile result now =
        .ok ((record', true), after) ∧
      Twins request.key.session entry' after owner' feature ∧
      database.Framed request.key.session after := by
  obtain ⟨_, ⟨error, locked, _⟩, _, binding, unwaiting⟩ := admitRound_fresh.mp admitted
  have absent := (healthy.lockRound_error locked).2
  have free : owner.pendingRoundID = none := by
    cases pending : owner.pendingRoundID with
    | none => rfl
    | some id =>
        have empty : id = "" := by
          change owner.pendingRoundID.getD "" = "" at unwaiting
          rwa [pending] at unwaiting
        rw [empty] at pending
        exact absurd pending twins.waits
  have alive : now < owner.expiresAt := by
    have bound := (binding_iff reading.ne).mp binding
    simp only [validateSessionBinding, bind_ok, refuse_ok, exists_unit, not_le] at bound
    exact bound.1.2.2.2.2.1
  have pattern : Text.identifierPattern request.roundID = true := by
    simp only [validatePrepareArguments, bind_ok, exists_unit, validateSpinRequest,
      validateIdentifiers, forM_ok, List.forall_mem_cons, refuse_ok, Bool.not_eq_false] at valid
    exact valid.1.1.2.2.1
  have built' : BuiltResult settings.codec entry.session request result := by
    obtain ⟨serverTime, same⟩ := twins.session_eq
    rw [same]
    exact ⟨built.built, built.checked⟩
  obtain ⟨ours, keyed, same, wrote⟩ := persistRound_accepted built'
  obtain ⟨theirs, assessment, keyed', same', status, wrote'⟩ := healthy.persist_accepted policy
    twins.owned twins.reads free absent (operation free) reading binding built
  refine ⟨ours, _, theirs, _, owner.prepared request.roundID now, wrote, wrote', ?_,
    .prepared keyed'⟩
  exact twins.prepared reading alive pattern absent keyed' status keyed (same'.trans same.symm) rfl
    rfl rfl

theorem Alike.prepare {ω : Type} {prepare : PrepareOutcome ω} {world : ω}
    (alike : Alike request.key.session memory database)
    (healthy : database.Healthy settings.codec) (policy : settings.riskPolicy.validate = .ok ())
    (coordinates : Coordinates settings.codec request prepare)
    (operation : ∀ owner ∈ database.sessions.lookup request.key.session,
      owner.pendingRoundID = none → database.NewOperation settings.codec request)
    (instant : Instant) :
    let ours := memory.prepareRound settings.codec request fingerprint walletProfile prepare
      instant.clock world
    let theirs := database.prepareRound settings request fingerprint walletProfile prepare
      instant.now instant.now world
    ours.2.2 = theirs.2.2 ∧
      Agreed request.key.session database (ours.1, ours.2.1) (theirs.1, theirs.2.1) := by
  have refused (ours theirs : RgsError) (drawn : ω) :
      drawn = drawn ∧ Agreed request.key.session database
        ((.error ours, memory) : Except RgsError (RoundRecord × Bool) × MemoryRepository)
        ((.error theirs, database) : Except RgsError (RoundRecord × Bool) × Database) :=
    ⟨rfl, .refused alike ours theirs⟩
  intro ours theirs
  cases valid : validatePrepareArguments settings.codec request fingerprint walletProfile with
  | error error =>
      have right : theirs = (.error error, database, world) := by
        simp only [theirs, Database.prepareRound, valid]
      cases valid' : Rgs.validatePrepareArguments settings.codec request fingerprint
          walletProfile with
      | error error' =>
          have left : ours = (.error error', memory, world) := by
            simp only [ours, MemoryRepository.prepareRound, valid']
          rw [left, right]
          exact refused error' error world
      | ok =>
          have accepted := arguments_iff.mp valid'
          rw [valid] at accepted
          cases accepted
  | ok =>
      have valid' : Rgs.validatePrepareArguments settings.codec request fingerprint walletProfile =
          .ok () := arguments_iff.mpr valid
      cases alike with
      | absent missing unknown =>
          have locked : database.lockSession request.key.session =
              .error { kind := .sessionNotFound } := by
            rw [Database.lockSession, unknown]
          have stopped : database.admitRound settings.codec request fingerprint instant.now
              instant.now = .error (.rolledBack { kind := .sessionNotFound }) := by
            rw [Database.admitRound, Database.lockSessionOrQuarantine, locked]
            rfl
          have left : ours = (.error { kind := .sessionNotFound }, memory, world) := by
            simp only [ours, MemoryRepository.prepareRound, valid', missing]
          have right : theirs = (.error { kind := .sessionNotFound }, database, world) := by
            simp only [theirs, Database.prepareRound, valid, stopped]
          rw [left, right]
          exact refused _ _ world
      | present entry owner feature found twins =>
          have same : ∀ index, instant.clock index = instant.now := fun _ => rfl
          rcases twins.admitted healthy fingerprint instant.reading.ne with
            ⟨error, error', admitted, admitted'⟩ | ⟨record, record', admitted, admitted'⟩ |
              ⟨admitted, admitted'⟩
          · have left : ours = (.error error, memory, world) := by
              simp only [ours, MemoryRepository.prepareRound, valid', found, same, admitted]
            have right : theirs = (.error error', database, world) := by
              simp only [theirs, Database.prepareRound, valid, admitted']
            rw [left, right]
            exact refused error error' world
          · have left : ours = (.ok (record, false), memory, world) := by
              simp only [ours, MemoryRepository.prepareRound, valid', found, same, admitted]
            have right : theirs = (.ok (record', false), database, world) := by
              simp only [theirs, Database.prepareRound, valid, admitted']
            rw [left, right]
            exact ⟨rfl, rfl, .present entry owner feature found twins, .refl _ database⟩
          · obtain ⟨serverTime, twin⟩ := twins.session_eq
            have drawn : prepare entry.session world =
                prepare (owner.session request.key.session feature) world := by
              rw [twin, coordinates.untimed]
            rcases generated : prepare (owner.session request.key.session feature) world with
              ⟨prepared, drawn'⟩
            cases prepared with
            | error error =>
                have left : ours = (.error error, memory, drawn') := by
                  simp only [ours, MemoryRepository.prepareRound, valid', found, same, admitted,
                    drawn, generated]
                have right : theirs = (.error error, database, drawn') := by
                  simp only [theirs, Database.prepareRound, valid, admitted', generated]
                rw [left, right]
                exact refused error error drawn'
            | ok result =>
                have built := coordinates.built _ world result drawn' generated
                obtain ⟨record, entry', record', after, owner', wrote, wrote', twins', framed⟩ :=
                  twins.persist healthy policy valid admitted' (operation owner twins.owned)
                    instant.reading built
                have settled : settle entry (entry.persistRound settings.codec request fingerprint
                    walletProfile result instant.now) = (.ok (record, true), entry') := by
                  rw [wrote]
                  rfl
                have left : ours = (.ok (record, true),
                    { sessions := memory.sessions.insert request.key.session entry' }, drawn') := by
                  simp only [ours, MemoryRepository.prepareRound, valid', found, same, admitted,
                    drawn, generated, MemoryRepository.onSession, settled]
                have right : theirs = (.ok (record', true), after, drawn') := by
                  simp only [theirs, Database.prepareRound, valid, admitted', generated, wrote',
                    Database.transact, settle]
                rw [left, right]
                exact ⟨rfl, rfl, .written twins' memory, framed⟩

end Preparing

/-! ## Runs -/

/-- What the durable store alone refuses: a wallet session that another session of the
operator has, and a wallet operation that another of its rounds has. -/
def Database.Clear (codec : Codec) (database : Database) : RepositoryCall ω → Prop
  | .createSession session => database.NewWallet session
  | .prepareRound request _ _ _ => database.NewOperation codec request
  | _ => True

/-- A call on the session `key`, in units that a column keeps. -/
structure OnSession (codec : Codec) (key : SessionKey) (call : RepositoryCall ω) : Prop where
  transports : call.OfTransport (Coordinates codec)
  concerns : call.Concerns key
  seconds : WholeSeconds call
  deadlines : WholeDeadlines call

/-- Two stores that have run the same calls on the session `key` since `start`. -/
structure Lockstep (codec : Codec) (key : SessionKey) (start : Database)
    (memory : MemoryRepository) (database : Database) : Prop where
  alike : Alike key memory database
  healthy : database.Healthy codec
  framed : start.Framed key database

section Runs

variable {key : SessionKey} {start database : Database} {memory : MemoryRepository}

theorem Lockstep.wallet (lockstep : Lockstep codec key start memory database) {session : Session}
    (named : session.key = key) (clear : start.NewWallet session) : database.NewWallet session := by
  intro other row found apart
  refine clear other row ?_ apart
  rw [← lockstep.framed.others other (named ▸ apart)]
  exact found

theorem Lockstep.operation (lockstep : Lockstep codec key start memory database)
    {request : SpinRequest} (clear : start.NewOperation codec request) {owner : SessionRow}
    (owned : database.sessions.lookup key = some owner) (free : owner.pendingRoundID = none) :
    database.NewOperation codec request := by
  intro other row found apart operator
  rcases lockstep.framed.rounds other row found with ⟨old, there, same⟩ | ⟨next, here, waits⟩
  · rw [← same]
    exact clear other old there apart operator
  · rw [owned, Option.mem_some] at here
    subst here
    exact absurd free waits

/-- A session that is not there has no rounds. -/
theorem Database.Healthy.no_rounds (healthy : database.Healthy codec)
    (unknown : database.sessions.lookup key = none) (id : String) :
    database.rounds.lookup (roundKey key id) = none := by
  by_contra present
  obtain ⟨row, found⟩ := Option.ne_none_iff_exists'.mp present
  obtain ⟨_, _, _, _, _, holds⟩ := healthy.rounds _ row found
  have owned := holds.owned
  have named : (roundKey key id).session = key := rfl
  rw [named, unknown] at owned
  cases owned

theorem Lockstep.agreed (lockstep : Lockstep settings.codec key start memory database)
    (policy : settings.riskPolicy.validate = .ok ()) {call : RepositoryCall ω}
    (on : OnSession settings.codec key call) (clear : start.Clear settings.codec call)
    (instant : Instant) (world : ω) :
    let ours := MemoryRepository.run settings.codec instant.clock call memory world
    let theirs := database.execute settings instant.env call world
    ours.2.2 = theirs.2.2 ∧ Agreed key database (ours.1, ours.2.1) (theirs.1, theirs.2.1) := by
  obtain ⟨transports, concerns, seconds, deadlines⟩ := on
  cases call with
  | createSession session =>
      subst concerns
      exact ⟨rfl, lockstep.alike.createSession seconds deadlines.1 deadlines.2
        (fun unknown id => lockstep.healthy.no_rounds unknown id) (lockstep.wallet rfl clear)⟩
  | authorizeSessionRelaunch target =>
      obtain rfl : target = key := concerns
      exact ⟨rfl, lockstep.alike.relaunch instant.now⟩
  | resetSessionTransport target idleDisconnect =>
      obtain rfl : target = key := concerns
      exact ⟨rfl, lockstep.alike.reset instant.reading seconds⟩
  | authorizeSessionTransport target transportGeneration allowIdleRecovery =>
      obtain rfl : target = key := concerns
      exact ⟨rfl, lockstep.alike.authorize transportGeneration allowIdleRecovery instant.now⟩
  | acknowledgeResultDelivery receipt =>
      subst concerns
      exact ⟨rfl, lockstep.alike.acknowledge lockstep.healthy instant.reading⟩
  | prepareRound request fingerprint walletProfile prepare =>
      subst concerns
      exact lockstep.alike.prepare lockstep.healthy policy transports
        (fun owner owned free => lockstep.operation clear owned free) instant
  | _ => cases transports

theorem Lockstep.step (lockstep : Lockstep settings.codec key start memory database)
    (policy : settings.riskPolicy.validate = .ok ()) {call : RepositoryCall ω}
    (on : OnSession settings.codec key call) (clear : start.Clear settings.codec call)
    (instant : Instant) (world : ω) :
    let ours := MemoryRepository.run settings.codec instant.clock call memory world
    let theirs := database.execute settings instant.env call world
    ours.1.isOk = theirs.1.isOk ∧ ours.2.2 = theirs.2.2 ∧
      Lockstep settings.codec key start ours.2.1 theirs.2.1 := by
  obtain ⟨drawn, agreed⟩ := lockstep.agreed policy on clear instant world
  refine ⟨agreed.accepted, drawn, agreed.alike, ?_, lockstep.framed.trans agreed.framed⟩
  have coordinated : Coordinated settings instant.env database call := by
    have transports := on.transports
    cases call with
    | prepareRound => exact transports.built
    | markManualReview | claimRecoverableRounds => cases transports
    | _ => trivial
  exact (lockstep.healthy.execute coordinated rfl).follows.healthy

/-- Two stores that are alike accept and refuse the same calls. -/
theorem Lockstep.accepts (policy : settings.riskPolicy.validate = .ok ())
    (calls : List (Instant × RepositoryCall ω))
    (on : ∀ entry ∈ calls, OnSession settings.codec key entry.2)
    (clear : ∀ entry ∈ calls, start.Clear settings.codec entry.2) :
    ∀ {memory database}, Lockstep settings.codec key start memory database → ∀ world,
      Postgres.accepts (memoryRepository settings.codec) Instant.clock calls memory world =
        Postgres.accepts (postgresRepository settings) Instant.env calls database world := by
  induction calls with
  | nil => exact fun _ _ => rfl
  | cons entry rest ih =>
      intro memory database lockstep world
      obtain ⟨instant, call⟩ := entry
      obtain ⟨accepted, drawn, next⟩ := lockstep.step policy
        (on _ (List.mem_cons_self ..)) (clear _ (List.mem_cons_self ..)) instant world
      have connected : (postgresRepository settings).run instant.env call database world =
          database.execute settings instant.env call world := run_connected rfl call world
      have later := ih (fun entry member => on entry (List.mem_cons_of_mem _ member))
        (fun entry member => clear entry (List.mem_cons_of_mem _ member)) next
      simp only [Postgres.accepts, connected]
      rw [← drawn, ← later]
      exact congrArg (· :: _) accepted

end Runs

theorem Lockstep.start (codec : Codec) {key : SessionKey} {memory : MemoryRepository}
    {database : Database} (alike : Alike key memory database) (healthy : database.Healthy codec) :
    Lockstep codec key database memory database :=
  ⟨alike, healthy, .refl key database⟩

/-- A store without sessions refuses nothing that the reference store would accept. -/
theorem Database.Clear.empty (codec : Codec) (call : RepositoryCall ω) :
    Database.empty.Clear codec call := by
  cases call with
  | createSession session =>
      intro other row found
      simp [Database.empty] at found
  | prepareRound request fingerprint walletProfile prepare =>
      intro other row found
      simp [Database.empty] at found
  | _ => trivial

/-- **Both stores fence the transports of their sessions, over every run, and two
stores that hold a session alike accept and refuse the same calls on it.** -/
theorem transports_fenced (settings : Settings) (policy : settings.riskPolicy.validate = .ok ()) :
    (memoryRepository settings.codec : Repository ω).Fenced (memoryTransports settings.codec) ∧
      (postgresRepository settings : Repository ω).Fenced (postgresTransports settings) ∧
      ∀ (key : SessionKey) (calls : List (Instant × RepositoryCall ω)) (world : ω),
        (∀ entry ∈ calls, OnSession settings.codec key entry.2) →
        accepts (memoryRepository settings.codec) Instant.clock calls newMemoryRepository world =
            accepts (postgresRepository settings) Instant.env calls Database.empty world ∧
          ∀ (memory : MemoryRepository) (database : Database), Alike key memory database →
            database.Healthy settings.codec →
            (∀ entry ∈ calls, database.Clear settings.codec entry.2) →
            accepts (memoryRepository settings.codec) Instant.clock calls memory world =
              accepts (postgresRepository settings) Instant.env calls database world := by
  refine ⟨(memory_fences settings.codec).fenced, (postgres_fences settings).fenced, ?_⟩
  intro key calls world on
  refine ⟨?_, fun memory database alike healthy clear => ?_⟩
  · exact Lockstep.accepts policy calls on (fun entry _ => .empty settings.codec entry.2)
      (.start settings.codec (Alike.new key) (Database.Healthy.empty settings.codec)) world
  · exact Lockstep.accepts policy calls on clear (.start settings.codec alike healthy) world

/-- A session whose lifetime ends inside a microsecond. -/
def fineSession : Session := { demoSession with expiresAt := Duration.hour + 500 }

/-- The first second of the hour, and its last. -/
def firstInstant : Instant := { now := Duration.second, positive := by decide, whole := rfl }

def lastInstant : Instant := { now := Duration.hour, positive := by decide, whole := rfl }

/-- The session is created, and is launched again when its hour is over. -/
def fineCalls : List (Instant × RepositoryCall Unit) :=
  [(firstInstant, .createSession fineSession),
    (lastInstant, .authorizeSessionRelaunch fineSession.key)]

/-- The durable store ends the session at the microsecond, the reference store after
it. -/
theorem fineCalls_differ :
    (∀ entry ∈ fineCalls, entry.2.OfTransport (Coordinates demoCodec) ∧
      entry.2.Concerns fineSession.key ∧ WholeSeconds entry.2) ∧
    accepts (memoryRepository demoCodec) Instant.clock fineCalls newMemoryRepository () =
      [true, true] ∧
    accepts (postgresRepository demoSettings) Instant.env fineCalls Database.empty () =
      [true, false] := by
  refine ⟨?_, by decide +kernel, by decide +kernel⟩
  intro entry member
  simp only [fineCalls, List.mem_cons, List.not_mem_nil, or_false] at member
  rcases member with rfl | rfl
  · exact ⟨trivial, rfl, rfl⟩
  · exact ⟨trivial, rfl, trivial⟩

/-- A session with whole deadlines is created, its transport is reset, and a round is
prepared under either generation. -/
def demoCalls : List (Instant × RepositoryCall (List Nat)) :=
  [(firstInstant, .createSession demoSession),
    (firstInstant, .resetSessionTransport demoSession.key Duration.minute),
    (firstInstant, demoCall),
    (firstInstant, .authorizeSessionTransport demoSession.key 2 false)]

theorem demoCalls_on : ∀ entry ∈ demoCalls, OnSession demoCodec demoSession.key entry.2 := by
  intro entry member
  simp only [demoCalls, List.mem_cons, List.not_mem_nil, or_false] at member
  rcases member with rfl | rfl | rfl | rfl
  · exact ⟨trivial, rfl, rfl, rfl, rfl⟩
  · exact ⟨trivial, rfl, rfl, trivial⟩
  · exact ⟨prepareIntent_coordinates _ _ _ _, rfl, trivial, trivial⟩
  · exact ⟨trivial, rfl, trivial, trivial⟩

theorem TransportsBounded.empty : Database.empty.TransportsBounded := by
  intro key row found
  simp [Database.empty] at found

/-- The first generation is refused after the reset, in both stores. -/
theorem demoCalls_fenced :
    demoSettings.riskPolicy.validate = .ok () ∧
      accepts (memoryRepository demoCodec) Instant.clock demoCalls newMemoryRepository
        demoDraws = [true, true, false, true] ∧
      accepts (postgresRepository demoSettings) Instant.env demoCalls Database.empty demoDraws =
        [true, true, false, true] ∧
      (∀ after transport, Relation.ReflTransGen
          (memoryTransports demoCodec : TransportView (memoryRepository demoCodec :
            Repository (List Nat))).Step newMemoryRepository after →
        after.transport demoSession.key = some transport →
        transport.idleDisconnectAt ≤ transport.expiresAt) ∧
      ∀ after transport, Relation.ReflTransGen
          (postgresTransports demoSettings : TransportView (postgresRepository demoSettings :
            Repository (List Nat))).Step Database.empty after →
        after.transport demoSession.key = some transport →
        transport.idleDisconnectAt ≤ transport.expiresAt := by
  obtain ⟨memory, postgres, agree⟩ := @transports_fenced (List Nat) demoSettings rfl
  have ours : accepts (memoryRepository demoCodec) Instant.clock demoCalls newMemoryRepository
      demoDraws = [true, true, false, true] := by decide +kernel
  refine ⟨rfl, ours, ?_, fun after transport run found => ?_, fun after transport run found => ?_⟩
  · exact (agree demoSession.key demoCalls demoDraws demoCalls_on).1.symm.trans ours
  · exact memory.bounded MemoryRepository.TransportsBounded.new run found
  · exact postgres.bounded ⟨Database.Healthy.empty demoCodec, TransportsBounded.empty⟩ run found

end SlotsGame.Postgres
