/-
# SlotsGame.Postgres.Transport -- the durable store fences transports

As for the reference store, `Passed` says once what a call of the transport does.
A session whose row cannot be read is quarantined by the first call that would
prepare a round for it; it has no transport that a call could present.
-/
import SlotsGame.Rgs.Transport
import SlotsGame.Postgres.Durability

namespace SlotsGame.Postgres

open SlotsGame.Game SlotsGame.Rgs SlotsGame.Theory

set_option autoImplicit false

variable {ω : Type} {settings : Settings} {codec : Codec} {database after : Database}

/-! ## What the store shows -/

def SessionRow.transport (row : SessionRow) : Transport :=
  { generation := row.transportGeneration.toNat, idleDisconnectAt := row.idleDisconnectAt
    expiresAt := row.expiresAt }

def Database.transport (database : Database) (key : SessionKey) : Option Transport :=
  (database.sessions.lookup key).map SessionRow.transport

def Database.round (codec : Codec) (database : Database) (key : RoundKey) : Option RoundRecord :=
  (database.lockRound codec key).toOption

/-- The committed delivery of a round. -/
def RoundRow.delivery (row : RoundRow) : Option (Nat × String) :=
  if row.status = .committed ∧ row.resultDeliveryRequired = true then
    some (row.sequence.toNat, row.resultHash.getD "")
  else none

def Database.delivery (database : Database) (key : RoundKey) : Option (Nat × String) :=
  (database.rounds.lookup key).bind RoundRow.delivery

def Database.TransportsBounded (database : Database) : Prop :=
  ∀ key row, database.sessions.lookup key = some row → row.transport.Bounded

/-- The session is there and can be read. -/
def Database.Readable (database : Database) (key : SessionKey) : Prop :=
  ∃ session, database.lockSession key = .ok session

/-- The transports of the durable store. -/
def postgresTransports (settings : Settings) :
    TransportView (postgresRepository settings : Repository ω) where
  clock env := env.database
  Connected env := env.fault = none
  built := BuiltBy settings.codec
  validArguments := validatePrepareArguments settings.codec
  Valid database := database.Healthy settings.codec ∧ database.TransportsBounded
  Reads := Database.Readable
  transport := Database.transport
  round := Database.round settings.codec
  delivery := Database.delivery
  Same before after := after = before

theorem transport_found {key : SessionKey} {row : SessionRow}
    (found : database.sessions.lookup key = some row) :
    database.transport key = some row.transport := by
  rw [Database.transport, found, Option.map_some]

theorem readable_iff {key : SessionKey} :
    database.Readable key ↔ ∃ row feature, database.sessions.lookup key = some row ∧
      row.Reads key feature := by
  constructor
  · rintro ⟨session, locked⟩
    obtain ⟨row, feature, found, reads, _⟩ := lockSession_ok.mp locked
    exact ⟨row, feature, found, reads⟩
  · rintro ⟨row, feature, found, reads⟩
    exact ⟨_, lockSession_ok.mpr ⟨row, feature, found, reads, rfl⟩⟩

/-! ## What a call does -/

/-- What a call of the transport does to the store, and what it answers. -/
inductive Database.Passed (env : Env) (database : Database) :
    (call : RepositoryCall ω) → Except RgsError call.Reply → Database → Prop
  | refused (call : RepositoryCall ω) (error : RgsError) :
      Passed env database call (.error error) database
  | quarantined (call : RepositoryCall ω) (error : RgsError) (key : SessionKey) (now : Time)
      (unread : ¬ database.Readable key) :
      Passed env database call (.error error) (database.quarantineCorruptSession key now)
  | created (session : Session) (valid : session.transport.Bounded)
      (absent : database.sessions.lookup session.key = none) :
      Passed env database (.createSession session) (.ok ())
        (database.putSession session.key (sessionRow session))
  | relaunched (key : SessionKey) (session : Session) :
      Passed env database (.authorizeSessionRelaunch key) (.ok session) database
  | reset (key : SessionKey) (idleDisconnect : Duration) (session : Session)
      (owner row : SessionRow) (feature : FeatureState)
      (found : database.sessions.lookup key = some owner) (reads : row.Reads key feature)
      (deadline : Time) (within : deadline ≤ owner.expiresAt)
      (next : row.transport = owner.transport.reset deadline)
      (generation : session.transportGeneration = owner.transport.generation + 1) :
      Passed env database (.resetSessionTransport key idleDisconnect) (.ok session)
        (database.putSession key row)
  | authorized (key : SessionKey) (transportGeneration : Nat) (allowIdleRecovery : Bool)
      (owner : SessionRow) (found : database.sessions.lookup key = some owner)
      (current : transportGeneration = owner.transport.generation) (session : Session) :
      Passed env database
        (.authorizeSessionTransport key transportGeneration allowIdleRecovery) (.ok session)
        database
  | acknowledged (receipt : ResultDeliveryAcknowledgement) (owner : SessionRow)
      (found : database.sessions.lookup ⟨receipt.operatorID, receipt.sessionID⟩ = some owner)
      (current : receipt.transportGeneration = owner.transport.generation)
      (reply : ResultDelivery × Bool) {after : Database}
      (same : after.sessions = database.sessions) :
      Passed env database (.acknowledgeResultDelivery receipt) (.ok reply) after
  | replayed (codec : Codec) (request : SpinRequest) (fingerprint : String)
      (walletProfile : Profile) (prepare : PrepareOutcome ω) (record : RoundRecord)
      (found : database.lockRound codec request.key = .ok record) :
      Passed env database (.prepareRound request fingerprint walletProfile prepare)
        (.ok (record, false)) database
  | prepared (request : SpinRequest) (fingerprint : String) (walletProfile : Profile)
      (prepare : PrepareOutcome ω) (record : RoundRecord) (owner row : SessionRow)
      (feature : FeatureState)
      (found : database.sessions.lookup request.key.session = some owner)
      (current : request.transportGeneration = owner.transport.generation)
      (awake : env.database 0 < owner.idleDisconnectAt)
      (reads : row.Reads request.key.session feature) (deadline : Time)
      (within : deadline ≤ owner.expiresAt)
      (renewed : row.transport = owner.transport.renew deadline) {after : Database}
      (wrote : ∀ key, after.sessions.lookup key =
        if key = request.key.session then some row else database.sessions.lookup key) :
      Passed env database (.prepareRound request fingerprint walletProfile prepare)
        (.ok (record, true)) after

section Calls

variable {env : Env} {world world' : ω}

/-- What a session refuses to read is not read by any call. -/
theorem not_readable {key : SessionKey} {error : RgsError}
    (unread : database.lockSession key = .error error) : ¬ database.Readable key := by
  rintro ⟨session, locked⟩
  rw [unread] at locked
  cases locked

/-- A round that is not admitted may leave its session in quarantine, no more. -/
theorem Database.Healthy.admitRound_error (healthy : database.Healthy codec)
    {request : SpinRequest} {fingerprint : String} {now podNow : Time} {error : RgsError}
    (stopped : database.admitRound codec request fingerprint now podNow =
      .error (.committed error after)) :
    ¬ database.Readable request.key.session ∧
      after = database.quarantineCorruptSession request.key.session podNow := by
  rcases bind_committed.mp stopped with locked | ⟨session, _, later⟩
  · unfold Database.lockSessionOrQuarantine at locked
    split at locked
    · cases locked
    case h_2 unread =>
      split at locked
      · cases locked
        exact ⟨not_readable unread, rfl⟩
      · cases locked
  · cases locked : database.lockRound codec request.key with
    | ok existing =>
        rw [locked] at later
        exact absurd later ((Atomic.bind (.abortWhen _ _) fun _ => .pure _) _ _)
    | error error =>
        rw [locked, (healthy.lockRound_error locked).1] at later
        refine absurd later (Atomic.bind (.abortWhen _ _) (fun _ => ?_) _ _)
        refine .bind (.abortWhen _ _) fun _ => .bind (.check _) fun _ => ?_
        exact .bind (.abortWhen _ _) fun _ => .pure _

/-- A fresh round is for the current generation, before its idle deadline. -/
theorem admitRound_current {request : SpinRequest} {fingerprint : String} {now podNow : Time}
    {session : Session}
    (admitted : database.admitRound codec request fingerprint now podNow = .ok (.fresh session)) :
    ∃ owner feature, database.sessions.lookup request.key.session = some owner ∧
      owner.Reads request.key.session feature ∧ session = owner.session request.key.session feature ∧
      request.transportGeneration = owner.transport.generation ∧ now < owner.idleDisconnectAt ∧
      now < owner.expiresAt := by
  obtain ⟨locked, _, _, binding, _⟩ := admitRound_fresh.mp admitted
  obtain ⟨owner, feature, found, reads, rfl⟩ := lockSession_ok.mp locked
  simp only [validateBinding, bind_ok, refuse_ok, exists_unit, not_or, not_not, not_le] at binding
  obtain ⟨_, _, _, _, ⟨_, alive⟩, ⟨current, awake⟩, _⟩ := binding
  exact ⟨owner, feature, found, reads, rfl, current.symm, awake, alive⟩

theorem Database.Healthy.prepareRound_passed (healthy : database.Healthy settings.codec)
    {request : SpinRequest} {fingerprint : String} {walletProfile : Profile}
    {prepare : PrepareOutcome ω} {reply : Except RgsError (RoundRecord × Bool)}
    (ran : database.prepareRound settings request fingerprint walletProfile prepare
      (env.database 0) (env.pod 0) world = (reply, after, world')) :
    Database.Passed env database (.prepareRound request fingerprint walletProfile prepare) reply
      after := by
  unfold Database.prepareRound at ran
  split at ran
  · cases ran
    exact .refused _ _
  · next valid =>
    split at ran
    · cases ran
      exact .refused _ _
    · next error left stopped =>
      cases ran
      obtain ⟨unread, rfl⟩ := healthy.admitRound_error stopped
      exact .quarantined _ _ _ _ unread
    · next record admitted =>
      cases ran
      exact .replayed settings.codec request fingerprint walletProfile prepare record
        (admitRound_replay.mp admitted).2.1
    · next session admitted =>
      rcases drawn : prepare session world with ⟨prepared, drawn'⟩
      rw [drawn] at ran
      dsimp only at ran
      split at ran
      · cases ran
        exact .refused _ _
      · next result =>
        have atomic : Atomic (database.persistRound settings.codec settings.riskCodec
            settings.riskPolicy session request fingerprint walletProfile result
            (env.database 0)) := by
          refine .bind (.check _) fun _ => .bind (.check _) fun _ => .bind (.check _) fun _ => ?_
          refine .bind ?_ fun _ => .pure _
          unfold Database.writePrepared
          refine .bind (.abortWhen _ _) fun _ => .bind (.abortWhen _ _) fun _ => ?_
          refine .bind (.require _ _) fun _ => .bind (.abortWhen _ _) fun _ => ?_
          split <;> exact .pure _
        have settled := Prod.mk.inj ran
        rcases settle_atomic atomic (Prod.ext settled.1 (Prod.mk.inj settled.2).1) with
          ⟨⟨record, new⟩, done, rfl⟩ | ⟨error, rfl, rfl⟩
        · obtain ⟨rfl, _, _, assessment, _, _, written, wrote⟩ := persistRound_ok.mp done
          obtain ⟨owner, feature, found, reads, same, current, awake, alive⟩ :=
            admitRound_current admitted
          have keyed : record.key = request.key := by rw [written]; rfl
          obtain ⟨_, _, _, _, there, owned, _, _, rfl⟩ := writePrepared_ok.mp wrote
          rw [keyed, found, Option.some.injEq] at owned
          subst owned
          have round : Text.identifierPattern request.roundID = true := by
            simp only [validatePrepareArguments, bind_ok, exists_unit, validateSpinRequest,
              validateIdentifiers, forM_ok, List.forall_mem_cons, refuse_ok,
              Bool.not_eq_false] at valid
            exact valid.1.1.2.2.1
          have waiting := reads.prepared (env.reading 0) alive round
          refine .prepared request fingerprint walletProfile prepare record owner
            (owner.prepared request.roundID (env.database 0)) feature found current awake waiting
            _ (min_le_left _ _) rfl fun key => ?_
          rw [(bundle_writes owner).sessions, keyed]
          rfl
        · exact .refused _ _

theorem Database.Healthy.execute_passed (healthy : database.Healthy settings.codec)
    {call : RepositoryCall ω} {reply : Except RgsError call.Reply}
    (transports : call.OfTransport (BuiltBy settings.codec))
    (ran : database.execute settings env call world = (reply, after, world')) :
    Database.Passed env database call reply after := by
  -- a transaction that writes nothing before it fails
  have settled {α : Type} {program : Except (Abort Database RgsError) (α × Database)}
      {reply : Except RgsError α}
      (ran : database.transact world program = (reply, after, world')) :
      settle database program = (reply, after) := by
    unfold Database.transact at ran
    cases ran
    rfl
  cases call with
  | createSession session =>
      have atomic : Atomic (database.createSession session) :=
        .bind (.check _) fun _ => .bind (.abortWhen _ _) fun _ =>
          .bind (.abortWhen _ _) fun _ => .pure _
      rcases settle_atomic atomic (settled ran) with ⟨_, done, rfl⟩ | ⟨error, rfl, rfl⟩
      · simp only [Database.createSession, bind_ok, check_ok, abortWhen_ok, exists_unit, pure_ok,
          Prod.mk.injEq, true_and, not_or, not_not] at done
        obtain ⟨valid, _, ⟨absent, _⟩, rfl⟩ := done
        exact .created session (validateSession_ok.mp valid).deadline.2 absent
      · exact .refused _ _
  | authorizeSessionRelaunch key =>
      obtain ⟨_, rest⟩ := Prod.mk.inj ran
      obtain ⟨rfl, _⟩ := Prod.mk.inj rest
      cases reply with
      | error error => exact .refused _ _
      | ok session => exact .relaunched key session
  | resetSessionTransport key idleDisconnect =>
      have atomic : Atomic (database.resetSessionTransport key idleDisconnect (env.database 0)) :=
        .bind (.check _) fun _ => .bind (.check _) fun _ => .bind (.check _) fun _ =>
          .bind (.abortWhen _ _) fun _ => .bind (.require _ _) fun _ =>
            .bind (.abortWhen _ _) fun _ => .pure _
      rcases settle_atomic atomic (settled ran) with ⟨session, done, rfl⟩ | ⟨error, rfl, rfl⟩
      · obtain ⟨idle, owner, feature, found, reads, authorized, generation, rfl, rfl⟩ :=
          resetSessionTransport_ok.mp done
        obtain ⟨_, _, _, _, positive⟩ := reads.bounds
        refine .reset key idleDisconnect _ owner _ feature found
          (reads.reset_within (env.reading 0) idle authorized generation) _
          (le_trans (stored_le _) (resetDeadline_le _ idleDisconnect (env.database 0))) ?_ rfl
        simp only [SessionRow.transport, SessionRow.reset, Transport.reset, Transport.mk.injEq,
          and_true]
        omega
      · exact .refused _ _
  | authorizeSessionTransport key transportGeneration allowIdleRecovery =>
      obtain ⟨answered, rest⟩ := Prod.mk.inj ran
      obtain ⟨rfl, _⟩ := Prod.mk.inj rest
      cases reply with
      | error error => exact .refused _ _
      | ok session =>
          obtain ⟨_, owner, feature, found, _, current, _⟩ :=
            authorizeSessionTransport_ok.mp answered
          exact .authorized key transportGeneration allowIdleRecovery owner found current.symm
            session
  | acknowledgeResultDelivery receipt =>
      have atomic : Atomic
          (database.acknowledgeResultDelivery settings.codec receipt (env.pod 0)) :=
        healthy.acknowledge_leaves receipt (env.pod 0)
      rcases settle_atomic atomic (settled ran) with ⟨⟨delivery, changed⟩, done, rfl⟩ | ⟨error, rfl, rfl⟩
      · obtain ⟨_, session, record, row, locked, current, _, _, _, _, _, _, _, written⟩ :=
          acknowledge_ok.mp done
        obtain ⟨owner, feature, found, _, rfl⟩ := lockSession_ok.mp locked
        refine .acknowledged receipt owner found current (delivery, changed) ?_
        split at written
        · rw [written.2.2]
        · rw [written.2.2]
          rfl
      · exact .refused _ _
  | prepareRound request fingerprint walletProfile prepare =>
      exact healthy.prepareRound_passed ran
  | _ => cases transports

end Calls

/-! ## The fences -/

theorem transport_putSession (database : Database) (target key : SessionKey) (row : SessionRow) :
    (database.putSession target row).transport key =
      if key = target then some row.transport else database.transport key := by
  simp only [Database.transport, Database.putSession, Table.lookup_insert]
  split <;> rfl

/-- A quarantine leaves every other session's row, and each transport. -/
theorem quarantineCorruptSession_lookup (database : Database) (target : SessionKey) (now : Time) :
    (∀ key, key ≠ target → (database.quarantineCorruptSession target now).sessions.lookup key =
        database.sessions.lookup key) ∧
      (database.quarantineCorruptSession target now).transport target =
        database.transport target := by
  unfold Database.quarantineCorruptSession
  split
  · exact ⟨fun _ _ => rfl, rfl⟩
  · next row found =>
    split
    · exact ⟨fun _ _ => rfl, rfl⟩
    · refine ⟨fun key apart => by simp [Database.putSession, apart], ?_⟩
      rw [transport_putSession, if_pos rfl, transport_found found]
      rfl

theorem lockSession_congr {key : SessionKey}
    (same : after.sessions.lookup key = database.sessions.lookup key) :
    after.lockSession key = database.lockSession key := by
  unfold Database.lockSession
  rw [same]

section Fences

variable {env : Env} {call : RepositoryCall ω} {reply : Except RgsError call.Reply}
  {world world' : ω}

theorem Database.Passed.carries (passed : Database.Passed env database call reply after)
    (key : SessionKey) :
    call.Carries env.database key (database.transport key) (after.transport key) := by
  cases passed with
  | refused | relaunched | authorized | replayed => exact .kept _
  | quarantined _ _ target now =>
      obtain ⟨others, same⟩ := quarantineCorruptSession_lookup database target now
      by_cases this : key = target
      · rw [this, same]
        exact .kept _
      · rw [Database.transport, Database.transport, others key this]
        exact .kept _
  | created session valid absent =>
      rw [transport_putSession]
      by_cases this : key = session.key
      · rw [if_pos this, this, Database.transport, absent, Option.map_none]
        exact .created session rfl rfl _ (stored_mono valid)
      · rw [if_neg this]
        exact .kept _
  | reset target idleDisconnect session owner row feature found reads deadline within next =>
      rw [transport_putSession]
      by_cases this : key = target
      · rw [if_pos this, this, transport_found found, next]
        exact .reset _ idleDisconnect rfl deadline within
      · rw [if_neg this]
        exact .kept _
  | acknowledged _ _ _ _ _ same =>
      rw [Database.transport, Database.transport, same]
      exact .kept _
  | prepared request fingerprint walletProfile prepare record owner row feature found current
      awake reads deadline within renewed wrote =>
      rw [Database.transport, Database.transport, wrote]
      by_cases this : key = request.key.session
      · rw [if_pos this, this, found, Option.map_some, Option.map_some, renewed]
        exact .renewed _ request fingerprint walletProfile prepare rfl rfl current ⟨0, awake⟩
          deadline within
      · rw [if_neg this]
        exact .kept _

theorem Database.Passed.bounded (passed : Database.Passed env database call reply after)
    (bounded : database.TransportsBounded) : after.TransportsBounded := by
  intro key row found
  have carried := passed.carries key
  rw [transport_found found] at carried
  generalize row.transport = written at carried ⊢
  cases was : database.sessions.lookup key with
  | none =>
      rw [Database.transport, was, Option.map_none] at carried
      cases carried with
      | created _ _ _ _ fits => exact fits
  | some old =>
      rw [transport_found was] at carried
      cases carried with
      | kept => exact bounded key old was
      | reset _ _ _ _ within => exact within
      | renewed _ _ _ _ _ _ _ _ _ _ within => exact within

theorem Database.Passed.reads (passed : Database.Passed env database call reply after)
    {key : SessionKey} (reads : database.Readable key) : after.Readable key := by
  have same (kept : after.sessions.lookup key = database.sessions.lookup key) :
      after.Readable key := by
    obtain ⟨session, locked⟩ := reads
    exact ⟨session, (lockSession_congr kept).trans locked⟩
  cases passed with
  | refused | relaunched | authorized | replayed => exact reads
  | quarantined _ _ target now unread =>
      refine same ((quarantineCorruptSession_lookup database target now).1 key ?_)
      rintro rfl
      exact unread reads
  | created session valid absent =>
      refine same ?_
      have apart : key ≠ session.key := by
        rintro rfl
        obtain ⟨row, _, found, _⟩ := readable_iff.mp reads
        rw [absent] at found
        cases found
      simp [Database.putSession, apart]
  | reset target _ _ _ row feature _ written =>
      by_cases this : key = target
      · subst this
        exact readable_iff.mpr ⟨row, feature, by simp [Database.putSession], written⟩
      · exact same (by simp [Database.putSession, this])
  | acknowledged _ _ _ _ _ kept => exact same (by rw [kept])
  | prepared request _ _ _ _ _ row feature _ _ _ written _ _ _ wrote =>
      by_cases this : key = request.key.session
      · subst this
        exact readable_iff.mpr ⟨row, feature, by rw [wrote, if_pos rfl], written⟩
      · exact same (by rw [wrote, if_neg this])

/-- A round that is not for the current generation is not prepared; its generator
is not consulted. -/
theorem Database.Healthy.prepareRound_stale (healthy : database.Healthy settings.codec)
    {request : SpinRequest} {fingerprint : String} {walletProfile : Profile}
    {prepare : PrepareOutcome ω} {reply : Except RgsError (RoundRecord × Bool)} {row : SessionRow}
    (reads : database.Readable request.key.session)
    (found : database.sessions.lookup request.key.session = some row)
    (stale : request.transportGeneration ≠ row.transport.generation)
    (ran : database.prepareRound settings request fingerprint walletProfile prepare
      (env.database 0) (env.pod 0) world = (reply, after, world')) :
    after = database ∧ world' = world ∧
      (RepositoryCall.prepareRound request fingerprint walletProfile prepare).FencedOff
        (database.round settings.codec) reply := by
  unfold Database.prepareRound at ran
  split at ran
  · cases ran
    exact ⟨rfl, rfl, trivial⟩
  · split at ran
    · cases ran
      exact ⟨rfl, rfl, trivial⟩
    · next error left stopped => exact absurd reads (healthy.admitRound_error stopped).1
    · next record admitted =>
      cases ran
      refine ⟨rfl, rfl, rfl, ?_⟩
      rw [Database.round, (admitRound_replay.mp admitted).2.1]
      rfl
    · next session admitted =>
      obtain ⟨owner, _, owned, _, _, current, _⟩ := admitRound_current admitted
      rw [found, Option.some.injEq] at owned
      exact absurd (owned ▸ current) stale

theorem Database.Healthy.execute_stale (healthy : database.Healthy settings.codec)
    {key : SessionKey} {generation : Nat} {row : SessionRow} (reads : database.Readable key)
    (found : database.sessions.lookup key = some row)
    (presented : call.presented = some (key, generation))
    (stale : generation ≠ row.transport.generation)
    (ran : database.execute settings env call world = (reply, after, world')) :
    after = database ∧ world' = world ∧ call.FencedOff (database.round settings.codec) reply := by
  cases call with
  | prepareRound request fingerprint walletProfile prepare =>
      obtain ⟨rfl, rfl⟩ := Prod.mk.inj (Option.some.inj presented)
      exact healthy.prepareRound_stale reads found stale ran
  | authorizeSessionTransport target transportGeneration allowIdleRecovery =>
      obtain ⟨rfl, rfl⟩ := Prod.mk.inj (Option.some.inj presented)
      obtain ⟨answered, rest⟩ := Prod.mk.inj ran
      obtain ⟨rfl, rfl⟩ := Prod.mk.inj rest
      refine ⟨rfl, rfl, ?_⟩
      cases reply with
      | error error => trivial
      | ok session =>
          obtain ⟨_, owner, _, owned, _, current, _⟩ := authorizeSessionTransport_ok.mp answered
          rw [found, Option.some.injEq] at owned
          subst owned
          exact absurd current.symm stale
  | acknowledgeResultDelivery receipt =>
      obtain ⟨rfl, rfl⟩ := Prod.mk.inj (Option.some.inj presented)
      have kept : world' = world := by
        unfold Database.execute Database.transact at ran
        cases ran
        rfl
      obtain ⟨answered, rest⟩ := Prod.mk.inj ran
      rcases settle_atomic (healthy.acknowledge_leaves receipt (env.pod 0))
        (Prod.ext answered (Prod.mk.inj rest).1) with ⟨⟨delivery, changed⟩, done, _⟩ | ⟨_, rfl, same⟩
      · obtain ⟨_, session, _, _, locked, current, _⟩ := acknowledge_ok.mp done
        obtain ⟨owner, _, owned, _, rfl⟩ := lockSession_ok.mp locked
        rw [found, Option.some.injEq] at owned
        subst owned
        exact absurd current stale
      · exact ⟨same, kept, trivial⟩
  | _ => cases presented

/-- A round that is there is replayed whatever the session's transport is. -/
theorem Database.Healthy.prepareRound_replays (healthy : database.Healthy settings.codec)
    {request : SpinRequest} {fingerprint : String} {walletProfile : Profile}
    {prepare : PrepareOutcome ω} {record : RoundRecord} {now podNow : Time}
    (valid : validatePrepareArguments settings.codec request fingerprint walletProfile = .ok ())
    (found : database.round settings.codec request.key = some record)
    (same : record.fingerprint = fingerprint) :
    database.prepareRound settings request fingerprint walletProfile prepare now podNow world =
      (.ok (record, false), database, world) := by
  have locked : database.lockRound settings.codec request.key = .ok record := by
    unfold Database.round at found
    cases locked : database.lockRound settings.codec request.key with
    | ok read =>
        rw [locked] at found
        exact congrArg Except.ok (Option.some.inj found)
    | error error =>
        rw [locked] at found
        cases found
  have admitted : database.admitRound settings.codec request fingerprint now podNow =
      .ok (.replay record) := by
    obtain ⟨row, owner, entry, profile, feature, result, holds, _⟩ := healthy.lockRound_ok.mp locked
    exact admitRound_replay.mpr ⟨holds.lockSession, locked, same⟩
  unfold Database.prepareRound
  rw [valid]
  simp only [admitted]

/-- The delivery a row shows is the one its record is acknowledged with. -/
theorem Database.Healthy.acknowledge_accepted (healthy : database.Healthy settings.codec)
    {receipt : ResultDeliveryAcknowledgement} (now : Time)
    (receives : (postgresTransports settings :
      TransportView (postgresRepository settings : Repository ω)).Receives database receipt) :
    ∃ reply left,
      database.acknowledgeResultDelivery settings.codec receipt now = .ok (reply, left) := by
  obtain ⟨valid, delivered, transport, shown, current⟩ := receives
  obtain ⟨row, found, committed⟩ := Option.bind_eq_some_iff.mp delivered
  unfold RoundRow.delivery at committed
  split at committed
  case isFalse => cases committed
  case isTrue final =>
    obtain ⟨ended, required⟩ := final
    obtain ⟨sequence, hash⟩ := Prod.mk.inj (Option.some.inj committed)
    obtain ⟨owner, entry, profile, feature, result, holds⟩ := healthy.rounds _ row found
    obtain ⟨hashed, numbered⟩ := holds.delivery ended
    have locked := holds.lockRound
    obtain ⟨input, reads⟩ := holds.owns.reads
    have session := lockSession_ok.mpr ⟨owner, input, holds.owned, reads, rfl⟩
    have generation : receipt.transportGeneration = owner.transportGeneration.toNat := by
      have owned : database.sessions.lookup ⟨receipt.operatorID, receipt.sessionID⟩ =
        some owner := holds.owned
      change database.transport _ = _ at shown
      rw [transport_found owned, Option.some.injEq] at shown
      rw [← current, ← shown]
      rfl
    have counted : result.sequence = receipt.sequence := by omega
    cases acknowledged : row.resultAcknowledgedAt with
    | none =>
        exact ⟨_, _, acknowledge_ok.mpr ⟨valid, _, _, row, session, generation, locked, ended,
          found, hashed, required, counted, hash, by rw [acknowledged]; exact ⟨rfl, rfl, rfl⟩⟩⟩
    | some at_ =>
        exact ⟨_, _, acknowledge_ok.mpr ⟨valid, _, _, row, session, generation, locked, ended,
          found, hashed, required, counted, hash, by rw [acknowledged]; exact ⟨rfl, rfl, rfl⟩⟩⟩

end Fences

/-- A call that is answered was not failed by the connection. -/
theorem run_answered {env : Env} {call : RepositoryCall ω} {world world' : ω} {reply : call.Reply}
    (ran : (postgresRepository settings).run env call database world = (.ok reply, after, world')) :
    database.execute settings env call world = (.ok reply, after, world') := by
  change env.deliver (database, world) (database.execute settings env call world) = _ at ran
  unfold Env.deliver at ran
  split at ran
  · exact ran
  all_goals cases ran

theorem run_connected {env : Env} (connected : env.fault = none) (call : RepositoryCall ω)
    (world : ω) :
    (postgresRepository settings).run env call database world =
      database.execute settings env call world := by
  change env.deliver _ _ = _
  unfold Env.deliver
  rw [connected]

/-- Whatever the connection does to a call that is fenced off, it stays fenced off. -/
theorem run_stale {env : Env} {call : RepositoryCall ω} {world world' : ω}
    {reply : Except RgsError call.Reply} {round : RoundKey → Option RoundRecord}
    (stale : ∀ answer left drawn, database.execute settings env call world = (answer, left, drawn) →
      left = database ∧ drawn = world ∧ call.FencedOff round answer)
    (ran : (postgresRepository settings).run env call database world = (reply, after, world')) :
    after = database ∧ world' = world ∧ call.FencedOff round reply := by
  change env.deliver (database, world) (database.execute settings env call world) = _ at ran
  rcases executed : database.execute settings env call world with ⟨answer, left, drawn⟩
  obtain ⟨rfl, rfl, fenced⟩ := stale answer left drawn executed
  rw [executed] at ran
  unfold Env.deliver at ran
  have failed (error : RgsError) : call.FencedOff round (.error error) := by
    cases call <;> trivial
  cases fault : env.fault with
  | none =>
      rw [fault] at ran
      cases ran
      exact ⟨rfl, rfl, fenced⟩
  | some fault' =>
      rw [fault] at ran
      cases fault' <;> cases ran <;> exact ⟨rfl, rfl, failed _⟩

theorem postgres_fences (settings : Settings) :
    (postgresRepository settings : Repository ω).Fences (postgresTransports settings) where
  bounded {database key transport} valid found := by
    obtain ⟨row, there, rfl⟩ := Option.map_eq_some_iff.mp found
    exact valid.2 key row there
  valid {database after} valid step := by
    obtain ⟨env, call, world, world', reply, transports, ran⟩ := step
    rcases run_step ran with rfl | ⟨answer, drawn, executed⟩
    · exact valid
    · have coordinated : Coordinated settings env database call := by
        cases call <;> first | exact transports | trivial
      exact ⟨(valid.1.execute coordinated executed).follows.healthy,
        (valid.1.execute_passed transports executed).bounded valid.2⟩
  reads {database after key} valid step reads := by
    obtain ⟨env, call, world, world', reply, transports, ran⟩ := step
    rcases run_step ran with rfl | ⟨answer, drawn, executed⟩
    · exact reads
    · exact (valid.1.execute_passed transports executed).reads reads
  carries {env call database world reply after world'} transports valid ran key := by
    rcases run_step ran with rfl | ⟨answer, drawn, executed⟩
    · exact .kept _
    · exact (valid.1.execute_passed transports executed).carries key
  resets {env key idleDisconnect database world session after world'} valid ran := by
    have transports : (RepositoryCall.resetSessionTransport key idleDisconnect :
        RepositoryCall ω).OfTransport (BuiltBy settings.codec) := trivial
    cases valid.1.execute_passed transports (run_answered ran) with
    | reset _ _ _ owner row feature found reads deadline within next generation =>
        refine ⟨readable_iff.mpr ⟨row, feature, by simp [Database.putSession], reads⟩,
          owner.transport, deadline, transport_found found, ?_, generation⟩
        refine (transport_putSession database key key row).trans ?_
        rw [if_pos rfl, next]
  creates {env request fingerprint walletProfile prepare database world record after world'} built
      valid ran := by
    have transports : (RepositoryCall.prepareRound request fingerprint walletProfile prepare :
        RepositoryCall ω).OfTransport (BuiltBy settings.codec) := built
    cases valid.1.execute_passed transports (run_answered ran) with
    | prepared _ _ _ _ _ owner _ _ found current awake =>
        exact ⟨owner.transport, transport_found found, current, 0, awake⟩
  stale {env call database world reply after world' key generation transport} _ valid reads found
      presented stale ran := by
    obtain ⟨row, there, rfl⟩ := Option.map_eq_some_iff.mp found
    exact run_stale (fun answer left drawn executed =>
      valid.1.execute_stale reads there presented stale executed) ran
  replays {env request fingerprint walletProfile prepare database world record} connected valid
      arguments found same :=
    (run_connected connected _ world).trans
      (valid.1.prepareRound_replays arguments found same)
  acknowledges {env receipt database world} connected valid receives := by
    obtain ⟨answer, left, done⟩ := valid.1.acknowledge_accepted (env.pod 0) receives
    refine ⟨answer, left, world, (run_connected connected _ world).trans ?_⟩
    have transacted : database.execute settings env (.acknowledgeResultDelivery receipt) world =
      database.transact world
        (database.acknowledgeResultDelivery settings.codec receipt (env.pod 0)) := rfl
    rw [transacted, done]
    rfl

end SlotsGame.Postgres
