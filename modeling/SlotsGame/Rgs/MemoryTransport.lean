/-
# SlotsGame.Rgs.MemoryTransport -- the reference store fences transports

`Passed` says once what a call of the transport does to the reference store; each
field of `Repository.Fences` is read off it.
-/
import SlotsGame.Rgs.MemoryContract
import SlotsGame.Rgs.Outcome
import SlotsGame.Rgs.Transport

namespace SlotsGame.Rgs

open SlotsGame.Theory

set_option autoImplicit false

variable {ω : Type} {codec : Codec}

/-! ## What the store shows -/

namespace MemoryRepository

/-- The entries are the ones they were. -/
def Same (before after : MemoryRepository) : Prop :=
  ∀ key, after.sessions.lookup key = before.sessions.lookup key

def transport (repository : MemoryRepository) (key : SessionKey) : Option Transport :=
  (repository.sessions.lookup key).map fun entry => entry.session.transport

def round (repository : MemoryRepository) (key : RoundKey) : Option RoundRecord :=
  (repository.sessions.lookup key.session).bind fun entry => entry.rounds.lookup key.roundID

def delivery (repository : MemoryRepository) (key : RoundKey) : Option (Nat × String) :=
  (repository.sessions.lookup key.session).bind fun entry =>
    (entry.deliveries.lookup key.roundID).map fun delivery =>
      (delivery.sequence, delivery.resultHash)

def TransportsBounded (repository : MemoryRepository) : Prop :=
  ∀ key entry, repository.sessions.lookup key = some entry → entry.session.transport.Bounded

theorem TransportsBounded.new : newMemoryRepository.TransportsBounded := by
  intro key entry found
  simp [newMemoryRepository] at found

end MemoryRepository

/-- The transports of the reference store. -/
def memoryTransports (codec : Codec) : TransportView (memoryRepository codec : Repository ω) where
  clock := id
  Connected _ := True
  built := BuiltBy codec
  validArguments := validatePrepareArguments codec
  Valid := MemoryRepository.TransportsBounded
  Reads repository key := repository.sessions.lookup key ≠ none
  transport := MemoryRepository.transport
  round := MemoryRepository.round
  delivery := MemoryRepository.delivery
  Same := MemoryRepository.Same

/-! ## The entry of a session -/

namespace MemorySession

variable {entry after : MemorySession}

theorem resetTransport_ok {idleDisconnect : Duration} {now : Time} {session : Session} :
    entry.resetTransport idleDisconnect now = .ok (session, after) ↔
      authorizeSessionLifetime entry.session now = .ok () ∧
      entry.session.transportGeneration < maxStateRevision ∧
      session =
        { entry.session with
          transportGeneration := entry.session.transportGeneration + 1
          idleDisconnect := idleDisconnect
          idleDisconnectAt :=
            if now + idleDisconnect > entry.session.expiresAt then entry.session.expiresAt
            else now + idleDisconnect
          serverTime := now } ∧
      after = { entry with session := session } := by
  simp only [resetTransport, bind_ok, check_ok, abortWhen_ok, exists_unit, pure_ok,
    Prod.mk.injEq, ge_iff_le, not_le]
  constructor
  · rintro ⟨lifetime, generation, rfl, rfl⟩
    exact ⟨lifetime, generation, rfl, rfl⟩
  · rintro ⟨lifetime, generation, rfl, rfl⟩
    exact ⟨lifetime, generation, rfl, rfl⟩

theorem resetTransport_transport {idleDisconnect : Duration} {now : Time} {session : Session}
    (ran : entry.resetTransport idleDisconnect now = .ok (session, after)) :
    after = { entry with session := session } ∧
      ∃ deadline, deadline ≤ entry.session.expiresAt ∧
        session.transport = entry.session.transport.reset deadline := by
  obtain ⟨_, _, rfl, rfl⟩ := resetTransport_ok.mp ran
  refine ⟨rfl, _, ?_, rfl⟩
  split
  · exact le_refl _
  · next later => exact not_lt.mp later

theorem authorizeTransport_ok {transportGeneration : Nat} {allowIdleRecovery : Bool} {now : Time}
    {session : Session} :
    entry.authorizeTransport transportGeneration allowIdleRecovery now = .ok (session, after) ↔
      transportGeneration ≠ 0 ∧ transportGeneration = entry.session.transportGeneration ∧
      authorizeSessionLifetime entry.session now = .ok () ∧
      (allowIdleRecovery = false → now < entry.session.idleDisconnectAt) ∧
      session = { entry.session with serverTime := now } ∧
      after = { entry with session := session } := by
  simp only [authorizeTransport, bind_ok, check_ok, abortWhen_ok, exists_unit, pure_ok,
    Prod.mk.injEq, not_or, not_not, not_and, not_le]
  constructor
  · rintro ⟨⟨positive, current⟩, lifetime, awake, rfl, rfl⟩
    exact ⟨positive, current, lifetime, awake, rfl, rfl⟩
  · rintro ⟨positive, current, lifetime, awake, rfl, rfl⟩
    exact ⟨⟨positive, current⟩, lifetime, awake, rfl, rfl⟩

theorem acknowledge_ok {receipt : ResultDeliveryAcknowledgement} {now : Time}
    {reply : ResultDelivery × Bool} :
    entry.acknowledgeResultDelivery receipt now = .ok (reply, after) ↔
      receipt.transportGeneration = entry.session.transportGeneration ∧
      ∃ delivery, entry.deliveries.lookup receipt.roundID = some delivery ∧
        delivery.sequence = receipt.sequence ∧ delivery.resultHash = receipt.resultHash ∧
        if delivery.acknowledgedAt ≠ 0 then reply = (delivery, false) ∧ after = entry
        else
          reply = ({ delivery with acknowledgedAt := now }, true) ∧
            after =
              { entry with
                deliveries := entry.deliveries.insert receipt.roundID
                  { delivery with acknowledgedAt := now } } := by
  simp only [acknowledgeResultDelivery, bind_ok, require_ok, abortWhen_ok, exists_unit, not_or,
    not_not]
  constructor
  · rintro ⟨current, delivery, found, ⟨sequence, hash⟩, written⟩
    refine ⟨current, delivery, found, sequence, hash, ?_⟩
    split at written
    · next acknowledged =>
      rw [if_pos acknowledged]
      obtain ⟨rfl, rfl⟩ := Prod.mk.inj (pure_ok.mp written)
      exact ⟨rfl, rfl⟩
    · next open_ =>
      rw [if_neg open_]
      obtain ⟨rfl, rfl⟩ := Prod.mk.inj (pure_ok.mp written)
      exact ⟨rfl, rfl⟩
  · rintro ⟨current, delivery, found, sequence, hash, written⟩
    refine ⟨current, delivery, found, ⟨sequence, hash⟩, ?_⟩
    split at written
    · next acknowledged =>
      obtain ⟨rfl, rfl⟩ := written
      rw [if_pos acknowledged]
      rfl
    · next open_ =>
      obtain ⟨rfl, rfl⟩ := written
      rw [if_neg open_]
      rfl

theorem acknowledge_session {receipt : ResultDeliveryAcknowledgement} {now : Time}
    {reply : ResultDelivery × Bool}
    (ran : entry.acknowledgeResultDelivery receipt now = .ok (reply, after)) :
    after.session = entry.session := by
  obtain ⟨_, delivery, _, _, _, written⟩ := acknowledge_ok.mp ran
  split at written
  · rw [written.2]
  · rw [written.2]

theorem persistRound_transport {request : SpinRequest} {fingerprint : String}
    {walletProfile : Profile} {prepared : SpinResult} {now : Time} {reply : RoundRecord × Bool}
    (ran : entry.persistRound codec request fingerprint walletProfile prepared now =
      .ok (reply, after)) :
    reply.2 = true ∧ after.session.transport =
      entry.session.transport.renew (entry.session.renewedIdleDisconnectAt now) := by
  simp only [persistRound, bind_ok, check_ok, exists_unit, pure_ok, Prod.mk.injEq] at ran
  obtain ⟨_, _, _, rfl, rfl⟩ := ran
  exact ⟨rfl, rfl⟩

theorem renewedIdleDisconnectAt_le (session : Session) (now : Time) :
    session.renewedIdleDisconnectAt now ≤ session.expiresAt := by
  unfold Session.renewedIdleDisconnectAt
  split
  · exact le_refl _
  · next later => exact not_lt.mp later

theorem admitRound_fresh_iff {request : SpinRequest} {fingerprint : String}
    {bindingNow idleNow : Time} :
    entry.admitRound request fingerprint bindingNow idleNow = .ok .fresh ↔
      entry.rounds.lookup request.roundID = none ∧ ¬ entry.DeliveryPending ∧
      entry.session.pendingRoundID = "" ∧
      validateSessionBinding entry.session request bindingNow = .ok () ∧
      (request.transportGeneration = entry.session.transportGeneration ∧
        idleNow < entry.session.idleDisconnectAt) ∧
      entry.session.sequence < maxClientSequence := by
  unfold admitRound
  cases found : entry.rounds.lookup request.roundID with
  | some existing =>
      simp only [bind_ok, refuse_ok, exists_unit, pure_ok, reduceCtorEq, and_false, false_and]
  | none =>
      simp only [bind_ok, refuse_ok, exists_unit, pure_ok, not_or, not_not, not_le, and_true,
        true_and, ge_iff_le]

end MemorySession

/-! ## What a call does -/

namespace MemoryRepository

variable {repository after : MemoryRepository} {clock : Clock}

/-- What a call of the transport does to the store, and what it answers. -/
inductive Passed (clock : Clock) (repository : MemoryRepository) :
    (call : RepositoryCall ω) → Except RgsError call.Reply → MemoryRepository → Prop
  | refused (call : RepositoryCall ω) (error : RgsError) {after : MemoryRepository}
      (same : repository.Same after) : Passed clock repository call (.error error) after
  | created (session : Session) (valid : session.transport.Bounded)
      (absent : repository.sessions.lookup session.key = none) :
      Passed clock repository (.createSession session) (.ok ())
        { sessions := repository.sessions.insert session.key (.create session) }
  | relaunched (key : SessionKey) (session : Session) :
      Passed clock repository (.authorizeSessionRelaunch key) (.ok session) repository
  | reset (key : SessionKey) (idleDisconnect : Duration) (entry : MemorySession)
      (found : repository.sessions.lookup key = some entry) (session : Session) (deadline : Time)
      (within : deadline ≤ entry.session.expiresAt)
      (next : session.transport = entry.session.transport.reset deadline) :
      Passed clock repository (.resetSessionTransport key idleDisconnect) (.ok session)
        { sessions := repository.sessions.insert key { entry with session := session } }
  | authorized (key : SessionKey) (transportGeneration : Nat) (allowIdleRecovery : Bool)
      (entry : MemorySession) (found : repository.sessions.lookup key = some entry)
      (current : transportGeneration = entry.session.transportGeneration) (session : Session)
      (same : session.transport = entry.session.transport) :
      Passed clock repository
        (.authorizeSessionTransport key transportGeneration allowIdleRecovery) (.ok session)
        { sessions := repository.sessions.insert key { entry with session := session } }
  | acknowledged (receipt : ResultDeliveryAcknowledgement) (entry entry' : MemorySession)
      (found : repository.sessions.lookup ⟨receipt.operatorID, receipt.sessionID⟩ = some entry)
      (current : receipt.transportGeneration = entry.session.transportGeneration)
      (same : entry'.session = entry.session) (reply : ResultDelivery × Bool) :
      Passed clock repository (.acknowledgeResultDelivery receipt) (.ok reply)
        { sessions :=
            repository.sessions.insert ⟨receipt.operatorID, receipt.sessionID⟩ entry' }
  | replayed (request : SpinRequest) (fingerprint : String) (walletProfile : Profile)
      (prepare : PrepareOutcome ω) (record : RoundRecord)
      (found : repository.round request.key = some record) :
      Passed clock repository (.prepareRound request fingerprint walletProfile prepare)
        (.ok (record, false)) repository
  | prepared (request : SpinRequest) (fingerprint : String) (walletProfile : Profile)
      (prepare : PrepareOutcome ω) (record : RoundRecord) (entry entry' : MemorySession)
      (found : repository.sessions.lookup request.key.session = some entry)
      (current : request.transportGeneration = entry.session.transportGeneration)
      (awake : clock 1 < entry.session.idleDisconnectAt) (deadline : Time)
      (within : deadline ≤ entry.session.expiresAt)
      (renewed : entry'.session.transport = entry.session.transport.renew deadline) :
      Passed clock repository (.prepareRound request fingerprint walletProfile prepare)
        (.ok (record, true))
        { sessions := repository.sessions.insert request.key.session entry' }

theorem Same.refl (repository : MemoryRepository) : repository.Same repository :=
  fun _ => rfl

/-- An entry that is written back unchanged. -/
theorem Same.rewrite {key : SessionKey} {entry : MemorySession}
    (found : repository.sessions.lookup key = some entry) :
    repository.Same { sessions := repository.sessions.insert key entry } := by
  intro other
  simp only [Table.lookup_insert]
  split
  · next same => rw [same, found]
  · rfl

/-- A call on one entry that writes nothing before it fails. -/
theorem onSession_atomic {α : Type} {target : SessionKey}
    {program : MemorySession → Except (Abort MemorySession RgsError) (α × MemorySession)}
    (atomic : ∀ entry, Atomic (program entry)) {reply : Except RgsError α}
    (ran : repository.onSession target program = (reply, after)) :
    (∃ error, reply = .error error ∧ repository.Same after) ∨
      ∃ entry entry' a, repository.sessions.lookup target = some entry ∧
        program entry = .ok (a, entry') ∧ reply = .ok a ∧
        after = { sessions := repository.sessions.insert target entry' } := by
  rcases onSession_cases ran with ⟨_, rfl, rfl⟩ | ⟨entry, entry', found, settled, rfl⟩
  · exact .inl ⟨_, rfl, .refl _⟩
  · rcases settle_atomic (atomic entry) settled with ⟨a, done, rfl⟩ | ⟨error, rfl, rfl⟩
    · exact .inr ⟨entry, entry', a, found, done, rfl, rfl⟩
    · exact .inl ⟨error, rfl, .rewrite found⟩

theorem prepareRound_passed {request : SpinRequest} {fingerprint : String}
    {walletProfile : Profile} {prepare : PrepareOutcome ω} {world world' : ω}
    {reply : Except RgsError (RoundRecord × Bool)}
    (ran : repository.prepareRound codec request fingerprint walletProfile prepare clock world =
      (reply, after, world')) :
    Passed clock repository (.prepareRound request fingerprint walletProfile prepare) reply
      after := by
  simp only [prepareRound] at ran
  split at ran
  · cases ran
    exact .refused _ _ (.refl _)
  · cases ran
    exact .refused _ _ (.refl _)
  case _ entry _ there =>
    split at ran
    · cases ran
      exact .refused _ _ (.refl _)
    case _ record admitted =>
      cases ran
      refine .replayed request fingerprint walletProfile prepare record ?_
      rw [round, there]
      exact (MemorySession.admitRound_replay admitted).1
    case _ admitted =>
      split at ran
      · cases ran
        exact .refused _ _ (.refl _)
      case _ result _ =>
        cases ran
        have atomic : ∀ other : MemorySession, Atomic
            (other.persistRound codec request fingerprint walletProfile result (clock 2)) :=
          fun other => .bind (.check _) fun _ => .bind (.check _) fun _ => .pure _
        rcases written : repository.onSession request.key.session (fun entry =>
          entry.persistRound codec request fingerprint walletProfile result (clock 2)) with
          ⟨answer, left⟩
        rcases onSession_atomic atomic written with
          ⟨error, rfl, same⟩ | ⟨other, entry', ⟨record, new⟩, found, done, rfl, rfl⟩
        · exact .refused _ _ same
        · obtain rfl : other = entry := Option.some.inj (found.symm.trans there)
          obtain ⟨_, _, _, _, ⟨current, awake⟩, _⟩ :=
            MemorySession.admitRound_fresh_iff.mp admitted
          obtain ⟨rfl, renewed⟩ := MemorySession.persistRound_transport done
          exact .prepared request fingerprint walletProfile prepare record other entry' there
            current awake _ (MemorySession.renewedIdleDisconnectAt_le _ _) renewed

theorem run_passed {call : RepositoryCall ω} {reply : Except RgsError call.Reply}
    {world world' : ω} (transports : call.OfTransport (BuiltBy codec))
    (ran : MemoryRepository.run codec clock call repository world = (reply, after, world')) :
    Passed clock repository call reply after := by
  cases call with
  | createSession session =>
      have atomic : Atomic (repository.createSession session) :=
        .bind (.check _) fun _ => .bind (.abortWhen _ _) fun _ =>
          .bind (.abortWhen _ _) fun _ => .pure _
      rcases settle_atomic atomic (run_pair ran) with ⟨_, done, rfl⟩ | ⟨error, rfl, rfl⟩
      · simp only [createSession, bind_ok, check_ok, abortWhen_ok, exists_unit, not_not, pure_ok,
          Prod.mk.injEq, true_and, ne_eq] at done
        obtain ⟨valid, _, absent, rfl⟩ := done
        simp only [validateSession, bind_ok, refuse_ok, exists_unit, not_or, not_lt] at valid
        obtain ⟨_, _, _, _, _, _, _, ⟨_, _, _, bounded, _⟩, _⟩ := valid
        exact .created session bounded absent
      · exact .refused _ _ (.refl _)
  | authorizeSessionRelaunch target =>
      have read := run_pair ran
      split at read
      · cases read
        exact .refused _ _ (.refl _)
      · obtain ⟨_, rfl⟩ := Prod.mk.inj read
        cases reply with
        | error error => exact .refused _ _ (.refl _)
        | ok session => exact .relaunched target session
  | resetSessionTransport target idleDisconnect =>
      rcases afterCheck_cases (run_pair ran) with ⟨error, rfl, rfl⟩ | ⟨_, ran⟩
      · exact .refused _ _ (.refl _)
      · have atomic : ∀ entry : MemorySession,
            Atomic (entry.resetTransport idleDisconnect (clock 0)) :=
          fun entry => .bind (.check _) fun _ => .bind (.abortWhen _ _) fun _ => .pure _
        rcases onSession_atomic atomic ran with
          ⟨error, rfl, same⟩ | ⟨entry, entry', session, found, done, rfl, rfl⟩
        · exact .refused _ _ same
        · obtain ⟨rfl, deadline, within, next⟩ := MemorySession.resetTransport_transport done
          exact .reset target idleDisconnect entry found session deadline within next
  | authorizeSessionTransport target transportGeneration allowIdleRecovery =>
      have atomic : ∀ entry : MemorySession, Atomic
          (entry.authorizeTransport transportGeneration allowIdleRecovery (clock 0)) :=
        fun entry => .bind (.abortWhen _ _) fun _ => .bind (.check _) fun _ =>
          .bind (.abortWhen _ _) fun _ => .pure _
      rcases onSession_atomic atomic (run_pair ran) with
        ⟨error, rfl, same⟩ | ⟨entry, entry', session, found, done, rfl, rfl⟩
      · exact .refused _ _ same
      · obtain ⟨_, current, _, _, rfl, rfl⟩ := MemorySession.authorizeTransport_ok.mp done
        exact .authorized target transportGeneration allowIdleRecovery entry found current _ rfl
  | acknowledgeResultDelivery receipt =>
      rcases afterCheck_cases (run_pair ran) with ⟨error, rfl, rfl⟩ | ⟨_, ran⟩
      · exact .refused _ _ (.refl _)
      · have atomic : ∀ entry : MemorySession,
            Atomic (entry.acknowledgeResultDelivery receipt (clock 0)) := by
          intro entry
          refine .bind (.abortWhen _ _) fun _ => .bind (.require _ _) fun _ =>
            .bind (.abortWhen _ _) fun _ => ?_
          split <;> exact .pure _
        rcases onSession_atomic atomic ran with
          ⟨error, rfl, same⟩ | ⟨entry, entry', answer, found, done, rfl, rfl⟩
        · exact .refused _ _ same
        · exact .acknowledged receipt entry entry' found
            (MemorySession.acknowledge_ok.mp done).1 (MemorySession.acknowledge_session done) answer
  | prepareRound request fingerprint walletProfile prepare => exact prepareRound_passed ran
  | _ => cases transports

/-! ## The fences -/

theorem transport_insert (repository : MemoryRepository) (target key : SessionKey)
    (entry : MemorySession) :
    ({ sessions := repository.sessions.insert target entry } : MemoryRepository).transport key =
      if key = target then some entry.session.transport else repository.transport key := by
  simp only [transport, Table.lookup_insert]
  split <;> rfl

theorem transport_found {key : SessionKey} {entry : MemorySession}
    (found : repository.sessions.lookup key = some entry) :
    repository.transport key = some entry.session.transport := by
  rw [transport, found, Option.map_some]

theorem Same.transport (same : repository.Same after) (key : SessionKey) :
    after.transport key = repository.transport key := by
  rw [MemoryRepository.transport, MemoryRepository.transport, same key]

variable {call : RepositoryCall ω} {reply : Except RgsError call.Reply}

theorem Passed.carries (passed : Passed clock repository call reply after) (key : SessionKey) :
    call.Carries clock key (repository.transport key) (after.transport key) := by
  -- the session that was written, and every other
  have wrote {target : SessionKey} {entry : MemorySession} {before : Option Transport}
      (there : repository.transport target = before)
      (carried : call.Carries clock target before (some entry.session.transport)) :
      call.Carries clock key (repository.transport key)
        (({ sessions := repository.sessions.insert target entry } : MemoryRepository).transport
          key) := by
    rw [transport_insert]
    by_cases same : key = target
    · rw [if_pos same, same, there]
      exact carried
    · rw [if_neg same]
      exact .kept _
  cases passed with
  | refused _ _ same =>
      rw [same.transport]
      exact .kept _
  | created session valid absent =>
      refine wrote (by rw [transport, absent, Option.map_none]) ?_
      exact .created session rfl rfl session.transport valid
  | relaunched => exact .kept _
  | reset target idleDisconnect entry found session deadline within next =>
      refine wrote (transport_found found) ?_
      rw [next]
      exact .reset _ idleDisconnect rfl deadline within
  | authorized target _ _ entry found _ session same =>
      refine wrote (transport_found found) ?_
      rw [same]
      exact .kept _
  | acknowledged receipt entry entry' found _ same =>
      refine wrote (transport_found found) ?_
      rw [same]
      exact .kept _
  | replayed => exact .kept _
  | prepared request fingerprint walletProfile prepare record entry entry' found current awake
      deadline within renewed =>
      refine wrote (transport_found found) ?_
      rw [renewed]
      exact .renewed _ request fingerprint walletProfile prepare rfl rfl current ⟨1, awake⟩
        deadline within

theorem Passed.bounded (passed : Passed clock repository call reply after)
    (bounded : repository.TransportsBounded) : after.TransportsBounded := by
  intro key entry found
  have carried := passed.carries key
  rw [transport_found found] at carried
  generalize entry.session.transport = written at carried ⊢
  cases was : repository.sessions.lookup key with
  | none =>
      rw [transport, was, Option.map_none] at carried
      cases carried with
      | created _ _ _ _ fits => exact fits
  | some old =>
      rw [transport_found was] at carried
      cases carried with
      | kept => exact bounded key old was
      | reset _ _ _ _ within => exact within
      | renewed _ _ _ _ _ _ _ _ _ _ within => exact within

theorem Passed.reads (passed : Passed clock repository call reply after) {key : SessionKey}
    (reads : repository.sessions.lookup key ≠ none) : after.sessions.lookup key ≠ none := by
  intro missing
  have carried := passed.carries key
  obtain ⟨entry, found⟩ := Option.ne_none_iff_exists'.mp reads
  rw [transport_found found, transport, missing, Option.map_none] at carried
  cases carried

/-- A round that is not for the current generation is not prepared; its generator
is not consulted. -/
theorem prepareRound_stale {request : SpinRequest} {fingerprint : String}
    {walletProfile : Profile} {prepare : PrepareOutcome ω} {world world' : ω}
    {reply : Except RgsError (RoundRecord × Bool)} {entry : MemorySession}
    (found : repository.sessions.lookup request.key.session = some entry)
    (stale : request.transportGeneration ≠ entry.session.transportGeneration)
    (ran : repository.prepareRound codec request fingerprint walletProfile prepare clock world =
      (reply, after, world')) : world' = world := by
  simp only [prepareRound, found] at ran
  split at ran
  · cases ran
    rfl
  · cases ran
    rfl
  case _ there =>
    cases there
    split at ran
    · cases ran
      rfl
    · cases ran
      rfl
    case _ admitted =>
      obtain ⟨_, _, _, _, ⟨current, _⟩, _⟩ := MemorySession.admitRound_fresh_iff.mp admitted
      exact absurd current stale

theorem run_stale {world world' : ω} {key : SessionKey} {generation : Nat} {entry : MemorySession}
    (transports : call.OfTransport (BuiltBy codec))
    (found : repository.sessions.lookup key = some entry)
    (presented : call.presented = some (key, generation))
    (stale : generation ≠ entry.session.transportGeneration)
    (ran : MemoryRepository.run codec clock call repository world = (reply, after, world')) :
    repository.Same after ∧ world' = world ∧ call.FencedOff repository.round reply := by
  have passed := run_passed transports ran
  have kept : world' = world := by
    cases call with
    | prepareRound request fingerprint walletProfile prepare =>
        obtain ⟨rfl, rfl⟩ := Prod.mk.inj (Option.some.inj presented)
        exact prepareRound_stale found stale ran
    | authorizeSessionTransport | acknowledgeResultDelivery =>
        cases ran
        rfl
    | _ => cases presented
  cases passed with
  | refused call error same =>
      refine ⟨same, kept, ?_⟩
      cases call <;> trivial
  | created | relaunched | reset => cases presented
  | authorized _ _ _ entry' found' current =>
      obtain ⟨rfl, rfl⟩ := Prod.mk.inj (Option.some.inj presented)
      rw [found, Option.some.injEq] at found'
      exact absurd (found' ▸ current) stale
  | acknowledged receipt entry' _ found' current =>
      obtain ⟨rfl, rfl⟩ := Prod.mk.inj (Option.some.inj presented)
      rw [found, Option.some.injEq] at found'
      exact absurd (found' ▸ current) stale
  | replayed request fingerprint walletProfile prepare record there =>
      exact ⟨.refl _, kept, rfl, there⟩
  | prepared request _ _ _ _ entry' _ found' current =>
      obtain ⟨rfl, rfl⟩ := Prod.mk.inj (Option.some.inj presented)
      rw [found, Option.some.injEq] at found'
      exact absurd (found' ▸ current) stale

/-- A round that is there is replayed whatever the session's transport is. -/
theorem prepareRound_replays {request : SpinRequest} {fingerprint : String}
    {walletProfile : Profile} {prepare : PrepareOutcome ω} {world : ω} {record : RoundRecord}
    (valid : validatePrepareArguments codec request fingerprint walletProfile = .ok ())
    (found : repository.round request.key = some record)
    (same : record.fingerprint = fingerprint) :
    repository.prepareRound codec request fingerprint walletProfile prepare clock world =
      (.ok (record, false), repository, world) := by
  obtain ⟨entry, there, round⟩ := Option.bind_eq_some_iff.mp found
  have named : request.key.roundID = request.roundID := rfl
  rw [named] at round
  have admitted : entry.admitRound request fingerprint (clock 0) (clock 1) =
      .ok (.replay record) := by
    simp only [MemorySession.admitRound, round]
    simp [refuse, same]
  simp only [prepareRound, valid, there, admitted]

theorem acknowledge_accepted {receipt : ResultDeliveryAcknowledgement}
    (receives : (memoryTransports codec : TransportView (memoryRepository codec : Repository ω)).Receives
      repository receipt) {world : ω} :
    ∃ reply after world', MemoryRepository.run codec clock
      (.acknowledgeResultDelivery receipt : RepositoryCall ω) repository world =
        (.ok reply, after, world') := by
  obtain ⟨valid, delivered, transport, found, current⟩ := receives
  obtain ⟨entry, there, committed⟩ := Option.bind_eq_some_iff.mp delivered
  obtain ⟨delivery, sent, same⟩ := Option.map_eq_some_iff.mp committed
  obtain ⟨sequence, hash⟩ := Prod.mk.inj same
  change repository.sessions.lookup ⟨receipt.operatorID, receipt.sessionID⟩ = some entry at there
  have generation : receipt.transportGeneration = entry.session.transportGeneration := by
    change repository.transport ⟨receipt.operatorID, receipt.sessionID⟩ = some transport at found
    rw [transport_found there, Option.some.injEq] at found
    rw [← current, ← found]
    rfl
  obtain ⟨answer, entry', done⟩ : ∃ answer entry',
      entry.acknowledgeResultDelivery receipt (clock 0) = .ok (answer, entry') := by
    by_cases acknowledged : delivery.acknowledgedAt ≠ 0
    · exact ⟨_, _, MemorySession.acknowledge_ok.mpr ⟨generation, delivery, sent, sequence, hash,
        by rw [if_pos acknowledged]; exact ⟨rfl, rfl⟩⟩⟩
    · exact ⟨_, _, MemorySession.acknowledge_ok.mpr ⟨generation, delivery, sent, sequence, hash,
        by rw [if_neg acknowledged]; exact ⟨rfl, rfl⟩⟩⟩
  refine ⟨answer, { sessions :=
      repository.sessions.insert ⟨receipt.operatorID, receipt.sessionID⟩ entry' }, world, ?_⟩
  simp only [run, afterCheck, valid, onSession, there, done, settle]
  rfl

end MemoryRepository

theorem memory_fences (codec : Codec) :
    (memoryRepository codec : Repository ω).Fences (memoryTransports codec) where
  bounded {state key transport} valid found := by
    obtain ⟨entry, there, rfl⟩ := Option.map_eq_some_iff.mp found
    exact valid key entry there
  valid valid step := by
    obtain ⟨clock, call, world, world', reply, transports, ran⟩ := step
    exact (MemoryRepository.run_passed transports ran).bounded valid
  reads _ step reads := by
    obtain ⟨clock, call, world, world', reply, transports, ran⟩ := step
    exact (MemoryRepository.run_passed transports ran).reads reads
  carries transports _ ran key := (MemoryRepository.run_passed transports ran).carries key
  resets {clock key idleDisconnect state world session after world'} _ ran := by
    have transports : (RepositoryCall.resetSessionTransport key idleDisconnect :
        RepositoryCall ω).OfTransport (BuiltBy codec) := trivial
    have passed := MemoryRepository.run_passed transports ran
    cases passed with
    | reset _ _ entry found _ deadline within next =>
        refine ⟨?_, entry.session.transport, deadline, MemoryRepository.transport_found found, ?_,
          congrArg Transport.generation next⟩
        · intro missing
          rw [Table.lookup_insert, if_pos rfl] at missing
          cases missing
        · refine (MemoryRepository.transport_insert state key key _).trans ?_
          rw [if_pos rfl, ← next]
  creates {clock request fingerprint walletProfile prepare state world record after world'} built
      _ ran := by
    have transports : (RepositoryCall.prepareRound request fingerprint walletProfile prepare :
        RepositoryCall ω).OfTransport (BuiltBy codec) := built
    cases MemoryRepository.run_passed transports ran with
    | prepared _ _ _ _ _ entry _ found current awake =>
        exact ⟨entry.session.transport, MemoryRepository.transport_found found, current, 1, awake⟩
  stale {clock call state world reply after world' key generation transport} transports _ reads
      found presented stale ran := by
    obtain ⟨entry, there, rfl⟩ := Option.map_eq_some_iff.mp found
    exact MemoryRepository.run_stale transports there presented stale ran
  replays _ _ valid found same := MemoryRepository.prepareRound_replays valid found same
  acknowledges _ _ receives := MemoryRepository.acknowledge_accepted receives

end SlotsGame.Rgs
