/-
# SlotsGame.Rgs.Transport -- the generations of a session's transport

A browser holds a session under a generation.  A reset takes the session to the
next generation, so that whatever still presents the one before is fenced off;
the idle deadline ends a generation by itself, for new rounds only.

`TransportView` is what a store shows of this.  `Repository.Fences` lists what
each call must do to it, and `Repository.Fenced` is what every run then has.
-/
import SlotsGame.Rgs.Repository
import SlotsGame.Theory.Runs

namespace SlotsGame.Rgs

open SlotsGame.Theory

set_option autoImplicit false

variable {ω : Type}

/-! ## Transports -/

/-- The transport of a session. -/
@[ext] structure Transport where
  generation : Nat
  idleDisconnectAt : Time
  expiresAt : Time

def Session.transport (session : Session) : Transport :=
  { generation := session.transportGeneration, idleDisconnectAt := session.idleDisconnectAt
    expiresAt := session.expiresAt }

namespace Transport

/-- The idle deadline lies within the lifetime of the session. -/
def Bounded (transport : Transport) : Prop :=
  transport.idleDisconnectAt ≤ transport.expiresAt

def renew (transport : Transport) (deadline : Time) : Transport :=
  { transport with idleDisconnectAt := deadline }

def reset (transport : Transport) (deadline : Time) : Transport :=
  { transport with generation := transport.generation + 1, idleDisconnectAt := deadline }

end Transport

/-! ## The calls -/

/-- The calls a session's browser and its launch make.  A round is prepared with a
result that a coordinator has written down for it. -/
def RepositoryCall.OfTransport (built : SpinRequest → PrepareOutcome ω → Prop) :
    RepositoryCall ω → Prop
  | .createSession _ | .authorizeSessionRelaunch _ | .resetSessionTransport _ _
  | .authorizeSessionTransport _ _ _ | .acknowledgeResultDelivery _ => True
  | .prepareRound request _ _ prepare => built request prepare
  | _ => False

/-- The generation a call is presented with, and the session it is for. -/
def RepositoryCall.presented : RepositoryCall ω → Option (SessionKey × Nat)
  | .authorizeSessionTransport key transportGeneration _ => some (key, transportGeneration)
  | .acknowledgeResultDelivery receipt =>
      some (⟨receipt.operatorID, receipt.sessionID⟩, receipt.transportGeneration)
  | .prepareRound request _ _ _ => some (request.key.session, request.transportGeneration)
  | _ => none

/-- The call was refused, or has returned a round that was there. -/
def RepositoryCall.FencedOff (round : RoundKey → Option RoundRecord) :
    (call : RepositoryCall ω) → Except RgsError call.Reply → Prop
  | .prepareRound request _ _ _, .ok (record, created) =>
      created = false ∧ round request.key = some record
  | _, .ok _ => False
  | _, .error _ => True

/-- The call has created a round. -/
def RepositoryCall.Created : (call : RepositoryCall ω) → Except RgsError call.Reply → Prop
  | .prepareRound _ _ _ _, .ok (_, created) => created = true
  | _, _ => False

/-- What a call may make of the transport of the session `key`. -/
inductive RepositoryCall.Carries (clock : Clock) (call : RepositoryCall ω) (key : SessionKey) :
    Option Transport → Option Transport → Prop
  | kept (transport : Option Transport) : Carries clock call key transport transport
  | created (session : Session) (creates : call = .createSession session)
      (named : session.key = key) (transport : Transport) (bounded : transport.Bounded) :
      Carries clock call key none (some transport)
  | reset (transport : Transport) (idleDisconnect : Duration)
      (resets : call = .resetSessionTransport key idleDisconnect) (deadline : Time)
      (within : deadline ≤ transport.expiresAt) :
      Carries clock call key (some transport) (some (transport.reset deadline))
  | renewed (transport : Transport) (request : SpinRequest) (fingerprint : String)
      (walletProfile : Profile) (prepare : PrepareOutcome ω)
      (prepares : call = .prepareRound request fingerprint walletProfile prepare)
      (named : request.key.session = key)
      (current : request.transportGeneration = transport.generation)
      (awake : ∃ index, clock index < transport.idleDisconnectAt) (deadline : Time)
      (within : deadline ≤ transport.expiresAt) :
      Carries clock call key (some transport) (some (transport.renew deadline))

/-! ## Stores -/

/-- What a store shows of its sessions' transports, and of what stays possible
without one. -/
structure TransportView (repository : Repository ω) where
  clock : repository.Env → Clock
  /-- The connection does not fail. -/
  Connected : repository.Env → Prop
  built : SpinRequest → PrepareOutcome ω → Prop
  validArguments : SpinRequest → String → Profile → Except RgsError Unit
  Valid : repository.State → Prop
  /-- The session is there and can be read. -/
  Reads : repository.State → SessionKey → Prop
  transport : repository.State → SessionKey → Option Transport
  round : repository.State → RoundKey → Option RoundRecord
  /-- The sequence and the digest of a committed delivery. -/
  delivery : repository.State → RoundKey → Option (Nat × String)
  /-- Nothing has changed. -/
  Same : repository.State → repository.State → Prop

namespace TransportView

variable {repository : Repository ω} (view : TransportView repository)

/-- One call of the transport; the clock reads nothing before `since`. -/
def StepSince (since : Time) (state after : repository.State) : Prop :=
  ∃ (env : repository.Env) (call : RepositoryCall ω) (world world' : ω)
    (reply : Except RgsError call.Reply), call.OfTransport view.built ∧
      (∀ index, since ≤ view.clock env index) ∧
      repository.run env call state world = (reply, after, world')

/-- One call of the transport. -/
def Step (state after : repository.State) : Prop :=
  ∃ (env : repository.Env) (call : RepositoryCall ω) (world world' : ω)
    (reply : Except RgsError call.Reply), call.OfTransport view.built ∧
      repository.run env call state world = (reply, after, world')

theorem StepSince.step {since : Time} {state after : repository.State}
    (step : view.StepSince since state after) : view.Step state after := by
  obtain ⟨env, call, world, world', reply, transports, _, ran⟩ := step
  exact ⟨env, call, world, world', reply, transports, ran⟩

theorem StepSince.steps {since : Time} {state after : repository.State}
    (run : Relation.ReflTransGen (view.StepSince since) state after) :
    Relation.ReflTransGen view.Step state after := by
  induction run with
  | refl => exact .refl
  | tail _ step ih => exact ih.tail (StepSince.step view step)

/-- A receipt that names the delivery it acknowledges, under the current generation. -/
structure Receives (state : repository.State) (receipt : ResultDeliveryAcknowledgement) :
    Prop where
  valid : validateResultDeliveryAcknowledgement receipt = .ok ()
  delivered : view.delivery state ⟨receipt.operatorID, receipt.sessionID, receipt.roundID⟩ =
    some (receipt.sequence, receipt.resultHash)
  current : ∃ transport, view.transport state ⟨receipt.operatorID, receipt.sessionID⟩ =
    some transport ∧ transport.generation = receipt.transportGeneration

end TransportView

/-- What the calls of a store do to transports, one call at a time. -/
structure Repository.Fences (repository : Repository ω) (view : TransportView repository) :
    Prop where
  bounded : ∀ {state key transport}, view.Valid state →
    view.transport state key = some transport → transport.Bounded
  valid : ∀ {state after}, view.Valid state → view.Step state after → view.Valid after
  reads : ∀ {state after key}, view.Valid state → view.Step state after → view.Reads state key →
    view.Reads after key
  carries : ∀ {env call state world reply after world'}, call.OfTransport view.built →
    view.Valid state → repository.run env call state world = (reply, after, world') →
    ∀ key, call.Carries (view.clock env) key (view.transport state key) (view.transport after key)
  resets : ∀ {env key idleDisconnect state world session after world'}, view.Valid state →
    repository.run env (.resetSessionTransport key idleDisconnect) state world =
      (.ok session, after, world') →
    view.Reads after key ∧ ∃ transport deadline, view.transport state key = some transport ∧
      view.transport after key = some (transport.reset deadline) ∧
      session.transportGeneration = transport.generation + 1
  creates : ∀ {env request fingerprint walletProfile prepare state world record after world'},
    view.built request prepare → view.Valid state →
    repository.run env (.prepareRound request fingerprint walletProfile prepare) state world =
      (.ok (record, true), after, world') →
    ∃ transport, view.transport state request.key.session = some transport ∧
      request.transportGeneration = transport.generation ∧
      ∃ index, view.clock env index < transport.idleDisconnectAt
  stale : ∀ {env call state world reply after world' key generation transport},
    call.OfTransport view.built → view.Valid state → view.Reads state key →
    view.transport state key = some transport → call.presented = some (key, generation) →
    generation ≠ transport.generation →
    repository.run env call state world = (reply, after, world') →
    view.Same state after ∧ world' = world ∧ call.FencedOff (view.round state) reply
  replays : ∀ {env request fingerprint walletProfile prepare state world record},
    view.Connected env → view.Valid state →
    view.validArguments request fingerprint walletProfile = .ok () →
    view.round state request.key = some record → record.fingerprint = fingerprint →
    repository.run env (.prepareRound request fingerprint walletProfile prepare) state world =
      (.ok (record, false), state, world)
  acknowledges : ∀ {env receipt state world}, view.Connected env → view.Valid state →
    view.Receives state receipt →
    ∃ reply after world',
      repository.run env (.acknowledgeResultDelivery receipt) state world =
        (.ok reply, after, world')

/-! ## Runs -/

/-- The fencing of transports, over every run of a store. -/
structure Repository.Fenced (repository : Repository ω) (view : TransportView repository) :
    Prop where
  /-- The idle deadline never exceeds the session's lifetime. -/
  bounded : ∀ {state after key transport}, view.Valid state →
    Relation.ReflTransGen view.Step state after → view.transport after key = some transport →
    transport.idleDisconnectAt ≤ transport.expiresAt
  /-- The generation never decreases, and the lifetime stays. -/
  monotone : ∀ {state after key transport}, view.Valid state →
    Relation.ReflTransGen view.Step state after → view.transport state key = some transport →
    ∃ later, view.transport after key = some later ∧
      transport.generation ≤ later.generation ∧ later.expiresAt = transport.expiresAt
  /-- A reset takes the session to the next generation. -/
  reset : ∀ {env key idleDisconnect state world session after world'}, view.Valid state →
    repository.run env (.resetSessionTransport key idleDisconnect) state world =
      (.ok session, after, world') →
    ∃ transport later, view.transport state key = some transport ∧
      view.transport after key = some later ∧
      later.generation = transport.generation + 1 ∧
      session.transportGeneration = later.generation
  /-- After a reset, an older generation is fenced off for good. -/
  fenced : ∀ {env key idleDisconnect start world session state middle world'},
    view.Valid start →
    repository.run env (.resetSessionTransport key idleDisconnect) start world =
      (.ok session, middle, world') →
    Relation.ReflTransGen view.Step middle state →
    ∀ {env call world reply after world' generation}, call.OfTransport view.built →
      call.presented = some (key, generation) → generation < session.transportGeneration →
      repository.run env call state world = (reply, after, world') →
      view.Same state after ∧ world' = world ∧ call.FencedOff (view.round state) reply
  /-- Once the idle deadline has passed, the generation prepares no new round. -/
  idle : ∀ {start key transport since state}, view.Valid start →
    view.transport start key = some transport → transport.idleDisconnectAt ≤ since →
    Relation.ReflTransGen (view.StepSince since) start state →
    ∀ {env request fingerprint walletProfile prepare world reply after world'},
      view.built request prepare → request.key.session = key →
      request.transportGeneration = transport.generation →
      (∀ index, since ≤ view.clock env index) →
      repository.run env (.prepareRound request fingerprint walletProfile prepare) state world =
        (reply, after, world') →
      ¬ (RepositoryCall.prepareRound request fingerprint walletProfile prepare).Created reply
  /-- A round is replayed and a delivery acknowledged at any time. -/
  replay : ∀ {start state env request fingerprint walletProfile prepare world record},
    view.Valid start → Relation.ReflTransGen view.Step start state → view.Connected env →
    view.validArguments request fingerprint walletProfile = .ok () →
    view.round state request.key = some record → record.fingerprint = fingerprint →
    repository.run env (.prepareRound request fingerprint walletProfile prepare) state world =
      (.ok (record, false), state, world)
  acknowledge : ∀ {start state env receipt world}, view.Valid start →
    Relation.ReflTransGen view.Step start state → view.Connected env →
    view.Receives state receipt →
    ∃ reply after world',
      repository.run env (.acknowledgeResultDelivery receipt) state world =
        (.ok reply, after, world')

namespace Repository.Fences

variable {repository : Repository ω} {view : TransportView repository}

/-- One call leaves a transport where it was or takes it on. -/
theorem later (fences : repository.Fences view) {state after : repository.State} {key : SessionKey}
    {transport : Transport} (valid : view.Valid state) (step : view.Step state after)
    (found : view.transport state key = some transport) :
    ∃ later, view.transport after key = some later ∧
      transport.generation ≤ later.generation ∧ later.expiresAt = transport.expiresAt := by
  obtain ⟨env, call, world, world', reply, transports, ran⟩ := step
  have carried := fences.carries transports valid ran key
  rw [found] at carried
  generalize view.transport after key = left at carried
  cases carried with
  | kept => exact ⟨transport, rfl, le_refl _, rfl⟩
  | reset _ _ _ deadline => exact ⟨transport.reset deadline, rfl, Nat.le_succ _, rfl⟩
  | renewed _ _ _ _ _ _ _ _ _ deadline => exact ⟨transport.renew deadline, rfl, le_refl _, rfl⟩

theorem valid_run (fences : repository.Fences view) {state after : repository.State}
    (valid : view.Valid state) (run : Relation.ReflTransGen view.Step state after) :
    view.Valid after := by
  induction run with
  | refl => exact valid
  | tail _ step ih => exact fences.valid ih step

theorem later_run (fences : repository.Fences view) {state after : repository.State}
    {key : SessionKey} {transport : Transport} (valid : view.Valid state)
    (run : Relation.ReflTransGen view.Step state after)
    (found : view.transport state key = some transport) :
    ∃ later, view.transport after key = some later ∧
      transport.generation ≤ later.generation ∧ later.expiresAt = transport.expiresAt := by
  induction run with
  | refl => exact ⟨transport, found, le_refl _, rfl⟩
  | tail path step ih =>
      obtain ⟨middle, there, grown, same⟩ := ih
      obtain ⟨last, here, further, alike⟩ := fences.later (fences.valid_run valid path) step there
      exact ⟨last, here, le_trans grown further, alike.trans same⟩

theorem reads_run (fences : repository.Fences view) {state after : repository.State}
    {key : SessionKey} (valid : view.Valid state)
    (run : Relation.ReflTransGen view.Step state after) (reads : view.Reads state key) :
    view.Reads after key := by
  induction run with
  | refl => exact reads
  | tail path step ih => exact fences.reads (fences.valid_run valid path) step ih

/-- While the clock reads nothing before the idle deadline, the deadline stays
or the generation is over. -/
theorem idle_run (fences : repository.Fences view) {start state : repository.State}
    {key : SessionKey} {transport : Transport} {since : Time} (valid : view.Valid start)
    (found : view.transport start key = some transport)
    (passed : transport.idleDisconnectAt ≤ since)
    (run : Relation.ReflTransGen (view.StepSince since) start state) :
    ∃ later, view.transport state key = some later ∧
      (later = transport ∨ transport.generation < later.generation) := by
  induction run with
  | refl => exact ⟨transport, found, .inl rfl⟩
  | tail path step ih =>
      obtain ⟨middle, there, kept⟩ := ih
      have before := fences.valid_run valid (TransportView.StepSince.steps view path)
      obtain ⟨last, here, grown, _⟩ := fences.later before (TransportView.StepSince.step view step) there
      refine ⟨last, here, ?_⟩
      rcases kept with rfl | past
      · obtain ⟨env, call, world, world', reply, transports, readings, ran⟩ := step
        have carried := fences.carries transports before ran key
        rw [there, here] at carried
        cases carried with
        | kept => exact .inl rfl
        | reset => exact .inr (Nat.lt_succ_self _)
        | renewed _ _ _ _ _ _ _ _ awake =>
            obtain ⟨index, early⟩ := awake
            exact absurd (le_trans passed (readings index)) (not_le.mpr early)
      · exact .inr (lt_of_lt_of_le past grown)

/-- A store that fences transports call by call fences them over every run. -/
theorem fenced (fences : repository.Fences view) : repository.Fenced view where
  bounded valid run found := fences.bounded (fences.valid_run valid run) found
  monotone valid run found := fences.later_run valid run found
  reset valid ran := by
    obtain ⟨_, transport, deadline, before, after, next⟩ := fences.resets valid ran
    exact ⟨transport, _, before, after, rfl, next⟩
  fenced := by
    intro env key idleDisconnect start world session state middle world' valid ran run env' call
      world reply after world'' generation transports presented older ran'
    obtain ⟨reads, transport, deadline, _, after_, next⟩ := fences.resets valid ran
    have reset : view.Valid middle :=
      fences.valid valid ⟨env, .resetSessionTransport key idleDisconnect, _, _, _, trivial, ran⟩
    obtain ⟨current, found, grown, _⟩ := fences.later_run reset run after_
    refine fences.stale transports (fences.valid_run reset run) (fences.reads_run reset run reads)
      found presented ?_ ran'
    have : transport.generation + 1 ≤ current.generation := grown
    omega
  idle := by
    intro start key transport since state valid found passed run env request fingerprint
      walletProfile prepare world reply after world' built named same readings ran created
    obtain ⟨later, there, kept⟩ := fences.idle_run valid found passed run
    have before := fences.valid_run valid (TransportView.StepSince.steps view run)
    match reply, created with
    | .ok (record, true), _ =>
        obtain ⟨current, here, presented, index, early⟩ := fences.creates built before ran
        rw [named, there, Option.some.injEq] at here
        subst here
        rcases kept with rfl | past
        · exact absurd (le_trans passed (readings index)) (not_le.mpr early)
        · omega
  replay valid run connected arguments found same :=
    fences.replays connected (fences.valid_run valid run) arguments found same
  acknowledge valid run connected receives :=
    fences.acknowledges connected (fences.valid_run valid run) receives

end Repository.Fences

end SlotsGame.Rgs
