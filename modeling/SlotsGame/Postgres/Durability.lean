/-
# SlotsGame.Postgres.Durability -- what the store writes, it reads back

`ServerStep` is one transaction of a server: a call of its coordinators, or one
of its risk desk.  A transaction that the connection fails leaves one of the two
databases of its step (`run_step`), so it needs no step of its own.

`server_rounds_durable` is the result: along every run, every round is read back
as the record that was written, the claimable ones pass the recovery check and
the ledger check, and nothing is quarantined.
-/
import SlotsGame.Theory.Runs
import SlotsGame.Postgres.RiskSteps

namespace SlotsGame.Postgres

open SlotsGame.Game SlotsGame.Rgs SlotsGame.Theory

set_option autoImplicit false

variable {ω : Type} {settings : Settings} {database after : Database}

/-! ## The steps of a server -/

/-- The rounds the candidate statement names. -/
def Env.candidates (env : Env) (database : Database) (limit : Int) : List RoundKey :=
  (env.seen.getD database).recoverableRoundKeys (env.database 0) limit.toNat env.locked
    env.lockedOperator

/-- The calls of a coordinator: a round is prepared with a result that was built for
it, no round is isolated by hand, and a recovery batch finds its candidates as the
candidate statement saw them. -/
def Coordinated (settings : Settings) (env : Env) (database : Database) : RepositoryCall ω → Prop
  | .prepareRound request _ _ prepare => BuiltBy settings.codec request prepare
  | .markManualReview _ _ => False
  | .claimRecoverableRounds limit _ => database.Current (env.candidates database limit)
  | _ => True

/-- The records a call has written. -/
def writtenByCall (settings : Settings) (env : Env) (database : Database) :
    (call : RepositoryCall ω) → Except RgsError call.Reply → List RoundRecord
  | .prepareRound _ _ _ _, .ok (record, true) => [record]
  | .claimWallet _ _, .ok (claim, true) => [claim.record]
  | .claimRecoverableRounds _ _, .ok claims => claims.map fun claim => claim.record
  | .commitClaim _ _, .ok (record, true) => [record]
  | .rejectClaim _ _, .ok (record, true) => [record]
  | .markClaimManualReview _ _, .ok (record, true) => [record]
  | .scheduleWalletRecovery claim disposition jitterDelay, .ok true =>
      match database.lockRound settings.codec claim.record.key with
      | .ok record =>
          [rescheduledRecord record disposition jitterDelay (env.database 0) (env.database 1)]
      | .error _ => []
  | _, _ => []

/-- One transaction of a server, with the records it wrote. -/
inductive ServerStep (settings : Settings) : Database → List RoundRecord → Database → Prop
  | call {ω : Type} (env : Env) (call : RepositoryCall ω) (world world' : ω)
      {before after : Database} {reply : Except RgsError call.Reply}
      (coordinated : Coordinated settings env before call)
      (ran : before.execute settings env call world = (reply, after, world')) :
      ServerStep settings before (writtenByCall settings env before call reply) after
  | decide (command : RiskDecisionCommand) {now : Time} {before after : Database}
      {reply : Except RgsError RiskDecisionResult} (reading : Reading now)
      (ran : settle before (before.decideRisk settings command now) = (reply, after)) :
      ServerStep settings before (writtenByDecision settings before command now) after
  | expire (key : RoundKey) {now : Time} {before after : Database} {reply : Except RgsError Bool}
      (reading : Reading now)
      (ran : settle before (before.expireRiskReview settings key now) = (reply, after)) :
      ServerStep settings before (writtenByExpiry settings before key now) after

/-- The databases a server leads to. -/
def Served (settings : Settings) : Database → Prop :=
  Reachable (· = Database.empty) fun before after => ∃ written,
    ServerStep settings before written after

/-- Whatever the connection does to a call, the store stays where it was or takes
the call's step. -/
theorem run_step {env : Env} {call : RepositoryCall ω} {world world' : ω}
    {reply : Except RgsError call.Reply}
    (ran : (postgresRepository settings).run env call database world = (reply, after, world')) :
    after = database ∨ ∃ reply world',
      database.execute settings env call world = (reply, after, world') := by
  change env.deliver (database, world) (database.execute settings env call world) = _ at ran
  rcases executed : database.execute settings env call world with ⟨answer, left, drawn⟩
  rw [executed] at ran
  unfold Env.deliver at ran
  cases fault : env.fault with
  | none =>
      rw [fault] at ran
      exact .inr ⟨reply, world', ran⟩
  | some fault' =>
      rw [fault] at ran
      cases fault' with
      | refused =>
          cases ran
          exact .inl rfl
      | rolledBack =>
          cases ran
          exact .inl rfl
      | unanswered =>
          cases ran
          exact .inr ⟨_, _, rfl⟩

/-! ## One step -/

/-- A transaction that wrote nothing but what `done` says. -/
theorem Database.Healthy.transact {α : Type} {codec : Codec} (healthy : database.Healthy codec)
    {program : Except (Abort Database RgsError) (α × Database)}
    (written : Except RgsError α → List RoundRecord)
    (left : Leaves (database.Follows codec []) program) {world world' : ω}
    {reply : Except RgsError α} (ran : database.transact world program = (reply, after, world'))
    (silent : ∀ error, written (.error error) = [])
    (done : ∀ a, program = .ok (a, after) → database.Stored codec (written (.ok a)) after) :
    database.Stored codec (written reply) after := by
  have settled : settle database program = (reply, after) := by
    unfold Database.transact at ran
    cases ran
    rfl
  rcases settle_cases settled with ⟨a, ended, rfl⟩ | ⟨error, _, rfl, rfl⟩ | ⟨error, stopped, rfl⟩
  · exact done a ended
  · rw [silent]
    exact healthy.unchanged
  · rw [silent]
    exact ⟨left error after stopped, .nil⟩

theorem Env.reading (env : Env) (index : Nat) : Reading (env.database index) :=
  ⟨env.database.positive index, env.whole index⟩

/-- The generator's part of a prepared round. -/
theorem Database.Healthy.prepareRound (healthy : database.Healthy settings.codec) {env : Env}
    {request : SpinRequest} {fingerprint : String} {profile : Profile} {prepare : PrepareOutcome ω}
    (built : BuiltBy settings.codec request prepare) {world world' : ω}
    {reply : Except RgsError (RoundRecord × Bool)}
    (ran : database.prepareRound settings request fingerprint profile prepare (env.database 0)
      (env.pod 0) world = (reply, after, world')) :
    database.Stored settings.codec (writtenByCall settings env database
      (.prepareRound request fingerprint profile prepare) reply) after := by
  unfold Database.prepareRound at ran
  split at ran
  · cases ran
    exact healthy.unchanged
  · next valid =>
    have left := healthy.admitRound request fingerprint (env.database 0) (env.pod 0)
    split at ran
    · cases ran
      exact healthy.unchanged
    · next stopped =>
      cases ran
      exact ⟨left _ _ stopped, .nil⟩
    · cases ran
      exact healthy.unchanged
    · next session admitted =>
      rcases drawn : prepare session world with ⟨prepared, drawn'⟩
      rw [drawn] at ran
      dsimp only at ran
      split at ran
      · cases ran
        exact healthy.unchanged
      · next result =>
        have made := built session world result drawn' drawn
        refine healthy.transact (writtenByCall settings env database
          (.prepareRound request fingerprint profile prepare)) ?_ ran (fun _ => rfl) ?_
        · unfold Database.persistRound
          refine Leaves.bind (Leaves.check _) fun _ _ => ?_
          refine Leaves.bind (Leaves.check _) fun _ _ => ?_
          refine Leaves.bind (Leaves.check _) fun _ _ => ?_
          refine Leaves.bind ?_ fun _ _ => Leaves.ok _
          unfold Database.writePrepared
          refine Leaves.bind (Leaves.abortWhen _ _) fun _ _ => ?_
          refine Leaves.bind (Leaves.abortWhen _ _) fun _ _ => ?_
          refine Leaves.bind (Leaves.require _ _) fun _ _ => ?_
          refine Leaves.bind (Leaves.abortWhen _ _) fun _ _ => ?_
          split <;> exact Leaves.ok _
        · rintro ⟨record, changed⟩ persisted_
          obtain ⟨follows, rfl, keyed, read⟩ :=
            healthy.persist (env.reading 0) valid admitted made persisted_
          exact follows.stored_persisted keyed read

/-- A call of a coordinator keeps the store healthy, and is read back. -/
theorem Database.Healthy.execute (healthy : database.Healthy settings.codec) {env : Env}
    {call : RepositoryCall ω} (coordinated : Coordinated settings env database call)
    {world world' : ω} {reply : Except RgsError call.Reply}
    (ran : database.execute settings env call world = (reply, after, world')) :
    database.Stored settings.codec (writtenByCall settings env database call reply) after := by
  cases call with
  | createSession session =>
      refine healthy.transact (fun _ => []) (Leaves.bind (Leaves.check _) fun _ _ => ?_) ran
        (fun _ => rfl) fun _ ended => ⟨healthy.createSession ended, .nil⟩
      refine Leaves.bind (Leaves.abortWhen _ _) fun _ _ => ?_
      exact Leaves.bind (Leaves.abortWhen _ _) fun _ _ => Leaves.ok _
  | getSession key =>
      refine healthy.transact (fun _ => [])
        (Leaves.bind (healthy.lockSessionOrQuarantine _ _) fun _ _ => Leaves.ok _) ran
        (fun _ => rfl) ?_
      intro session ended
      obtain ⟨_, _, same⟩ := bind_ok.mp ended
      cases same
      exact healthy.unchanged
  | authorizeSessionRelaunch key =>
      cases ran
      exact healthy.unchanged
  | resetSessionTransport key idleDisconnect =>
      refine healthy.transact (fun _ => []) ?_ ran (fun _ => rfl)
        fun _ ended => ⟨healthy.resetSessionTransport (env.reading 0) ended, .nil⟩
      unfold Database.resetSessionTransport
      refine Leaves.bind (Leaves.check _) fun _ _ => ?_
      refine Leaves.bind (Leaves.check _) fun _ _ => ?_
      refine Leaves.bind (Leaves.check _) fun _ _ => ?_
      refine Leaves.bind (Leaves.abortWhen _ _) fun _ _ => ?_
      refine Leaves.bind (Leaves.require _ _) fun _ _ => ?_
      exact Leaves.bind (Leaves.abortWhen _ _) fun _ _ => Leaves.ok _
  | authorizeSessionTransport key transportGeneration allowIdleRecovery =>
      cases ran
      exact healthy.unchanged
  | getRound key =>
      refine healthy.transact (fun _ => []) (healthy.getRound _) ran (fun _ => rfl) ?_
      intro record ended
      rw [(getRound_ok.mp ended).2]
      exact healthy.unchanged
  | getPendingResultDelivery key =>
      refine healthy.transact (fun _ => []) (healthy.getPendingResultDelivery _ _) ran
        (fun _ => rfl) ?_
      intro delivery ended
      rw [getPendingResultDelivery_kept ended]
      exact healthy.unchanged
  | acknowledgeResultDelivery receipt =>
      exact healthy.transact (fun _ => []) (healthy.acknowledge_leaves _ _) ran (fun _ => rfl)
        fun _ ended => ⟨healthy.acknowledge ended, .nil⟩
  | prepareRound request fingerprint profile prepare =>
      exact healthy.prepareRound coordinated ran
  | claimWallet key leaseDuration =>
      refine healthy.transact (writtenByCall settings env database (.claimWallet key leaseDuration))
        healthy.claimWallet_leaves ran (fun _ => rfl) ?_
      rintro ⟨claim, granted⟩ ended
      rcases healthy.claimWallet (env.reading 0) ended with
        ⟨rfl, rfl⟩ | ⟨rfl, follows, keyed, read⟩
      · exact healthy.unchanged
      · exact follows.stored_persisted keyed read
  | commitClaim claim receipt =>
      refine healthy.transact (writtenByCall settings env database (.commitClaim claim receipt))
        healthy.commitClaim_leaves ran (fun _ => rfl) ?_
      rintro ⟨record, changed⟩ ended
      obtain ⟨follows, rfl, keyed, read⟩ := healthy.commitClaim ended
      exact follows.stored_persisted keyed read
  | rejectClaim claim reason =>
      refine healthy.transact (writtenByCall settings env database (.rejectClaim claim reason))
        healthy.transitionClaimFailure_leaves ran (fun _ => rfl) ?_
      rintro ⟨record, changed⟩ ended
      obtain ⟨follows, rfl, keyed, read⟩ := healthy.transitionClaimFailure (.inl rfl)
        (by rintro ⟨⟩) ended
      exact follows.stored_persisted keyed read
  | markClaimManualReview claim reason =>
      refine healthy.transact
        (writtenByCall settings env database (.markClaimManualReview claim reason))
        healthy.transitionClaimFailure_leaves ran (fun _ => rfl) ?_
      rintro ⟨record, changed⟩ ended
      obtain ⟨follows, rfl, keyed, read⟩ := healthy.transitionClaimFailure (.inr rfl)
        (fun _ => rfl) ended
      exact follows.stored_persisted keyed read
  | markManualReview key reason => cases coordinated
  | claimRecoverableRounds limit leaseDuration =>
      refine healthy.transact (writtenByCall settings env database
          (.claimRecoverableRounds limit leaseDuration))
        (healthy.claimRecoverable_leaves coordinated) ran (fun _ => rfl) ?_
      intro claims ended
      obtain ⟨follows, read⟩ := healthy.claimRecoverable (env.reading 1)
        (recoverableRoundKeys_distinct _ _ _ _) ended
      refine ⟨?_, fun record member => ?_⟩
      · change List WalletRecoveryClaim at claims
        simpa [writtenByCall, claimKeys, Function.comp_def] using follows
      · obtain ⟨claim, granted, rfl⟩ := List.mem_map.mp member
        exact read claim granted
  | scheduleWalletRecovery claim disposition jitterDelay =>
      refine healthy.transact (writtenByCall settings env database
          (.scheduleWalletRecovery claim disposition jitterDelay))
        scheduleWalletRecovery_leaves ran (fun _ => rfl) ?_
      intro done ended
      rcases healthy.schedule (env.reading 0) (env.reading 1) ended with
        ⟨rfl, rfl⟩ | ⟨rfl, follows, record, locked, read⟩
      · exact healthy.unchanged
      · simp only [writtenByCall, locked]
        exact follows.stored read

/-- One transaction of a server keeps the store healthy, and is read back. -/
theorem ServerStep.stored {written : List RoundRecord}
    (step : ServerStep settings database written after)
    (healthy : database.Healthy settings.codec) :
    database.Stored settings.codec written after := by
  cases step with
  | call env call world world' coordinated ran => exact healthy.execute coordinated ran
  | decide command reading ran => exact healthy.decideRisk reading ran
  | expire key reading ran => exact healthy.expireRiskReview reading ran

theorem Served.healthy (served : Served settings database) :
    database.Healthy settings.codec ∧ database.Unmarked := by
  refine Reachable.invariant
    (fun database => database.Healthy settings.codec ∧ database.Unmarked) ?_ ?_ served
  · rintro _ rfl
    exact ⟨Database.Healthy.empty settings.codec, fun key row found => by simp [Database.empty] at found⟩
  · rintro before after _ ⟨holds, unmarked⟩ ⟨written, step⟩
    have follows := (step.stored holds).follows
    exact ⟨follows.healthy, follows.unmarked unmarked⟩

/-! ## Every run -/

/-- **Every round that a server wrote is read back: its row and its session's row
are accepted, a claimable one passes the recovery check and the ledger check, and
neither is in quarantine; what the last transaction wrote is read back as it was
written, and every other round as before.** -/
theorem server_rounds_durable {written : List RoundRecord} (served : Served settings database)
    (step : ServerStep settings database written after) :
    (∀ key row, after.rounds.lookup key = some row →
      row.integrityQuarantinedAt = none ∧
      ∃ owner session record, after.sessions.lookup key.session = some owner ∧
        scanSession key.session owner = .ok session ∧
        scanRound settings.codec key row owner = .ok record ∧
        (record.status = .prepared ∨ record.status = .walletPending →
          validateWalletRecoveryRecord settings.codec session record = .ok () ∧
          lockAndValidateWalletClaimLedger settings.codec after session record = .ok ())) ∧
      (∀ record ∈ written,
        after.lockRound settings.codec record.key = .ok (persisted record)) ∧
      ∀ key record, (∀ other ∈ written, other.key ≠ key) →
        database.lockRound settings.codec key = .ok record →
        after.lockRound settings.codec key = .ok record := by
  obtain ⟨sound, clean⟩ := served.healthy
  obtain ⟨follows, read⟩ := step.stored sound
  have healthy := follows.healthy
  refine ⟨fun key row found => ?_, read, fun key record apart => follows.keeps key record ?_⟩
  case refine_2 =>
    intro member
    obtain ⟨other, there, same⟩ := List.mem_map.mp member
    exact apart other there same
  obtain ⟨owner, entry, profile, feature, result, holds⟩ := healthy.rounds key row found
  obtain ⟨input, reads⟩ := holds.owns.reads
  have locked : after.lockSession key.session = .ok (owner.session key.session input) :=
    lockSession_ok.mpr ⟨owner, input, holds.owned, reads, rfl⟩
  refine ⟨follows.unmarked clean key row found, owner, _, _, holds.owned, scanSession_ok.mpr ⟨input, reads, rfl⟩,
    scanRound_ok.mpr ⟨profile, feature, result, holds.kept.reads, rfl⟩, fun claimable => ?_⟩
  exact ⟨holds.recovers claimable locked, healthy.claims holds claimable locked⟩

/-! ## A prepared round -/

/-- Stands in for SHA-256 and for the JSON of a result. -/
theorem demo_digest (_bytes : List UInt8) : Text.digestPattern
    "0000000000000000000000000000000000000000000000000000000000000000" = true := by
  decide +kernel

def demoCodec : Codec where
  sha256 _ := "0000000000000000000000000000000000000000000000000000000000000000"
  sha256_digest := demo_digest
  marshalResult _ := []
  marshalLegacyResult _ := []
  marshal_transport := Codec.silent_transport

def demoSettings : Settings :=
  { codec := demoCodec, riskCodec := { marshalSummary := fun _ => [], marshalDecision := fun _ => [] }
    riskPolicy := { enabled := false } }

/-- The demonstration engine over a list of draws. -/
def demoSpinner : Spinner (List Nat) where
  spin input world :=
    match demoEngine.spin input world with
    | .ok (outcome, rest) => (.ok outcome, rest)
    | .error text => (.error text, world)
  engine {input world after outcome} spun := by
    refine ⟨List Nat, demoEngine, world, after, ?_⟩
    cases played : demoEngine.spin input world with
    | error text => simp [played] at spun
    | ok drawn =>
        obtain ⟨outcome', rest⟩ := drawn
        simp only [played, Prod.mk.injEq, Except.ok.injEq] at spun
        rw [spun.1, spun.2]

def demoProfile : Profile :=
  { contractVersion := walletContractVersionV2, profileID := atomicHTTPProfileID
    routeBindingID :=
      "rgs-wallet-route-v1:0000000000000000000000000000000000000000000000000000000000000000"
    capabilities :=
      { atomicRound := true, lookupByOperation := true, reapplySameOperationAfterNotFound := true
        notFoundConsistencyWindow := Duration.second, explicitRollback := false
        requiresWalletSessionRef := true, requiresCommandDigest := true
        returnsAuthoritativeBalance := true } }

def demoSession : Session :=
  { operatorID := "operator-1", sessionID := "session-1", playerID := "player-1"
    walletAccountID := "account-1", walletSessionID := "wallet-1", gameID := "iron-colossus-demo"
    definitionVersion := "demo-2026-07-29.5"
    definitionHash := "0000000000000000000000000000000000000000000000000000000000000000"
    currency := "EUR", currencyExponent := 2, jurisdiction := "MT", status := .active
    expiresAt := Duration.hour, idleDisconnectAt := Duration.minute
    idleDisconnect := Duration.minute, transportGeneration := 1, balanceMinor := 1000
    revision := 0, sequence := 0, feature := FeatureState.emptyFeatureState }

def demoRequest : SpinRequest :=
  { operatorID := "operator-1", sessionID := "session-1", roundID := "round-1"
    gameID := "iron-colossus-demo", definitionVersion := "demo-2026-07-29.5"
    definitionHash := "0000000000000000000000000000000000000000000000000000000000000000"
    currency := "EUR", roundKind := .base, betMinor := 10, startRevision := 0
    transportGeneration := 1 }

def demoClock : Clock := { reading := fun _ => Duration.second, positive := fun _ => by decide }

def demoEnv : Env := { database := demoClock, whole := fun _ => rfl, pod := demoClock }

def demoPrepare : PrepareOutcome (List Nat) :=
  prepareIntent demoCodec (fun _ _ _ => .ok (some demoSpinner))
    { admitNewIntent := none, admitNewEconomicIntent := none } demoRequest

def demoCall : RepositoryCall (List Nat) :=
  .prepareRound demoRequest (fingerprintFor demoCodec demoRequest) demoProfile demoPrepare

/-- The database with the session. -/
def demoCreated : Database :=
  (Database.empty.execute demoSettings demoEnv (.createSession demoSession) ([] : List Nat)).2.1

/-- The draws of a spin that three surges trigger the wheel in. -/
def demoDraws : List Nat := [99, 99, 99, 0, 0, 0, 0, 0, 0, 90]

/-- The answer to the call, and the database with the round. -/
def demoPrepared : Except RgsError (RoundRecord × Bool) × Database × List Nat :=
  demoCreated.execute demoSettings demoEnv demoCall demoDraws

def demoWritten : List RoundRecord :=
  writtenByCall demoSettings demoEnv demoCreated demoCall demoPrepared.1

theorem demoCreated_served : Served demoSettings demoCreated :=
  Reachable.next (Reachable.start rfl)
    ⟨_, .call demoEnv (.createSession demoSession) ([] : List Nat) [] trivial rfl⟩

theorem demoPrepared_step : ServerStep demoSettings demoCreated demoWritten demoPrepared.2.1 := by
  have ran : demoPrepared = (demoPrepared.1, demoPrepared.2.1, demoPrepared.2.2) := rfl
  exact .call demoEnv demoCall demoDraws demoPrepared.2.2 (prepareIntent_built _ _ _ _) ran

/-- The round is written once, with a deadline for its transport. -/
theorem demoWritten_deadline :
    demoWritten.map (fun record => record.result.idleDisconnectAt) =
      [Duration.second + Duration.minute] := by
  decide +kernel

theorem demo_rounds_durable :
    demoWritten.length = 1 ∧
      demoWritten.map (fun record => demoPrepared.2.1.lockRound demoCodec record.key) =
        demoWritten.map fun record => .ok (persisted record) := by
  refine ⟨?_, List.map_congr_left (server_rounds_durable demoCreated_served demoPrepared_step).2.1⟩
  have deadline := congrArg List.length demoWritten_deadline
  rwa [List.length_map] at deadline

/-- A record is not read back as it was written: besides the transport generation
of its request, the deadline in its result is gone. -/
theorem deadline_not_read_back :
    Served demoSettings demoCreated ∧
      ServerStep demoSettings demoCreated demoWritten demoPrepared.2.1 ∧
      ∃ record ∈ demoWritten, ∀ generation,
        demoPrepared.2.1.lockRound demoCodec record.key ≠
          .ok { record with
            request := { record.request with transportGeneration := generation } } := by
  refine ⟨demoCreated_served, demoPrepared_step, ?_⟩
  have read := (demoPrepared_step.stored demoCreated_served.healthy.1).written
  have deadline := demoWritten_deadline
  cases only : demoWritten with
  | nil =>
      rw [only] at deadline
      cases deadline
  | cons record rest =>
      rw [only, List.map_cons, List.cons.injEq] at deadline
      refine ⟨record, by simp, fun generation same => ?_⟩
      have spelled : demoPrepared.2.1.lockRound demoCodec record.key = .ok (persisted record) :=
        read record (by simp [only])
      rw [spelled, Except.ok.injEq] at same
      have gone := congrArg (fun record => record.result.idleDisconnectAt) same
      simp only [persisted, deadline.1] at gone
      exact absurd gone (by decide)

end SlotsGame.Postgres
