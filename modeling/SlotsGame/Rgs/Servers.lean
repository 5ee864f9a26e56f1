/-
# SlotsGame.Rgs.Servers -- any number of coordinators over one store

A thread runs a request of a player, the recovery of one round, or one claim of a pass
of the recovery worker; sessions, transports and deliveries are served in between.  A
call may fail before it is made, and its reply may be lost after it was.  What the
wallet answers is left open.
-/
import SlotsGame.Rgs.Contract
import SlotsGame.Rgs.Errands

namespace SlotsGame.Rgs

open SlotsGame.Theory

set_option autoImplicit false

variable {ω : Type}

/-- What the threads share: the store, and what its generator consults. -/
structure Shared (repository : Repository ω) where
  state : repository.State
  world : ω

/-- An error of the connection to the store. -/
def connectionError (detail : String) : RgsError := { kind := .storage, detail := detail }

/-- One action, its reply and its effect. -/
inductive Performs (repository : Repository ω) : Shared repository →
    (action : CoordinatorAction ω) → action.Reply → Shared repository → Prop
  | answered {env : repository.Env} {call : RepositoryCall ω} {state after : repository.State}
      {world world' : ω} {reply : Except RgsError call.Reply}
      (ran : repository.run env call state world = (reply, after, world')) :
      Performs repository ⟨state, world⟩ (.store call) reply ⟨after, world'⟩
  | lost {env : repository.Env} {call : RepositoryCall ω} {state after : repository.State}
      {world world' : ω} {reply : Except RgsError call.Reply} (detail : String)
      (ran : repository.run env call state world = (reply, after, world')) :
      Performs repository ⟨state, world⟩ (.store call) (.error (connectionError detail))
        ⟨after, world'⟩
  | refused (shared : Shared repository) (call : RepositoryCall ω) (detail : String) :
      Performs repository shared (.store call) (.error (connectionError detail)) shared
  | profile (shared : Shared repository) (operatorID : String)
      (reply : Except RgsError Profile) :
      Performs repository shared (.profileFor operatorID) reply shared
  | submit (shared : Shared repository) (command : WalletRound) :
      Performs repository shared (.submit command) () shared
  | submitted (shared : Shared repository) (command : WalletRound) (resolution : Resolution) :
      Performs repository shared (.submitted command) resolution shared
  | resolve (shared : Shared repository) (reference : WalletRound) :
      Performs repository shared (.resolve reference) () shared
  | resolved (shared : Shared repository) (reference : WalletRound) (resolution : Resolution) :
      Performs repository shared (.resolved reference) resolution shared

abbrev CoordinatorThread (ω : Type) := Thread (coordinatorInterface ω) Errand

/-- A thread that runs `program` and drops its result. -/
def threadOf {α : Type} (errand : Errand) (program : CoordinatorProgram ω α) :
    CoordinatorThread ω :=
  { phase := errand, program := program >>= fun _ => pure () }

/-- The calls that sessions, transports and deliveries are served with. -/
def RepositoryCall.Outside : RepositoryCall ω → Prop
  | .createSession _ | .getSession _ | .authorizeSessionRelaunch _ | .resetSessionTransport _ _
  | .authorizeSessionTransport _ _ _ | .getRound _ | .getPendingResultDelivery _
  | .acknowledgeResultDelivery _ => True
  | _ => False

/-- How a pass settles its claims: the settings of its worker, and its jitter. -/
structure PassSettings where
  backoff : RecoveryBackoff
  fullJitter : WalletRecoveryClaim → Duration → Duration

/-- Which threads start together. -/
inductive Starts (coordinator : Coordinator ω) (repository : Repository ω) :
    Shared repository → List (CoordinatorThread ω) → Shared repository → Prop
  | spin (shared : Shared repository) (waits : List (Option RgsError)) (request : SpinRequest) :
      Starts coordinator repository shared [threadOf {} (coordinator.spin waits request)] shared
  | reconcile (shared : Shared repository) (key : RoundKey) :
      Starts coordinator repository shared [threadOf {} (coordinator.reconcile key)] shared
  | pass {env : repository.Env} {limit : Int} {leaseDuration : Duration}
      {state after : repository.State} {world world' : ω}
      {reply : Except RgsError (List WalletRecoveryClaim)} (settings : PassSettings)
      (ran : repository.run env (.claimRecoverableRounds limit leaseDuration) state world =
        (reply, after, world')) :
      Starts coordinator repository ⟨state, world⟩
        (((RepositoryCall.claimRecoverableRounds limit leaseDuration : RepositoryCall ω).granted
          reply).map fun claim => threadOf (.of claim)
            (coordinator.processClaim settings.backoff (settings.fullJitter claim) claim))
        ⟨after, world'⟩
  | lostPass {env : repository.Env} {limit : Int} {leaseDuration : Duration}
      {state after : repository.State} {world world' : ω}
      {reply : Except RgsError (List WalletRecoveryClaim)}
      (ran : repository.run env (.claimRecoverableRounds limit leaseDuration) state world =
        (reply, after, world')) :
      Starts coordinator repository ⟨state, world⟩ [] ⟨after, world'⟩
  | served {env : repository.Env} {call : RepositoryCall ω} {state after : repository.State}
      {world world' : ω} {reply : Except RgsError call.Reply} (outside : call.Outside)
      (ran : repository.run env call state world = (reply, after, world')) :
      Starts coordinator repository ⟨state, world⟩ [] ⟨after, world'⟩

abbrev Servers (repository : Repository ω) :=
  Threads (coordinatorInterface ω) Errand (Shared repository)

/-- One step of the servers. -/
abbrev ServersStep (coordinator : Coordinator ω) (repository : Repository ω) :
    Servers repository → Servers repository → Prop :=
  Threads.Step (errandProtocol coordinator) (Performs repository) (Starts coordinator repository)

/-- The servers that runs from `initial` lead to. -/
abbrev ServersReach (coordinator : Coordinator ω) (repository : Repository ω)
    (initial : repository.State → Prop) : Servers repository → Prop :=
  Reachable (Threads.Idle fun shared => initial shared.state) (ServersStep coordinator repository)

theorem threadOf_conforms {coordinator : Coordinator ω} {α : Type} {errand : Errand}
    {program : CoordinatorProgram ω α}
    (conforms : program.Conforms (errandProtocol coordinator) errand fun _ _ => True) :
    (threadOf errand program).program.Conforms (errandProtocol coordinator)
      (threadOf errand program).phase fun _ _ => True :=
  conforms.bind fun _ _ _ => trivial

/-- Every thread of a server runs errands. -/
theorem Starts.conforms {coordinator : Coordinator ω} {repository : Repository ω}
    {shared after : Shared repository} {fresh : List (CoordinatorThread ω)}
    (starts : Starts coordinator repository shared fresh after) :
    ∀ thread ∈ fresh, thread.program.Conforms (errandProtocol coordinator) thread.phase
      fun _ _ => True := by
  intro thread member
  cases starts with
  | spin _ waits request =>
      rw [List.mem_singleton.mp member]
      exact threadOf_conforms (spin_conforms coordinator waits request)
  | reconcile _ key =>
      rw [List.mem_singleton.mp member]
      exact threadOf_conforms (reconcile_conforms coordinator key)
  | pass settings ran =>
      obtain ⟨claim, _, rfl⟩ := List.mem_map.mp member
      exact threadOf_conforms (processClaim_conforms coordinator _ _ claim)
  | lostPass ran => cases member
  | served outside ran => cases member

/-! ## Executions -/

/-- What decides one step of a thread. -/
structure Oracle (repository : Repository ω) where
  env : repository.Env
  profile : Except RgsError Profile
  resolution : Resolution

variable {repository : Repository ω}

/-- The reply to an action, and its effect. -/
def Oracle.respond (oracle : Oracle repository) (shared : Shared repository) :
    (action : CoordinatorAction ω) → action.Reply × Shared repository
  | .store call =>
      let (reply, after, world) := repository.run oracle.env call shared.state shared.world
      (reply, ⟨after, world⟩)
  | .profileFor _ => (oracle.profile, shared)
  | .submit _ => ((), shared)
  | .resolve _ => ((), shared)
  | .submitted _ => (oracle.resolution, shared)
  | .resolved _ => (oracle.resolution, shared)

theorem Oracle.respond_performs (oracle : Oracle repository) (shared : Shared repository)
    (action : CoordinatorAction ω) :
    Performs repository shared action (oracle.respond shared action).1
      (oracle.respond shared action).2 := by
  cases action with
  | store call => exact .answered rfl
  | profileFor operatorID => exact .profile shared operatorID oracle.profile
  | submit command => exact .submit shared command
  | submitted command => exact .submitted shared command oracle.resolution
  | resolve reference => exact .resolve shared reference
  | resolved reference => exact .resolved shared reference oracle.resolution

/-- A thread is answered its next action, if it has one. -/
def Servers.turn (system : Servers repository) (index : Nat) (oracle : Oracle repository) :
    Servers repository :=
  match system.threads[index]? with
  | some ⟨phase, .call action next⟩ =>
      let (reply, after) := oracle.respond system.shared action
      ⟨after, system.threads.set index ⟨phase.next action reply, next reply⟩⟩
  | _ => system

theorem Servers.turn_steps (coordinator : Coordinator ω) (system : Servers repository)
    (index : Nat) (oracle : Oracle repository) :
    Relation.ReflTransGen (ServersStep coordinator repository) system
      (Servers.turn system index oracle) := by
  unfold Servers.turn
  split
  · next phase action next found =>
    exact .single (.performed _ found (oracle.respond_performs system.shared action))
  · exact .refl

/-- Turns, one after the other. -/
def Servers.turns (system : Servers repository) (schedule : List (Nat × Oracle repository)) :
    Servers repository :=
  schedule.foldl (fun system turn => Servers.turn system turn.1 turn.2) system

theorem Servers.turns_steps (coordinator : Coordinator ω) (system : Servers repository)
    (schedule : List (Nat × Oracle repository)) :
    Relation.ReflTransGen (ServersStep coordinator repository) system
      (Servers.turns system schedule) := by
  induction schedule generalizing system with
  | nil => exact .refl
  | cons turn rest ih =>
      exact (Servers.turn_steps coordinator system turn.1 turn.2).trans (ih _)

end SlotsGame.Rgs
