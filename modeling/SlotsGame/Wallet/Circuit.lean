/-
# SlotsGame.Wallet.Circuit -- the circuit breaker of a wallet lane

`CircuitBreaker` is the source's record, and `acquire`, `complete` and `cancel` its
three operations.  Each holds the mutex from its first read to its last write, so any
number of callers interleave as a sequence of `CircuitCall`s.

A permit outlives the state it was granted in: what a late completion may do is
decided by the generation it carries.  A `Circuit` therefore keeps every permit that
was handed out, and beside the source's `uint64` generation the number of state
changes so far (`epoch`) and what the permits of the present one were completed with
(`outcomes`); no operation reads these two.
-/
import SlotsGame.Rgs.Types
import SlotsGame.Theory.Counting
import SlotsGame.Theory.Runs

namespace SlotsGame.Wallet

open SlotsGame.Rgs SlotsGame.Theory

set_option autoImplicit false

/-! ## The breaker -/

inductive CircuitState
  | closed | opened | halfOpen
  deriving DecidableEq, Repr

structure CircuitConfig where
  failureThreshold : Int
  successThreshold : Int
  openDuration : Duration
  halfOpenMaxInFlight : Int
  deriving DecidableEq

/-- The part of `IsolationConfig.validate` that a breaker relies on. -/
structure CircuitConfig.Valid (config : CircuitConfig) : Prop where
  failures : 1 ≤ config.failureThreshold
  successes : 1 ≤ config.successThreshold
  probes : 1 ≤ config.halfOpenMaxInFlight
  duration : 0 < config.openDuration

structure CircuitBreaker where
  config : CircuitConfig
  state : CircuitState
  generation : UInt64
  openedAt : Time
  consecutiveFailures : Int
  consecutiveSuccess : Int
  halfOpenInFlight : Int
  deriving DecidableEq

structure CircuitPermit where
  generation : UInt64
  state : CircuitState
  deriving DecidableEq

namespace CircuitBreaker

/-- `newCircuitBreaker` -/
def new (config : CircuitConfig) : CircuitBreaker :=
  { config := config, state := .closed, generation := 1, openedAt := 0
    consecutiveFailures := 0, consecutiveSuccess := 0, halfOpenInFlight := 0 }

/-- `transitionLocked` -/
def transition (breaker : CircuitBreaker) (next : CircuitState) (now : Time) : CircuitBreaker :=
  if breaker.state = next then breaker
  else
    { breaker with
      state := next, generation := breaker.generation + 1
      consecutiveFailures := 0, consecutiveSuccess := 0, halfOpenInFlight := 0
      openedAt := if next = .opened then now else breaker.openedAt }

/-- The open period is over. -/
def Elapsed (breaker : CircuitBreaker) (now : Time) : Prop :=
  now - breaker.openedAt ≥ breaker.config.openDuration

instance (breaker : CircuitBreaker) (now : Time) : Decidable (breaker.Elapsed now) :=
  inferInstanceAs (Decidable (_ ≥ _))

def acquire (breaker : CircuitBreaker) (now : Time) : Option CircuitPermit × CircuitBreaker :=
  let breaker :=
    if breaker.state = .opened ∧ breaker.Elapsed now then breaker.transition .halfOpen now
    else breaker
  if breaker.state = .opened ∨
      (breaker.state = .halfOpen ∧ breaker.halfOpenInFlight ≥ breaker.config.halfOpenMaxInFlight) then
    (none, breaker)
  else
    let breaker :=
      if breaker.state = .halfOpen then
        { breaker with halfOpenInFlight := breaker.halfOpenInFlight + 1 }
      else breaker
    (some { generation := breaker.generation, state := breaker.state }, breaker)

/-- What `complete` does the first time it is called on a permit. -/
def complete (breaker : CircuitBreaker) (permit : CircuitPermit) (success : Bool) (now : Time) :
    CircuitBreaker :=
  if permit.generation ≠ breaker.generation ∨ permit.state ≠ breaker.state then breaker
  else
    match breaker.state with
    | .closed =>
        if success then { breaker with consecutiveFailures := 0 }
        else
          let breaker := { breaker with consecutiveFailures := breaker.consecutiveFailures + 1 }
          if breaker.consecutiveFailures ≥ breaker.config.failureThreshold then
            breaker.transition .opened now
          else breaker
    | .halfOpen =>
        let breaker := { breaker with halfOpenInFlight := breaker.halfOpenInFlight - 1 }
        if !success then breaker.transition .opened now
        else
          let breaker := { breaker with consecutiveSuccess := breaker.consecutiveSuccess + 1 }
          if breaker.consecutiveSuccess ≥ breaker.config.successThreshold then
            breaker.transition .closed now
          else breaker
    | .opened => breaker

/-- What `cancel` does the first time it is called on a permit. -/
def cancel (breaker : CircuitBreaker) (permit : CircuitPermit) : CircuitBreaker :=
  if permit.generation = breaker.generation ∧ permit.state = .halfOpen ∧
      breaker.state = .halfOpen then
    { breaker with halfOpenInFlight := breaker.halfOpenInFlight - 1 }
  else breaker

end CircuitBreaker

/-! ## A breaker and the permits it handed out -/

/-- A permit, how often `once.Do` was called on it, the epoch it was granted in, and
what it was completed with. -/
structure Issued where
  permit : CircuitPermit
  once : Nat
  epoch : Nat
  verdict : Option Bool
  deriving DecidableEq

structure Circuit where
  breaker : CircuitBreaker
  permits : List Issued
  epoch : Nat
  outcomes : List Bool
  deriving DecidableEq

namespace Circuit

def new (config : CircuitConfig) : Circuit :=
  { breaker := CircuitBreaker.new config, permits := [], epoch := 0, outcomes := [] }

/-- The breaker after an operation; a change of state begins an epoch. -/
def become (circuit : Circuit) (breaker : CircuitBreaker) : Circuit :=
  if breaker.state = circuit.breaker.state then { circuit with breaker := breaker }
  else { circuit with breaker := breaker, epoch := circuit.epoch + 1, outcomes := [] }

/-- `acquire`, and the number of the permit it returns. -/
def acquire (circuit : Circuit) (now : Time) : Option Nat × Circuit :=
  let reply := circuit.breaker.acquire now
  let circuit := circuit.become reply.2
  match reply.1 with
  | none => (none, circuit)
  | some permit =>
      (some circuit.permits.length,
        { circuit with
          permits := circuit.permits ++
            [{ permit := permit, once := 0, epoch := circuit.epoch, verdict := none }] })

/-- One more call of `once.Do` on a permit. -/
def mark (circuit : Circuit) (id : Nat) (issued : Issued) (verdict : Option Bool) : Circuit :=
  { circuit with
    permits := circuit.permits.set id { issued with once := issued.once + 1, verdict := verdict } }

/-- `permit.once.Do`; a permit that was never handed out is the nil pointer. -/
def settle (circuit : Circuit) (id : Nat) (first : Issued → Circuit) : Circuit :=
  match circuit.permits[id]? with
  | none => circuit
  | some issued =>
      if issued.once = 0 then first issued else circuit.mark id issued issued.verdict

def complete (circuit : Circuit) (id : Nat) (success : Bool) (now : Time) : Circuit :=
  circuit.settle id fun issued =>
    let circuit := circuit.mark id issued (some success)
    let circuit :=
      if issued.epoch = circuit.epoch then { circuit with outcomes := success :: circuit.outcomes }
      else circuit
    circuit.become (circuit.breaker.complete issued.permit success now)

def cancel (circuit : Circuit) (id : Nat) : Circuit :=
  circuit.settle id fun issued =>
    let circuit := circuit.mark id issued none
    circuit.become (circuit.breaker.cancel issued.permit)

end Circuit

inductive CircuitCall
  | acquire (now : Time)
  | complete (permit : Nat) (success : Bool) (now : Time)
  | cancel (permit : Nat)
  deriving DecidableEq

def Circuit.call (circuit : Circuit) : CircuitCall → Circuit
  | .acquire now => (circuit.acquire now).2
  | .complete permit success now => circuit.complete permit success now
  | .cancel permit => circuit.cancel permit

/-! ## Runs -/

/-- The permit was granted in the present epoch and is not settled yet. -/
def Issued.outstanding (epoch : Nat) (issued : Issued) : Bool :=
  issued.once == 0 && issued.epoch == epoch

/-- The permit was granted in an epoch and completed with success. -/
def Issued.succeeded (epoch : Nat) (issued : Issued) : Bool :=
  issued.verdict == some true && issued.epoch == epoch

/-- The outstanding permits of the present epoch. -/
def Circuit.outstanding (circuit : Circuit) : Nat :=
  circuit.permits.countP (Issued.outstanding circuit.epoch)

/-- No permit is held while the breaker changes its state 2^64 times: the generations
of the outstanding permits have not wrapped. -/
def Circuit.Fresh (circuit : Circuit) : Prop :=
  ∀ issued ∈ circuit.permits, issued.once = 0 → circuit.epoch < issued.epoch + 2 ^ 64

/-- The circuits that any sequence of calls leads to. -/
def Circuit.Run (config : CircuitConfig) : Circuit → Prop :=
  Reachable (fun circuit => circuit = Circuit.new config)
    fun circuit after => ∃ call, after = circuit.call call ∧ after.Fresh

end SlotsGame.Wallet
