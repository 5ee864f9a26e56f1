/-
# SlotsGame.Wallet.Isolation -- the bulkheads and breakers around a wallet

Every call of an isolated wallet takes the same way: a permit of the backend's
breaker and one of the operator's, a slot of each, the inner wallet, and back.  A call
is a program counter (`Stage`), and one step is one operation on a shared channel or
breaker, so that the steps of any number of calls interleave.  The registry makes the
compartments of a backend or of an operator when the first wallet is wrapped; here
every compartment is there from the start, unused.
-/
import SlotsGame.Wallet.Accounting
import SlotsGame.Wallet.Http

namespace SlotsGame.Wallet

open SlotsGame.Rgs SlotsGame.Theory

set_option autoImplicit false

/-! ## Configuration -/

structure IsolationConfig where
  backendApplyMaxInFlight : Int
  backendLookupMaxInFlight : Int
  operatorApplyMaxInFlight : Int
  operatorLookupMaxInFlight : Int
  failureThreshold : Int
  successThreshold : Int
  openDuration : Duration
  halfOpenMaxInFlight : Int
  deriving DecidableEq

def IsolationConfig.validate (config : IsolationConfig) : Except String Unit :=
  if config.backendApplyMaxInFlight < 1 ∨ config.backendApplyMaxInFlight > 10000 ∨
      config.backendLookupMaxInFlight < 1 ∨ config.backendLookupMaxInFlight > 10000 ∨
      config.operatorApplyMaxInFlight < 1 ∨ config.operatorApplyMaxInFlight > 10000 ∨
      config.operatorLookupMaxInFlight < 1 ∨ config.operatorLookupMaxInFlight > 10000 then
    .error "wallet isolation: in-flight limits must be between 1 and 10000"
  else if config.failureThreshold < 1 ∨ config.failureThreshold > 10000 ∨
      config.successThreshold < 1 ∨ config.successThreshold > 10000 ∨
      config.halfOpenMaxInFlight < 1 ∨ config.halfOpenMaxInFlight > 10000 then
    .error "wallet isolation: circuit thresholds must be between 1 and 10000"
  else if config.openDuration ≤ 0 ∨ config.openDuration > Duration.hour then
    .error "wallet isolation: open duration must be positive and no more than one hour"
  else .ok ()

/-- The breakers that `WrapPorts` makes. -/
def IsolationConfig.circuit (config : IsolationConfig) : CircuitConfig :=
  { failureThreshold := config.failureThreshold, successThreshold := config.successThreshold
    openDuration := config.openDuration, halfOpenMaxInFlight := config.halfOpenMaxInFlight }

inductive Lane
  | apply | lookup
  deriving DecidableEq, Repr

/-- A pair of a channel of slots and a breaker. -/
inductive Compartment
  | backend (key : String) (lane : Lane)
  | operator (id : String) (lane : Lane)
  deriving DecidableEq, Repr

/-- The capacity of the channel. -/
def IsolationConfig.capacity (config : IsolationConfig) : Compartment → Int
  | .backend _ .apply => config.backendApplyMaxInFlight
  | .backend _ .lookup => config.backendLookupMaxInFlight
  | .operator _ .apply => config.operatorApplyMaxInFlight
  | .operator _ .lookup => config.operatorLookupMaxInFlight

/-! ## Errors and replies -/

/-- The errors that are told apart with `errors.Is`. -/
inductive Sentinel
  | isolationRejected | responseAuthentication
  | rgs (kind : ErrorKind)
  deriving DecidableEq

/-- An error: its text, and the sentinels in its tree. -/
structure WalletError where
  text : String
  sentinels : List Sentinel
  deriving DecidableEq

/-- `errors.Is`; a nil error is nothing. -/
def isError (err : Option WalletError) (sentinel : Sentinel) : Bool :=
  match err with
  | none => false
  | some err => err.sentinels.contains sentinel

/-- `rgs.Resolution`, with the error that caused it. -/
structure PortResolution where
  status : ResolutionStatus
  receipt : WalletReceipt := WalletReceipt.zero
  code : String := ""
  cause : Option WalletError := none
  deriving DecidableEq

inductive Method
  | submitRound | resolve | lookup | applyRound | rollback
  deriving DecidableEq, Repr

/-- What a method of the wallet returns. -/
inductive Reply
  | resolution (result : PortResolution)
  | receipt (receipt : WalletReceipt) (err : Option WalletError)
  | found (receipt : WalletReceipt) (found : Bool) (err : Option WalletError)
  deriving DecidableEq

def Method.lane : Method → Lane
  | .submitRound | .applyRound | .rollback => .apply
  | .resolve | .lookup => .lookup

/-- The name of the method in metrics and errors. -/
def Method.name : Method → String
  | .submitRound | .applyRound => "apply"
  | .resolve | .lookup => "lookup"
  | .rollback => "rollback"

/-- The methods of `rgs.WalletResolutionPort`. -/
def Method.resolves : Method → Bool
  | .submitRound | .resolve => true
  | _ => false

/-- The replies of a method. -/
def Method.returns : Method → Reply → Bool
  | .submitRound, .resolution _ | .resolve, .resolution _ => true
  | .lookup, .found _ _ _ => true
  | .applyRound, .receipt _ _ | .rollback, .receipt _ _ => true
  | _, _ => false

def rejectionBackendBulkhead : String := "backend_bulkhead"
def rejectionOperatorBulkhead : String := "operator_bulkhead"
def rejectionCircuit : String := "circuit"

/-- `IsolationError` -/
def isolationError (method reason : String) : WalletError :=
  { text := "wallet " ++ method ++ " rejected by " ++ reason
    sentinels := [.isolationRejected, .rgs .walletUnavailable] }

/-- `rejectedResolution`, or `reject` where the method returns an error. -/
def Method.reject (method : Method) (reason : String) : Reply :=
  let err := isolationError method.name reason
  match method with
  | .submitRound | .resolve => .resolution { status := .notSent, cause := some err }
  | .lookup => .found WalletReceipt.zero false (some err)
  | .applyRound | .rollback => .receipt WalletReceipt.zero (some err)

/-- The reply of a wallet that has no resolution port. -/
def unresolved : Reply :=
  .resolution
    { status := .notSent
      cause := some { text := "rgs: wallet unavailable", sentinels := [.rgs .walletUnavailable] } }

/-! ## Classification -/

/-- What a result says: its name, and whether the backend and the operator are healthy. -/
structure Verdict where
  outcome : String
  backendHealthy : Bool
  operatorHealthy : Bool
  deriving DecidableEq

def classifyWalletOutcome (err : Option WalletError) : Verdict :=
  if err = none then ⟨"success", true, true⟩
  else if isError err (.rgs .walletPending) then ⟨"pending", true, true⟩
  else if isError err (.rgs .walletRejected) then ⟨"rejected", true, true⟩
  else if isError err (.rgs .idempotencyConflict) then ⟨"conflict", true, true⟩
  else if isError err (.rgs .walletReceiptInvalid) then ⟨"invalid", true, false⟩
  else ⟨"unknown", false, true⟩

def classifyResolution (result : PortResolution) : Verdict :=
  match result.status with
  | .succeeded => ⟨"success", true, true⟩
  | .rejectedFinal => ⟨"rejected", true, true⟩
  | .pending => ⟨"pending", true, true⟩
  | .notFound => ⟨"not_found", true, true⟩
  | .conflict =>
      if isError result.cause (.rgs .idempotencyConflict) then ⟨"conflict", true, true⟩
      else ⟨"invalid", true, false⟩
  | .notSent => ⟨"not_sent", true, true⟩
  | .unknown =>
      if isError result.cause .responseAuthentication then ⟨"response_auth_invalid", true, false⟩
      else ⟨"unknown", false, true⟩
  | .other _ => ⟨"invalid", true, false⟩

def classify : Reply → Verdict
  | .resolution result => classifyResolution result
  | .receipt _ err => classifyWalletOutcome err
  | .found _ found err =>
      let verdict := classifyWalletOutcome err
      if err = none ∧ found = false then { verdict with outcome := "not_found" } else verdict

/-! ## One call -/

structure IsolatedWallet where
  operatorID : String
  backendKey : String
  hasResolution : Bool
  deriving DecidableEq

/-- How far a call has come; the permits it was granted are numbers of the two breakers. -/
inductive Stage
  | entered
  | backendGranted (backend : Nat)
  | granted (backend operator : Nat)
  | backendAdmitted (backend operator : Nat)
  | admitted (backend operator : Nat)
  | calling (backend operator : Nat)
  | replied (backend operator : Nat) (reply : Reply)
  | operatorSettled (backend operator : Nat) (reply : Reply)
  | settled (backend operator : Nat) (reply : Reply)
  | operatorReleased (backend operator : Nat) (reply : Reply)
  | returned (backend operator : Nat) (reply : Reply)
  | operatorFull (backend operator : Nat)
  | withdrawing (backend operator : Nat) (reason : String)
  | operatorWithdrawn (backend : Nat) (reason : String)
  | rejected (reason : String)
  deriving DecidableEq

/-- A call, and how often it called the inner wallet. -/
structure Call where
  wallet : IsolatedWallet
  method : Method
  stage : Stage
  asked : Nat
  deriving DecidableEq

namespace Call

def backend (call : Call) : Compartment := .backend call.wallet.backendKey call.method.lane

def operator (call : Call) : Compartment := .operator call.wallet.operatorID call.method.lane

/-- What the caller is given. -/
def reply (call : Call) : Option Reply :=
  match call.stage with
  | .returned _ _ reply => some reply
  | .rejected reason => some (call.method.reject reason)
  | _ => none

/-- The call has not returned. -/
def running (call : Call) : Bool := call.reply.isNone

end Call

/-! ## The system -/

structure Isolation where
  config : IsolationConfig
  circuits : Compartment → Circuit
  slots : Compartment → Nat
  calls : List Call

namespace Isolation

def new (config : IsolationConfig) : Isolation :=
  { config := config, circuits := fun _ => Circuit.new config.circuit
    slots := fun _ => 0, calls := [] }

variable (system : Isolation)

def setCircuit (compartment : Compartment) (circuit : Circuit) : Isolation :=
  { system with circuits := Function.update system.circuits compartment circuit }

def setSlots (compartment : Compartment) (count : Nat) : Isolation :=
  { system with slots := Function.update system.slots compartment count }

/-- A call goes on. -/
def goto (id : Nat) (call : Call) (stage : Stage) : Isolation :=
  { system with calls := system.calls.set id { call with stage := stage } }

/-- `tryAcquire`, and the two ways on. -/
def tryAcquire (compartment : Compartment) (id : Nat) (call : Call) (admitted full : Stage) :
    Isolation :=
  if (system.slots compartment : Int) < system.config.capacity compartment then
    (system.setSlots compartment (system.slots compartment + 1)).goto id call admitted
  else system.goto id call full

/-- `release`; receiving from an empty channel blocks. -/
def release (compartment : Compartment) (id : Nat) (call : Call) (next : Stage) :
    Option Isolation :=
  if system.slots compartment = 0 then none
  else some ((system.setSlots compartment (system.slots compartment - 1)).goto id call next)

/-- `acquire` on a breaker, and the two ways on. -/
def acquire (compartment : Compartment) (now : Time) (id : Nat) (call : Call)
    (granted : Nat → Stage) (refused : Stage) : Isolation :=
  let reply := (system.circuits compartment).acquire now
  (system.setCircuit compartment reply.2).goto id call (reply.1.elim refused granted)

/-- The next operation of a call at a reading of the clock; none where it waits. -/
def advance (id : Nat) (call : Call) (now : Time) : Option Isolation :=
  match call.stage with
  | .entered =>
      some (system.acquire call.backend now id call .backendGranted (.rejected rejectionCircuit))
  | .backendGranted backend =>
      some (system.acquire call.operator now id call (.granted backend)
        (.operatorWithdrawn backend rejectionCircuit))
  | .granted backend operator =>
      some (system.tryAcquire call.backend id call (.backendAdmitted backend operator)
        (.withdrawing backend operator rejectionBackendBulkhead))
  | .backendAdmitted backend operator =>
      some (system.tryAcquire call.operator id call (.admitted backend operator)
        (.operatorFull backend operator))
  | .operatorFull backend operator =>
      system.release call.backend id call
        (.withdrawing backend operator rejectionOperatorBulkhead)
  | .withdrawing backend operator reason =>
      some ((system.setCircuit call.operator ((system.circuits call.operator).cancel operator)).goto
        id call (.operatorWithdrawn backend reason))
  | .operatorWithdrawn backend reason =>
      some ((system.setCircuit call.backend ((system.circuits call.backend).cancel backend)).goto
        id call (.rejected reason))
  | .admitted backend operator =>
      if call.method.resolves = true ∧ call.wallet.hasResolution = false then
        some (system.goto id call (.replied backend operator unresolved))
      else
        some (system.goto id { call with asked := call.asked + 1 } (.calling backend operator))
  | .replied backend operator reply =>
      some ((system.setCircuit call.operator ((system.circuits call.operator).complete operator
        (classify reply).operatorHealthy now)).goto id call (.operatorSettled backend operator reply))
  | .operatorSettled backend operator reply =>
      some ((system.setCircuit call.backend ((system.circuits call.backend).complete backend
        (classify reply).backendHealthy now)).goto id call (.settled backend operator reply))
  | .settled backend operator reply =>
      system.release call.operator id call (.operatorReleased backend operator reply)
  | .operatorReleased backend operator reply =>
      system.release call.backend id call (.returned backend operator reply)
  | .calling _ _ | .returned _ _ _ | .rejected _ => none

end Isolation

inductive IsolationAction
  | begin (wallet : IsolatedWallet) (method : Method)
  | advance (id : Nat) (now : Time)
  | answer (id : Nat) (reply : Reply)
  deriving DecidableEq

/-- One step: a call begins, goes on, or is answered by the inner wallet. -/
def Isolation.perform (system : Isolation) : IsolationAction → Option Isolation
  | .begin wallet method =>
      some { system with
        calls := system.calls ++
          [{ wallet := wallet, method := method, stage := .entered, asked := 0 }] }
  | .advance id now => (system.calls[id]?).bind fun call => system.advance id call now
  | .answer id reply =>
      (system.calls[id]?).bind fun call =>
        match call.stage with
        | .calling backend operator =>
            if call.method.returns reply then
              some (system.goto id call (.replied backend operator reply))
            else none
        | _ => none

/-- The steps of a schedule, one after another. -/
def Isolation.performAll (system : Isolation) (actions : List IsolationAction) : Option Isolation :=
  actions.foldlM Isolation.perform system

/-- The states that any interleaving of calls leads to. -/
def Isolation.Run (config : IsolationConfig) : Isolation → Prop :=
  Reachable (fun system => system = Isolation.new config)
    fun system after => ∃ action, system.perform action = some after

/-- No permit outlasts 2^64 changes of its breaker's state. -/
def Isolation.Fresh (system : Isolation) : Prop :=
  ∀ compartment, (system.circuits compartment).Fresh

/-- A run in which no generation of an outstanding permit wraps. -/
def Isolation.FreshRun (config : IsolationConfig) : Isolation → Prop :=
  Reachable (fun system => system = Isolation.new config)
    fun system after => ∃ action, system.perform action = some after ∧ after.Fresh

end SlotsGame.Wallet
