/-
# SlotsGame.Assets.Packages -- the streaming package manager

`Manager` is the state of a `StreamingAssetPackageManager`: the runtime of each
package, and every promise that its calls have made.  A call of the code runs up to its
next `await` without interruption; the model takes it in smaller pieces, and lets a
reaction of a settled promise run at any later time and in any order.  Every
interleaving of the code is one of the model.

* an `Attempt` is one `loadWithDependencies` with the `then`, `catch` and `finally` that
  `load` hangs on it;
* a `Load` is the promise that one call of `load` returned, with the `finally` of
  `joinInFlight`;
* a `ResourceLoad` is the work on one resource of an attempt; it outlives the attempt when a
  sibling fails first;
* an `Acquisition` is one call of `acquire` or `acquireStage`, and its lease.

What the network, the decoders and the progress callback do is the argument of the
action.
-/
import Mathlib.Algebra.GroupWithZero.Nat
import Mathlib.Algebra.Order.Ring.Rat
import Mathlib.Logic.Function.Basic
import SlotsGame.Assets.Manifest

namespace SlotsGame.Assets

set_option autoImplicit false

/-! ## The state -/

/-- `AssetPackageAbortedError`, or any other error by its message. -/
inductive LoadError
  | aborted
  | other (message : String)
  deriving DecidableEq, Repr

/-- How a promise settles: fulfilled, or rejected with an error. -/
abbrev Outcome := Option LoadError

inductive AssetPackageState
  | unrequested | fetching | decoding | ready | failed | cancelled
  deriving DecidableEq, Repr

/-- `MutablePackageRuntime`.  `inFlight` names the attempt, whose controller is
`inFlightController`; `ready` names the attempt that made the package. -/
structure PackageRuntime where
  state : AssetPackageState := .unrequested
  progress : ℚ := 0
  error : Option LoadError := none
  inFlight : Option Nat := none
  callers : List Nat := []
  cancelWhenUnobserved : Bool := false
  ready : Option Nat := none
  pendingReferences : Nat := 0
  activeReferences : Nat := 0
  deriving DecidableEq

/-- A signal of the application, or the controller of an attempt. -/
inductive AbortSignal
  | application (id : Nat)
  | controller (attempt : Nat)
  deriving DecidableEq

inductive AttemptPhase
  /-- Dependencies to load; the one it awaits, if any, is the first. -/
  | depending (rest : List String) (awaited : Option Nat)
  /-- The resources are being loaded. -/
  | loading
  /-- `loadWithDependencies` has settled. -/
  | returned (outcome : Outcome)
  /-- `then` or `catch` has run. -/
  | handled (outcome : Outcome)
  /-- `finally` has run. -/
  | settled (outcome : Outcome)
  deriving DecidableEq

structure Attempt where
  package : String
  aborted : Bool
  phase : AttemptPhase
  deriving DecidableEq

inductive LoadPhase
  | waiting
  /-- `awaitWithAbort` has settled; `finally` has not run. -/
  | caught (outcome : Outcome)
  | settled (outcome : Outcome)
  deriving DecidableEq

/-- `attempt` is `none` where the package was ready at the call. -/
structure Load where
  package : String
  attempt : Option Nat
  signal : Option AbortSignal
  phase : LoadPhase
  deriving DecidableEq

inductive ResourcePhase
  /-- In the queue of the semaphore. -/
  | queued
  /-- Between `acquire` and `release`. -/
  | holding
  | finished (outcome : Outcome)
  deriving DecidableEq

structure ResourceLoad where
  attempt : Nat
  bytes : Nat
  fraction : ℚ
  phase : ResourcePhase
  deriving DecidableEq

inductive AcquisitionPhase
  /-- Not settled; the targets that are yet to be loaded. -/
  | pending (targets : List String)
  | leased
  | released
  | failed
  deriving DecidableEq

/-- `staged` tells `acquireStage` from `acquire`. -/
structure Acquisition where
  targetIds : List String
  packageIds : List String
  signal : Option Nat
  staged : Bool
  loads : List Nat
  phase : AcquisitionPhase
  deriving DecidableEq

/-- The options of a manager that bear on ownership. -/
structure Options where
  manifest : ValidatedManifest
  concurrency : Nat
  maxRetainedBytes : Option Nat

structure Manager where
  runtimes : String → PackageRuntime
  attempts : List Attempt
  loads : List Load
  resources : List ResourceLoad
  /-- `AsyncSemaphore.active`. -/
  active : Nat
  /-- `AsyncSemaphore.queue`. -/
  queue : List Nat
  acquisitions : List Acquisition
  /-- The signals of the application that have been aborted. -/
  abortedSignals : List Nat

/-- The state the constructor leaves. -/
def Manager.initial : Manager where
  runtimes := fun _ => {}
  attempts := []
  loads := []
  resources := []
  active := 0
  queue := []
  acquisitions := []
  abortedSignals := []

/-! ## What an abort does to a promise -/

/-- `awaitWithAbort` when its signal aborts.  A package that was ready has no `finally`. -/
def Load.abort (signal : AbortSignal) (load : Load) : Load :=
  if load.phase = .waiting ∧ load.signal = some signal then
    { load with
      phase := if load.attempt.isSome then .caught (some .aborted) else .settled (some .aborted) }
  else load

/-- The listener of a queued resource. -/
def ResourceLoad.abort (a : Nat) (resource : ResourceLoad) : ResourceLoad :=
  if resource.attempt = a ∧ resource.phase = .queued then
    { resource with phase := .finished (some .aborted) }
  else resource

namespace Manager

/-! ## Updates -/

def updateRuntime (s : Manager) (id : String) (change : PackageRuntime → PackageRuntime) : Manager :=
  { s with runtimes := Function.update s.runtimes id (change (s.runtimes id)) }

def setPhase (s : Manager) (a : Nat) (phase : AttemptPhase) : Manager :=
  { s with attempts := s.attempts.modify a fun attempt => { attempt with phase := phase } }

def setLoad (s : Manager) (l : Nat) (phase : LoadPhase) : Manager :=
  { s with loads := s.loads.modify l fun load => { load with phase := phase } }

def attemptAborted (s : Manager) (a : Nat) : Bool := (s.attempts[a]?.map Attempt.aborted).getD false

def signalAborted (s : Manager) : Option AbortSignal → Bool
  | none => false
  | some (.application id) => id ∈ s.abortedSignals
  | some (.controller a) => s.attemptAborted a

/-! ## References -/

def packageBytes (options : Options) (id : String) : Nat :=
  match specOf options.manifest.packages id with
  | some entry => (entry.resources.map AssetPackageResourceSpec.bytes).sum
  | none => 0

/-- `pendingReferences > 0 || activeReferences > 0`. -/
def referenced (s : Manager) (id : String) : Bool :=
  0 < (s.runtimes id).pendingReferences || 0 < (s.runtimes id).activeReferences

def retainedPayloadBytes (options : Options) (s : Manager) : Nat :=
  ((options.manifest.dependencyOrder.filter s.referenced).map (packageBytes options)).sum

/-- The bytes that `reserveReferences` compares with the ceiling. -/
def requiredBytes (options : Options) (s : Manager) (ids : List String) : Nat :=
  ((ids ++ options.manifest.dependencyOrder.filter fun id => s.referenced id && id ∉ ids).map
    (packageBytes options)).sum

/-- One change of the runtime of every id. -/
def forEach (change : PackageRuntime → PackageRuntime) (ids : List String) (s : Manager) : Manager :=
  ids.foldl (fun s id => s.updateRuntime id change) s

/-- `none` is `AssetPackageCapacityError`. -/
def reserveReferences (options : Options) (ids : List String) (s : Manager) : Option Manager :=
  let fits := match options.maxRetainedBytes with
    | none => true
    | some limit => requiredBytes options s ids ≤ limit
  if fits then
    some (s.forEach (fun runtime =>
      { runtime with pendingReferences := runtime.pendingReferences + 1 }) ids)
  else none

def activateReferences (ids : List String) (s : Manager) : Manager :=
  s.forEach (fun runtime =>
    { runtime with
      pendingReferences := runtime.pendingReferences - 1
      activeReferences := runtime.activeReferences + 1 }) ids

def evictIfUnowned (runtime : PackageRuntime) : PackageRuntime :=
  if 0 < runtime.activeReferences ∨ 0 < runtime.pendingReferences ∨ runtime.inFlight.isSome then
    runtime
  else { runtime with ready := none, state := .unrequested, progress := 0, error := none }

def rollbackOne (runtime : PackageRuntime) : PackageRuntime :=
  let after := { runtime with pendingReferences := runtime.pendingReferences - 1 }
  if after.ready.isSome then evictIfUnowned after else after

def rollbackPendingReferences (ids : List String) (s : Manager) : Manager :=
  s.forEach rollbackOne ids.reverse

def releaseOne (runtime : PackageRuntime) : PackageRuntime :=
  evictIfUnowned { runtime with activeReferences := runtime.activeReferences - 1 }

/-- The loop of `releaseReferences`; the error is the package whose count would go below
zero. -/
def releaseEach : List String → Manager → Manager × Option String
  | [], s => (s, none)
  | id :: ids, s =>
      if (s.runtimes id).activeReferences = 0 then (s, some id)
      else releaseEach ids (s.updateRuntime id releaseOne)

def releaseReferences (ids : List String) (s : Manager) : Manager × Option String :=
  releaseEach ids.reverse s

/-! ## Aborts -/

/-- `controller.abort()`, with the listeners of its signal. -/
def abortAttempt (s : Manager) (a : Nat) : Manager :=
  { s with
    attempts := s.attempts.modify a fun attempt => { attempt with aborted := true }
    loads := s.loads.map (Load.abort (.controller a))
    resources := s.resources.map (ResourceLoad.abort a)
    queue := s.queue.filter fun n => (s.resources[n]?.map ResourceLoad.attempt) ≠ some a }

/-- The application aborts a signal of its own. -/
def abortSignal (s : Manager) (id : Nat) : Manager :=
  { s with
    loads := s.loads.map (Load.abort (.application id))
    abortedSignals := id :: s.abortedSignals }

/-! ## `load` -/

/-- The promise a call of `load` returns. -/
def pushLoad (s : Manager) (load : Load) : Manager := { s with loads := s.loads ++ [load] }

/-- `joinInFlight` on attempt `a`.  A signal that has aborted rejects at once. -/
def joinInFlight (s : Manager) (id : String) (a : Nat) (signal : Option AbortSignal) : Manager :=
  (s.updateRuntime id fun runtime =>
      { runtime with callers := runtime.callers ++ [s.loads.length] }).pushLoad
    { package := id
      attempt := some a
      signal := signal
      phase := if s.signalAborted signal then .caught (some .aborted) else .waiting }

/-- A new attempt, and the join on it. -/
def startLoad (options : Options) (s : Manager) (id : String) (signal : Option AbortSignal) :
    Manager :=
  let started : Manager := { s with
    attempts := s.attempts ++ [
      { package := id
        aborted := false
        phase := .depending (dependenciesOf options.manifest.packages id) none }] }
  (started.updateRuntime id fun runtime =>
      { runtime with
        callers := if runtime.inFlight.isSome then [] else runtime.callers
        state := .unrequested
        progress := 0
        error := none
        inFlight := some s.attempts.length
        cancelWhenUnobserved := signal.isSome }).joinInFlight id s.attempts.length signal

/-- The promise has the index `s.loads.length`. -/
def load (options : Options) (s : Manager) (id : String) (signal : Option AbortSignal) : Manager :=
  if (s.runtimes id).ready.isSome then
    s.pushLoad
      { package := id
        attempt := none
        signal := signal
        phase := if s.signalAborted signal then .settled (some .aborted) else .waiting }
  else match (s.runtimes id).inFlight with
    | some a =>
        if s.attemptAborted a then startLoad options s id signal
        else s.joinInFlight id a signal
    | none => startLoad options s id signal

/-! ## Acquisitions -/

def setAcquisition (s : Manager) (q : Nat) (acquisition : Acquisition) : Manager :=
  { s with acquisitions := s.acquisitions.set q acquisition }

/-- `acquire` and `acquireStage` up to the loads. -/
def beginAcquisition (options : Options) (s : Manager) (targetIds : List String) (staged : Bool)
    (signal : Option Nat) : Option Manager := do
  let packageIds := options.manifest.dependencyClosureIds targetIds
  let reserved ← s.reserveReferences options packageIds
  some { reserved with
    acquisitions := reserved.acquisitions ++ [
      { targetIds := targetIds
        packageIds := packageIds
        signal := signal
        staged := staged
        loads := []
        phase := .pending targetIds }] }

def acquire (options : Options) (s : Manager) (id : String) (signal : Option Nat) :
    Option Manager :=
  if id ∈ options.manifest.dependencyOrder then beginAcquisition options s [id] false signal
  else none

def stageOf (options : Options) (id : String) : Option AssetPackageStage :=
  (specOf options.manifest.packages id).map AssetPackageSpec.stage

def acquireStage (options : Options) (s : Manager) (stage : AssetPackageStage)
    (signal : Option Nat) : Option Manager :=
  let targetIds := options.manifest.dependencyOrder.filter fun id => stageOf options id = some stage
  if targetIds = [] then none else beginAcquisition options s targetIds true signal

/-- The next target is loaded. -/
def loadTarget (options : Options) (s : Manager) (q : Nat) : Option Manager := do
  let acquisition ← s.acquisitions[q]?
  match acquisition.phase with
  | .pending (target :: targets) =>
      some ((s.load options target (acquisition.signal.map .application)).setAcquisition q
        { acquisition with
          loads := acquisition.loads ++ [s.loads.length]
          phase := .pending targets })
  | _ => none

def loadOutcome (s : Manager) (l : Nat) : Option Outcome := do
  match (← s.loads[l]?).phase with
  | .settled outcome => some outcome
  | _ => none

def rollback (s : Manager) (q : Nat) (acquisition : Acquisition) : Manager :=
  (s.rollbackPendingReferences acquisition.packageIds).setAcquisition q
    { acquisition with phase := .failed }

/-- All the loads of an acquisition are fulfilled. -/
def fulfilled (s : Manager) (acquisition : Acquisition) : Bool :=
  acquisition.loads.all fun l => s.loadOutcome l = some none

/-- A load is rejected; or all are fulfilled, and the signal has aborted or a package of the
stage is not ready. -/
def fails (s : Manager) (acquisition : Acquisition) : Bool :=
  (acquisition.loads.any fun l => (s.loadOutcome l).any Option.isSome) ||
    (s.fulfilled acquisition &&
      (s.signalAborted (acquisition.signal.map .application) ||
        (acquisition.staged && acquisition.packageIds.any fun id => (s.runtimes id).ready.isNone)))

/-- The rest of `acquire` and `acquireStage`, once the loads are fulfilled or one of them is
rejected. -/
def settleAcquisition (s : Manager) (q : Nat) : Option Manager := do
  let acquisition ← s.acquisitions[q]?
  if acquisition.phase ≠ .pending [] then none
  else if s.fails acquisition then some (s.rollback q acquisition)
  else if s.fulfilled acquisition then
    some ((s.activateReferences acquisition.packageIds).setAcquisition q
      { acquisition with phase := .leased })
  else none

/-- `release` of a lease: what it returns, or the package whose count underflows. -/
def release (s : Manager) (q : Nat) : Option (Manager × Except String Bool) := do
  let acquisition ← s.acquisitions[q]?
  match acquisition.phase with
  | .leased =>
      let (after, underflow) := (s.setAcquisition q { acquisition with phase := .released }).releaseReferences
        acquisition.packageIds
      some (after, match underflow with | some id => .error id | none => .ok true)
  | .released => some (s, .ok false)
  | _ => none

/-! ## Attempts -/

/-- One resource of a package enters the semaphore. -/
def acquirePermit (limit : Nat) (a : Nat) (s : Manager) (bytes : Nat) : Manager :=
  if s.active < limit then
    { s with
      active := s.active + 1
      resources := s.resources ++ [
        { attempt := a, bytes := bytes, fraction := 0, phase := .holding }] }
  else
    { s with
      queue := s.queue ++ [s.resources.length]
      resources := s.resources ++ [
        { attempt := a, bytes := bytes, fraction := 0, phase := .queued }] }

/-- `loadResources` up to the semaphore. -/
def loadResources (options : Options) (s : Manager) (a : Nat) (id : String) : Manager :=
  let sizes := match specOf options.manifest.packages id with
    | some entry => entry.resources.map AssetPackageResourceSpec.bytes
    | none => []
  sizes.foldl (acquirePermit options.concurrency a)
    ((s.updateRuntime id fun runtime =>
      { runtime with state := .fetching, progress := 0, error := none }).setPhase a .loading)

/-- `loadWithDependencies` goes on to its next `await`. -/
def advance (options : Options) (s : Manager) (a : Nat) : Option Manager := do
  let attempt ← s.attempts[a]?
  match attempt.phase with
  | .depending (dependency :: rest) none =>
      some ((s.load options dependency (some (.controller a))).setPhase a
        (.depending (dependency :: rest) (some s.loads.length)))
  | .depending (_ :: rest) (some l) =>
      match ← s.loadOutcome l with
      | none => some (s.setPhase a (.depending rest none))
      | some error => some (s.setPhase a (.returned (some error)))
  | .depending [] _ =>
      if attempt.aborted then some (s.setPhase a (.returned (some .aborted)))
      else some (s.loadResources options a attempt.package)
  | _ => none

/-- The resources of an attempt. -/
def resourcesOf (s : Manager) (a : Nat) : List ResourceLoad :=
  s.resources.filter fun resource => resource.attempt = a

/-- `Promise.all` over the resources, and the end of `loadResources`. -/
def gather (s : Manager) (a : Nat) : Option Manager := do
  let attempt ← s.attempts[a]?
  if attempt.phase ≠ .loading then none
  else if (s.resourcesOf a).all fun resource => resource.phase = .finished none then
    some (s.setPhase a (.returned (if attempt.aborted then some .aborted else none)))
  else none

/-- `Promise.all` is rejected with the error of resource `n`. -/
def gatherFailure (s : Manager) (n : Nat) : Option Manager := do
  let resource ← s.resources[n]?
  let attempt ← s.attempts[resource.attempt]?
  match attempt.phase, resource.phase with
  | .loading, .finished (some error) => some (s.setPhase resource.attempt (.returned (some error)))
  | _, _ => none

/-- `1 - 1e-6`. -/
def runningMax : ℚ := 999999 / 1000000

/-- `then`; `thrown` is what the progress callback throws. -/
def complete (s : Manager) (a : Nat) (thrown : Option String) : Option Manager := do
  let attempt ← s.attempts[a]?
  if attempt.phase ≠ .returned none then none
  else if attempt.aborted then some (s.setPhase a (.returned (some .aborted)))
  else
    let after := s.updateRuntime attempt.package fun runtime =>
      { runtime with ready := some a, state := .ready, progress := 1, error := none }
    match thrown with
    | none => some (after.setPhase a (.handled none))
    | some message => some (after.setPhase a (.returned (some (.other message))))

/-- `catch`, with `normalizeLoadError`. -/
def fail (s : Manager) (a : Nat) (thrown : Option String) : Option Manager := do
  let attempt ← s.attempts[a]?
  match attempt.phase with
  | .returned (some cause) =>
      let error := if attempt.aborted then .aborted else cause
      some ((s.updateRuntime attempt.package fun runtime =>
        { runtime with
          state := if error = .aborted then .cancelled else .failed
          error := some error
          progress := min runtime.progress runningMax }).setPhase a
        (.handled (some ((thrown.map .other).getD error))))
  | _ => none

/-- `finally`. -/
def conclude (s : Manager) (a : Nat) : Option Manager := do
  let attempt ← s.attempts[a]?
  match attempt.phase with
  | .handled outcome =>
      some ((s.updateRuntime attempt.package fun runtime =>
        if runtime.inFlight = some a then
          { runtime with inFlight := none, callers := [], cancelWhenUnobserved := false }
        else runtime).setPhase a (.settled outcome))
  | _ => none

/-! ## Loads -/

/-- The promise that a load awaits has settled. -/
def deliver (s : Manager) (l : Nat) : Option Manager := do
  let load ← s.loads[l]?
  if load.phase ≠ .waiting then none
  else match load.attempt with
    | none => some (s.setLoad l (.settled none))
    | some a =>
        match (← s.attempts[a]?).phase with
        | .settled outcome => some (s.setLoad l (.caught outcome))
        | _ => none

/-- The `finally` of `joinInFlight`. -/
def leave (s : Manager) (l : Nat) : Option Manager := do
  let load ← s.loads[l]?
  match load.attempt, load.phase with
  | some a, .caught outcome =>
      let left := (s.updateRuntime load.package fun runtime =>
        { runtime with callers := runtime.callers.erase l }).setLoad l (.settled outcome)
      let runtime := left.runtimes load.package
      if runtime.inFlight = some a ∧ runtime.cancelWhenUnobserved ∧ s.signalAborted load.signal ∧
          runtime.callers = [] ∧ s.attemptAborted a = false then
        some (left.abortAttempt a)
      else some left
  | _, _ => none

/-! ## Resources -/

def clamp01 (value : ℚ) : ℚ := max 0 (min 1 value)

/-- `update` of a resource. -/
def updateProgress (s : Manager) (n : Nat) (resource : ResourceLoad) (package : String)
    (state : AssetPackageState) (fraction : ℚ) : Manager :=
  let resources := s.resources.set n
    { resource with fraction := max resource.fraction (clamp01 fraction) }
  let own := resources.filter fun other => other.attempt = resource.attempt
  let weighted := (own.map fun other => (other.bytes : ℚ) * other.fraction).sum
  let total := (own.map fun other => (other.bytes : ℚ)).sum
  { s with resources := resources }.updateRuntime package fun runtime =>
    { runtime with state := state, progress := min runningMax (weighted / total) }

/-- A resource that holds a permit reports progress. -/
def report (s : Manager) (n : Nat) (decoding : Bool) (fraction : ℚ) : Option Manager := do
  let resource ← s.resources[n]?
  let attempt ← s.attempts[resource.attempt]?
  if resource.phase ≠ .holding then none
  else some (s.updateProgress n resource attempt.package
    (if decoding then .decoding else .fetching) fraction)

/-- `release` of a permit: to the first in the queue, or back. -/
def releasePermit (s : Manager) : Manager :=
  match s.queue with
  | next :: rest =>
      { s with
        queue := rest
        resources := s.resources.modify next fun resource => { resource with phase := .holding } }
  | [] => { s with active := s.active - 1 }

/-- A resource is done.  It is not fulfilled once its attempt has been aborted. -/
def finish (s : Manager) (n : Nat) (outcome : Outcome) : Option Manager := do
  let resource ← s.resources[n]?
  let attempt ← s.attempts[resource.attempt]?
  if resource.phase ≠ .holding then none
  else match outcome with
    | some error =>
        some { s with
          resources := s.resources.set n { resource with phase := .finished (some error) } }.releasePermit
    | none =>
        if attempt.aborted then none
        else
          let updated := s.updateProgress n resource attempt.package .decoding 1
          some { updated with
            resources := updated.resources.modify n fun resource =>
              { resource with phase := .finished none } }.releasePermit

end Manager

/-! ## Runs -/

inductive Action
  | acquire (id : String) (signal : Option Nat)
  | acquireStage (stage : AssetPackageStage) (signal : Option Nat)
  | loadTarget (q : Nat)
  | settleAcquisition (q : Nat)
  | release (q : Nat)
  | abort (signal : Nat)
  | advance (a : Nat)
  | gather (a : Nat)
  | gatherFailure (n : Nat)
  | complete (a : Nat) (thrown : Option String)
  | fail (a : Nat) (thrown : Option String)
  | conclude (a : Nat)
  | deliver (l : Nat)
  | leave (l : Nat)
  | report (n : Nat) (decoding : Bool) (fraction : ℚ)
  | finish (n : Nat) (outcome : Outcome)
  deriving DecidableEq

/-- `none` where nothing is due. -/
def Manager.step (options : Options) (s : Manager) : Action → Option Manager
  | .acquire id signal => s.acquire options id signal
  | .acquireStage stage signal => s.acquireStage options stage signal
  | .loadTarget q => s.loadTarget options q
  | .settleAcquisition q => s.settleAcquisition q
  | .release q => (s.release q).map Prod.fst
  | .abort signal => some (s.abortSignal signal)
  | .advance a => s.advance options a
  | .gather a => s.gather a
  | .gatherFailure n => s.gatherFailure n
  | .complete a thrown => s.complete a thrown
  | .fail a thrown => s.fail a thrown
  | .conclude a => s.conclude a
  | .deliver l => s.deliver l
  | .leave l => s.leave l
  | .report n decoding fraction => s.report n decoding fraction
  | .finish n outcome => s.finish n outcome

end SlotsGame.Assets
