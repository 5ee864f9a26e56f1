/-
# SlotsGame.Reels.Sequencer -- how the reels of a settled round are stopped

`Sequencer` is the state of a `StopSequencer` together with the variables of its one call of
`present`.  The call runs one task for each reel: it waits for its delay, starts to brake, and
then waits for its impact and for the promise of the reel target.  The third reel also waits
for the impact of the second one when there is anticipation.

The code suspends at each `await`, and calls the target and the hooks in between.  A step of
the model is what the code does from one suspension or one such call to the next, so the
application can call the sequencer again from inside a callback: `control` is the callback
that is running.  A presentation that has settled may leave tasks behind; their generation is
stale, and all that they still do is return.
-/
import Mathlib.Data.Finset.Card
import Mathlib.Data.Fintype.Basic
import SlotsGame.Game.Types
import SlotsGame.Theory.Waits

namespace SlotsGame.Reels

open SlotsGame.Game (Symbol)
open SlotsGame.Theory

set_option autoImplicit false

/-! ## Timing, in milliseconds -/

/-- `PRIMAL_REEL_TIMING_MS` -/
def firstBrake : ℚ := 1500

def fastFirstBrake : ℚ := 600

def brake : ℚ := 300

def slowBrake : ℚ := 3000

def bounce : ℚ := 350

def fastBounce : ℚ := 250

def reelGap : ℚ := 300

def fastReelGap : ℚ := 150

def reelAnticipationTransitionMs : ℚ := 333333 / 1000

def anticipationCopyClearLeadMs : ℚ := 1000 / 30

def reelImpactProgress : ℚ := brake / (brake + bounce)

structure StopPlanOptions where
  firstDelayMs : Option ℚ := none
  reelGapMs : Option ℚ := none
  settleMs : Option ℚ := none
  deriving DecidableEq

/-- The reels of a grid that `present` accepts. -/
abbrev Reel := Fin 3

structure StopPlan where
  firstDelayMs : ℚ := 0
  reelGapMs : ℚ := 0
  settleMs : ℚ := 0
  deriving DecidableEq

def StopPlan.delayMs (plan : StopPlan) (reel : Reel) : ℚ :=
  plan.firstDelayMs + reel.val * plan.reelGapMs

/-- Refuses negative values, as the code refuses what is not a finite number. -/
def createStopPlan (options : StopPlanOptions) : Option StopPlan :=
  let plan : StopPlan :=
    { firstDelayMs := options.firstDelayMs.getD firstBrake
      reelGapMs := options.reelGapMs.getD reelGap
      settleMs := options.settleMs.getD (brake + bounce) }
  if plan.firstDelayMs < 0 ∨ plan.reelGapMs < 0 ∨ plan.settleMs < 0 then none else some plan

/-- The options that `present` plans with. -/
def StopPlanOptions.forPlay (options : StopPlanOptions) (fastPlay : Bool) : StopPlanOptions :=
  if fastPlay then
    { firstDelayMs := options.firstDelayMs.getD fastFirstBrake
      reelGapMs := options.reelGapMs.getD fastReelGap
      settleMs := options.settleMs.getD (brake + fastBounce) }
  else options

inductive ReelStopMode
  | normal | fast | slow
  deriving DecidableEq, Repr

/-- How long after the start of its brake a reel comes to its impact. -/
def impactMs (plan : StopPlan) : ReelStopMode → ℚ
  | .normal => plan.settleMs * reelImpactProgress
  | .fast => brake
  | .slow => slowBrake

/-! ## The grid -/

structure GridCell where
  symbol : Symbol
  multiplier : Option ℚ := none
  deriving DecidableEq

abbrev ClientGrid := List (List GridCell)

def malformed (grid : ClientGrid) : Bool :=
  let rows := (grid[0]?.map List.length).getD 0
  grid.length ≠ 3 || rows < 3 || rows > 8 || grid.any fun reel => reel.length ≠ rows

def hasSurge (reel : Option (List GridCell)) : Bool :=
  (reel.map fun cells => cells.any fun cell => cell.symbol = .surge).getD false

/-- The plan is always the same, so all there is to say is whether there is one. -/
def createAnticipationTriggerPlan (grid : ClientGrid) : Bool :=
  if grid.length < 3 then false else hasSurge grid[0]? && hasSurge grid[1]?

inductive PostStopActivationKind
  | wildReveal | surgeFeatureActivation
  deriving DecidableEq, Repr

def PostStopActivationKind.delayMs : PostStopActivationKind → ℚ
  | wildReveal => 1000
  | surgeFeatureActivation => 1250

def createPostStopActivationPlan (grid : ClientGrid) : Option PostStopActivationKind :=
  let wilds := grid.flatten.filter fun cell =>
    cell.symbol = .wild && cell.multiplier.any fun multiplier => 2 ≤ multiplier
  let surges := grid.flatten.filter fun cell => cell.symbol = .surge
  if wilds.length > 0 then some .wildReveal
  else if surges.length = 3 then some .surgeFeatureActivation
  else none

/-! ## The state -/

/-- `PRIMAL_ANTICIPATION_REEL` -/
def anticipationReel : Reel := 2

/-- The second reel, whose impact resolves the barrier. -/
def barrierReel : Reel := 1

def firstReel : Reel := 0

/-- Whom a promise resumes: the delay of a reel, the third reel at the barrier, the impact of
a reel, or what follows the last stop. -/
inductive Owner
  | delay (reel : Reel)
  | barrier
  | impact (reel : Reel)
  | outro
  deriving DecidableEq

inductive Task
  | delayed
  /-- Awaits `impactBarriers[PRIMAL_ANTICIPATION_REEL - 1]`. -/
  | barred
  /-- Is calling `onReelStopStart` or `stopReel`. -/
  | starting
  /-- Awaits its impact, and the promise of `stopReel` unless that is fulfilled. -/
  | braking (fulfilled : Bool)
  | returned
  | rejected
  deriving DecidableEq

inductive Impact
  | idle | waiting
  /-- Is running, and calls the target and the hooks. -/
  | landing
  | done | failed
  deriving DecidableEq

/-- `presentPostStopActivation`. -/
inductive Outro
  | resting
  /-- Is calling a hook or the target. -/
  | acting
  | hiding | clearing | fading
  /-- Awaits the promise of `onPostStopActivation`. -/
  | reacting
  | lingering
  /-- Awaits the promise of `onPostStopActivationComplete`. -/
  | completing
  | finished
  deriving DecidableEq

/-- The callback that is running. -/
inductive Callback
  | stopStart (reel : Reel) | stopReel (reel : Reel)
  | commit (reel : Reel) | impact (reel : Reel) | anticipation (reel : Reel) | calm (reel : Reel)
  | allStopped (reel : Reel)
  | hideComplete | transition | activation | play | activationComplete
  deriving DecidableEq

inductive StopReason
  | reelImpact | fastForward | cancelled | error | completed
  deriving DecidableEq, Repr

/-- What the application sees of a presentation, which is known by its generation: the calls
of hooks, and its own cancel. -/
inductive Event
  | stopStart (generation : Nat) (reel : Reel) (mode : ReelStopMode) (at_ : ℚ)
      (spinStartedAtMs : Option ℚ)
  | impact (generation : Nat) (reel : Reel)
  | allStopped (generation : Nat)
  | anticipationStart (generation : Nat)
  | anticipationStop (generation : Nat) (reason : StopReason)
  | anticipationHideComplete (generation : Nat)
  | transitionStart (generation : Nat)
  | activation (generation : Nat)
  | activationComplete (generation : Nat)
  | cancelled (generation : Nat)
  deriving DecidableEq

/-- The variables of a call of `present`. -/
structure Presentation where
  generation : Nat := 0
  fastPlay : Bool := false
  plan : StopPlan := {}
  postStop : Option PostStopActivationKind := none
  task : Reel → Task := fun _ => .delayed
  mode : Reel → ReelStopMode := fun _ => .normal
  impactOf : Reel → Impact := fun _ => .idle
  /-- `impactBarriers[PRIMAL_ANTICIPATION_REEL - 1]` is resolved. -/
  barrier : Bool := false
  impactedReels : Finset Reel := ∅
  allStoppedFired : Bool := false
  outro : Outro := .resting

/-- `releaseDelays` and the microtasks that settled promises have queued are in `waits`. -/
structure Sequencer extends Presentation where
  now : ℚ := 0
  presenting : Bool := false
  fastForwardRequested : Bool := false
  quickStopReleaseTimer : Option ℚ := none
  activeSlowImpactRelease : Option Owner := none
  waits : Waits Owner := {}
  presentationGeneration : Nat := 0
  spinStartedAtMs : Option ℚ := none
  anticipationPlan : Bool := false
  anticipationActive : Bool := false
  control : Option Callback := none
  log : List Event := []

namespace Sequencer

def initial : Sequencer := {}

variable (s : Sequencer)

def emit (event : Event) : Sequencer := { s with log := s.log ++ [event] }

/-- `generation === this.presentationGeneration` -/
def Current : Prop := s.generation = s.presentationGeneration

instance : Decidable s.Current := inferInstanceAs (Decidable (_ = _))

/-! ## Timers -/

def quickStopFloorReached : Bool :=
  match s.spinStartedAtMs with
  | none => true
  | some started => s.now - started ≥ fastFirstBrake

def clearQuickStopReleaseTimer : Sequencer := { s with quickStopReleaseTimer := none }

/-- `releasePendingDelays(true)` -/
def releaseSkippable : Sequencer := { s with waits := s.waits.release Wait.skippable }

/-- `releasePendingDelays()` -/
def releasePendingDelays : Sequencer :=
  { s with waits := s.waits.release fun _ => true, activeSlowImpactRelease := none }

def scheduleQuickStopRelease : Sequencer :=
  let s := s.clearQuickStopReleaseTimer
  let remainingMs := match s.spinStartedAtMs with
    | none => 0
    | some started => max 0 (fastFirstBrake - (s.now - started))
  if remainingMs ≤ 0 then s.releaseSkippable
  else { s with quickStopReleaseTimer := some (s.now + remainingMs) }

/-- `wait`.  A promise that is fulfilled at once leaves nothing but its microtask. -/
def wait (owner : Owner) (ms : ℚ) (fastForwardSkippable : Bool) : Sequencer :=
  if ms ≤ 0 ∨ (s.fastForwardRequested ∧ fastForwardSkippable ∧ s.quickStopFloorReached) then
    { s with waits := s.waits.enqueue owner }
  else { s with waits := s.waits.arm owner (s.now + ms) fastForwardSkippable }

def waitForSlowImpact (reel : Reel) (ms : ℚ) : Sequencer :=
  if ms ≤ 0 then { s with waits := s.waits.enqueue (.impact reel) }
  else { s with
    waits := s.waits.arm (.impact reel) (s.now + ms) false
    activeSlowImpactRelease := some (.impact reel) }

/-- `finish` -/
def finish (owner : Owner) : Sequencer :=
  { s with
    waits := s.waits.finish owner
    activeSlowImpactRelease :=
      if s.activeSlowImpactRelease = some owner then none else s.activeSlowImpactRelease }

/-- The timer of a wait fires.  A queued quick stop takes over the reels that have not started
before the floor. -/
def fire (owner : Owner) : Option Sequencer :=
  match s.waits.pending.find? fun wait => wait.owner = owner ∧ wait.armed with
  | none => none
  | some wait =>
      if wait.skippable ∧ s.fastForwardRequested ∧ ¬ s.quickStopFloorReached then
        some { s with waits := s.waits.spend owner }
      else some (s.finish owner)

def fireQuickStop : Option Sequencer :=
  s.quickStopReleaseTimer.map fun _ => { s with quickStopReleaseTimer := none }.releaseSkippable

/-! ## Calls of the application -/

def stopAnticipation (reason : StopReason) : Sequencer :=
  if s.anticipationPlan ∧ s.anticipationActive then
    { s with anticipationActive := false }.emit (.anticipationStop s.generation reason)
  else s

def markSpinStart (atMs : Option ℚ) : Sequencer :=
  { s.clearQuickStopReleaseTimer with
    spinStartedAtMs := some (atMs.getD s.now)
    fastForwardRequested := false }

/-- `targetThrows` is about `requestFastForward` of the target. -/
def requestFastForward (targetThrows : Bool) : Sequencer :=
  if s.spinStartedAtMs = none then s
  else
    let s := if s.fastForwardRequested then s
      else { s with fastForwardRequested := true }.scheduleQuickStopRelease
    match s.activeSlowImpactRelease with
    | none => s
    | some owner =>
        let s := s.stopAnticipation .fastForward
        if targetThrows then s else s.finish owner

def cancel : Sequencer :=
  let s := { s.clearQuickStopReleaseTimer with spinStartedAtMs := none }
  if s.presenting then
    ({ s with presentationGeneration := s.presentationGeneration + 1 }.emit
      (.cancelled s.generation)).stopAnticipation .cancelled |>.releasePendingDelays
  else { s with fastForwardRequested := false }

/-! ## The end of a presentation -/

/-- The `finally` of `present`.  The tasks that it leaves behind have a stale generation. -/
def settle : Sequencer :=
  { (s.stopAnticipation .completed).clearQuickStopReleaseTimer.releasePendingDelays with
    toPresentation := {}
    waits := {}
    fastForwardRequested := false
    presenting := false
    spinStartedAtMs := none
    anticipationPlan := false }

/-- The `catch` of `present`. -/
def failed : Sequencer :=
  if s.Current then
    { s.stopAnticipation .error with
      presentationGeneration := s.presentationGeneration + 1 }.releasePendingDelays
  else s

/-- `Promise.all` of a task: its impact, and the promise of `stopReel`. -/
def TaskSettled (reel : Reel) : Prop :=
  s.task reel = .returned ∨ (s.task reel = .braking true ∧ s.impactOf reel = .done)

instance (reel : Reel) : Decidable (s.TaskSettled reel) := inferInstanceAs (Decidable (_ ∨ _))

/-- `await Promise.all(...)`, `await postStopActivation` and what follows them. -/
def conclude : Option Sequencer :=
  if ∃ reel, s.task reel = .rejected then some s.failed.settle
  else if (∀ reel, s.TaskSettled reel) ∧ (s.outro = .resting ∨ s.outro = .finished) then
    some s.settle
  else none

/-! ## The beginning of a presentation -/

inductive PresentError
  | malformedGrid | alreadyActive
  deriving DecidableEq, Repr

/-- `present` as far as its first suspension. -/
def present (options : StopPlanOptions) (grid : ClientGrid) (fastPlay setRowsThrows : Bool) :
    Except PresentError Sequencer :=
  if malformed grid then .error .malformedGrid
  else if s.presenting then .error .alreadyActive
  else
    let started := s.spinStartedAtMs.getD s.now
    let s := { s with
      presenting := true
      spinStartedAtMs := some started
      anticipationPlan :=
        if fastPlay || s.fastForwardRequested then false else createAnticipationTriggerPlan grid
      anticipationActive := false
      presentationGeneration := s.presentationGeneration + 1
      toPresentation :=
        { generation := s.presentationGeneration + 1
          fastPlay := fastPlay
          postStop := createPostStopActivationPlan grid } }
    match createStopPlan (options.forPlay fastPlay) with
    | none => .ok s.failed.settle
    | some plan =>
        if setRowsThrows then .ok s.failed.settle
        else
          let elapsedSinceSpin := max 0 (s.now - started)
          let firstPresentationDelay := max 0 (plan.firstDelayMs - elapsedSinceSpin)
          let delayed (s : Sequencer) (reel : Reel) : Sequencer :=
            s.wait (.delay reel)
              (firstPresentationDelay + max 0 (plan.delayMs reel - plan.firstDelayMs)) true
          .ok ((({ s with plan := plan } |> (delayed · 0)) |> (delayed · 1)) |> (delayed · 2))

/-! ## The tasks of the reels -/

def setTask (reel : Reel) (task : Task) : Sequencer :=
  { s with task := Function.update s.task reel task }

def setImpact (reel : Reel) (impact : Impact) : Sequencer :=
  { s with impactOf := Function.update s.impactOf reel impact }

/-- Calls a hook or the target. -/
def call (callback : Callback) : Sequencer := { s with control := some callback }

/-- The mode that a reel starts to brake in. -/
def modeOf (reel : Reel) : ReelStopMode :=
  if s.fastPlay || s.fastForwardRequested then .fast
  else if s.anticipationPlan ∧ reel = anticipationReel then .slow
  else .normal

def startReel (reel : Reel) : Sequencer :=
  let mode := s.modeOf reel
  (({ s with mode := Function.update s.mode reel mode }.setTask reel .starting).emit
    (.stopStart s.generation reel mode s.now s.spinStartedAtMs)).call (.stopStart reel)

/-- A task resumes after its delay. -/
def delayOver (reel : Reel) : Sequencer :=
  if ¬ s.Current then s.setTask reel .returned
  else if reel = anticipationReel ∧ s.anticipationPlan then
    let s := s.setTask reel .barred
    if s.barrier then { s with waits := s.waits.enqueue .barrier } else s
  else s.startReel reel

def barrierOver : Sequencer :=
  if ¬ s.Current then s.setTask anticipationReel .returned else s.startReel anticipationReel

/-- `onReelStopStart` has returned: the impact begins to wait, and the target is called. -/
def stopStarted (reel : Reel) : Sequencer :=
  let ms := impactMs s.plan (s.mode reel)
  let s := s.setImpact reel .waiting
  let s := if s.mode reel = .slow then s.waitForSlowImpact reel ms
    else s.wait (.impact reel) ms false
  s.call (.stopReel reel)

/-- `impactResolvers[step.reel]`.  Only the third reel awaits a barrier, that of the second. -/
def resolveImpact (reel : Reel) : Sequencer :=
  if reel.val + 1 = anticipationReel.val then
    let s := { s with barrier := true }
    if s.task anticipationReel = .barred then { s with waits := s.waits.enqueue .barrier } else s
  else s

def impactDone (reel : Reel) : Sequencer :=
  { (s.setImpact reel .done).resolveImpact reel with control := none }

/-- The promise of the impact rejects, and with it that of the task. -/
def impactFailed (reel : Reel) : Sequencer :=
  { (s.setImpact reel .failed).setTask reel .rejected with control := none }

def land (reel : Reel) : Sequencer :=
  let s := { s with impactedReels := insert reel s.impactedReels }
  if ¬ s.allStoppedFired ∧ s.impactedReels.card = 3 then
    (({ s with allStoppedFired := true, spinStartedAtMs := none }.clearQuickStopReleaseTimer).emit
      (.allStopped s.generation)).call (.allStopped reel)
  else s.impactDone reel

def calmReel (reel : Reel) : Sequencer :=
  if reel = anticipationReel ∧ s.anticipationPlan ∧ s.anticipationActive then
    (s.stopAnticipation .reelImpact).call (.calm reel)
  else s.land reel

/-- `onReelImpact` has returned or thrown. -/
def impactShown (reel : Reel) : Sequencer :=
  if reel.val + 1 = anticipationReel.val ∧ s.Current ∧ s.mode reel = .normal ∧
      ¬ s.fastForwardRequested ∧ s.anticipationPlan ∧ ¬ s.anticipationActive then
    ({ s with anticipationActive := true }.emit (.anticipationStart s.generation)).call
      (.anticipation reel)
  else s.calmReel reel

def impactOver (reel : Reel) : Sequencer :=
  if ¬ s.Current then s.setImpact reel .done
  else (s.setImpact reel .landing).call (.commit reel)

/-! ## After the last stop -/

def setOutro (outro : Outro) : Sequencer := { s with outro := outro }

def outroFinished : Sequencer := { s.setOutro .finished with control := none }

/-- Suspends on a timer. -/
def outroWaits (outro : Outro) (ms : ℚ) : Sequencer :=
  { (s.setOutro outro).wait .outro ms false with control := none }

def outroActs (callback : Callback) : Sequencer := (s.setOutro .acting).call callback

def activate : Sequencer := (s.emit (.activation s.generation)).outroActs .activation

def presentPostStopActivation : Sequencer :=
  if ¬ s.Current then s.outroFinished
  else match s.postStop with
    | none =>
        if s.anticipationPlan ∧ ¬ s.fastForwardRequested then
          s.outroWaits .hiding (reelAnticipationTransitionMs - anticipationCopyClearLeadMs)
        else s.outroFinished
    | some _ => (s.emit (.transitionStart s.generation)).outroActs .transition

def transitionStarted : Sequencer :=
  if ¬ s.Current then s.outroFinished
  else if s.anticipationPlan then s.outroWaits .fading reelAnticipationTransitionMs
  else s.activate

def activated : Sequencer := if ¬ s.Current then s.outroFinished else s.outroActs .play

def played : Sequencer :=
  if ¬ s.Current then s.outroFinished
  else s.outroWaits .lingering ((s.postStop.map PostStopActivationKind.delayMs).getD 0)

def outroOver : Sequencer :=
  match s.outro with
  | .hiding =>
      if ¬ s.Current then s.outroFinished
      else (s.emit (.anticipationHideComplete s.generation)).outroActs .hideComplete
  | .clearing => s.outroFinished
  | .fading => if ¬ s.Current then s.outroFinished else s.activate
  | .lingering =>
      if ¬ s.Current then s.outroFinished
      else (s.emit (.activationComplete s.generation)).outroActs .activationComplete
  | _ => s

/-! ## The event loop -/

/-- How a callback ends. -/
inductive Reply
  | value | thrown | promise
  deriving DecidableEq, Repr

def returned : Sequencer := { s with control := none }

/-- The running callback ends. -/
def reply (callback : Callback) (reply : Reply) : Sequencer :=
  match callback with
  | .stopStart reel =>
      if reply = .thrown then s.returned.setTask reel .rejected else s.stopStarted reel
  | .stopReel reel =>
      s.returned.setTask reel (if reply = .thrown then .rejected else .braking false)
  | .commit reel =>
      if reply = .thrown then s.impactFailed reel
      else (s.emit (.impact s.generation reel)).call (.impact reel)
  | .impact reel => s.impactShown reel
  | .anticipation reel => s.calmReel reel
  | .calm reel => s.land reel
  | .allStopped reel =>
      if reply = .thrown then (s.resolveImpact reel).impactFailed reel
      else (s.impactDone reel).presentPostStopActivation
  | .hideComplete => s.outroWaits .clearing anticipationCopyClearLeadMs
  | .transition => s.transitionStarted
  | .activation => if reply = .promise then s.returned.setOutro .reacting else s.activated
  | .play => s.played
  | .activationComplete =>
      if reply = .promise then s.returned.setOutro .completing else s.outroFinished

/-- The next microtask. -/
def resume : Option Sequencer :=
  match s.waits.take with
  | none => none
  | some (owner, rest) =>
      let s := { s with waits := rest }
      some <| match owner with
        | .delay reel => if s.task reel = .delayed then s.delayOver reel else s
        | .barrier => if s.task anticipationReel = .barred then s.barrierOver else s
        | .impact reel => if s.impactOf reel = .waiting then s.impactOver reel else s
        | .outro => s.outroOver

/-- The promise of `stopReel` settles. -/
def stopSettled (reel : Reel) (fulfilled : Bool) : Option Sequencer :=
  if s.task reel = .braking false then
    some (s.setTask reel (if fulfilled then .braking true else .rejected))
  else none

/-- The promise that a hook returned settles, either way. -/
def hookSettled : Option Sequencer :=
  match s.outro with
  | .reacting => some s.activated
  | .completing => some s.outroFinished
  | _ => none

inductive Action
  /-- The clock reads another time. -/
  | tick (now : ℚ)
  | markSpinStart (atMs : Option ℚ)
  | requestFastForward (targetThrows : Bool)
  | cancel
  | present (grid : ClientGrid) (fastPlay setRowsThrows : Bool)
  | fire (owner : Owner)
  | fireQuickStop
  | resume
  | reply (reply : Reply)
  | stopSettled (reel : Reel) (fulfilled : Bool)
  | hookSettled
  | conclude

/-- `none`: the action is not due.  The code runs to its next suspension without
interruption, so nothing but the application acts while a callback runs. -/
def step (options : StopPlanOptions) (s : Sequencer) : Action → Option Sequencer
  | .tick now => some { s with now := now }
  | .markSpinStart atMs => some (s.markSpinStart atMs)
  | .requestFastForward targetThrows => some (s.requestFastForward targetThrows)
  | .cancel => some s.cancel
  | .present grid fastPlay setRowsThrows =>
      some ((s.present options grid fastPlay setRowsThrows).toOption.getD s)
  | .reply reply => s.control.map fun callback => s.reply callback reply
  | .fire owner => if s.control = none then s.fire owner else none
  | .fireQuickStop => if s.control = none then s.fireQuickStop else none
  | .resume => if s.control = none then s.resume else none
  | .stopSettled reel fulfilled => if s.control = none then s.stopSettled reel fulfilled else none
  | .hookSettled => if s.control = none then s.hookSettled else none
  | .conclude => if s.control = none ∧ s.presenting then s.conclude else none

end Sequencer

end SlotsGame.Reels
