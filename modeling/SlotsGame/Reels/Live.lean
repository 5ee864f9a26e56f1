/-
# SlotsGame.Reels.Live -- what keeps a presentation going

A presentation settles when each of its tasks has settled, or one of them has been rejected.
`Live` says what keeps each task going: a promise, a callback that is running, or the target
and the hooks.  `Sound` is the invariant of a run; this module proves it of the calls of the
application, of the timers, and of the beginning and the end of a presentation.
-/
import Mathlib.Tactic.Cases
import Mathlib.Tactic.Linarith
import SlotsGame.Theory.Runs
import SlotsGame.Reels.Sequencer

namespace SlotsGame.Reels

open SlotsGame.Theory

set_option autoImplicit false

namespace Callback

/-- The reel whose impact calls back. -/
def landing : Callback → Option Reel
  | .commit reel => some reel
  | .impact reel => some reel
  | .anticipation reel => some reel
  | .calm reel => some reel
  | .allStopped reel => some reel
  | _ => none

/-- The reel whose task calls back. -/
def starting : Callback → Option Reel
  | .stopStart reel => some reel
  | .stopReel reel => some reel
  | _ => none

/-- The callback belongs to what follows the last stop. -/
def after (callback : Callback) : Bool := callback.landing.isNone && callback.starting.isNone

end Callback

namespace Sequencer

variable {options : StopPlanOptions} {s t : Sequencer}

/-! ## The invariant -/

/-- The quick-stop timer settles the delays that it took over. -/
def Promised (s : Sequencer) (owner : Owner) : Prop :=
  s.waits.Promised s.quickStopReleaseTimer.isSome owner

/-- The third reel is at the barrier, and the impact of the second has not got past its check
of the generation. -/
def Barred (s : Sequencer) : Prop :=
  s.task anticipationReel = .barred ∧ s.barrier = false ∧ s.impactOf barrierReel ≠ .landing

instance : Decidable s.Barred := inferInstanceAs (Decidable (_ ∧ _ ∧ _))

def Rejected (s : Sequencer) : Prop := ∃ reel, s.task reel = .rejected

instance : Decidable s.Rejected := inferInstanceAs (Decidable (∃ _, _))

/-- What one task and its impact wait for. -/
def TaskLive (s : Sequencer) (reel : Reel) : Prop :=
  match s.task reel, s.impactOf reel with
  | .delayed, .idle => s.Promised (.delay reel)
  | .barred, .idle => reel = anticipationReel ∧ (s.barrier = true → s.Promised .barrier)
  | .starting, .idle => s.control = some (.stopStart reel)
  | .starting, .waiting => s.control = some (.stopReel reel) ∧ s.Promised (.impact reel)
  | .braking _, .waiting => s.Promised (.impact reel)
  | .braking _, .landing => ∃ callback, s.control = some callback ∧ callback.landing = some reel
  | .braking _, .done => reel = barrierReel → s.Current → s.barrier = true
  | .returned, .idle => ¬ s.Current
  | _, _ => False

def OutroLive (s : Sequencer) : Prop :=
  match s.outro with
  | .acting => ∃ callback, s.control = some callback ∧ callback.after = true
  | .hiding | .clearing | .fading | .lingering => s.Promised .outro
  | _ => True

/-- The callback that is running belongs to the part of the code that says so. -/
def Serves (s : Sequencer) : Callback → Prop
  | .stopStart reel => s.task reel = .starting
  | .stopReel reel => s.task reel = .starting
  | .commit reel => s.impactOf reel = .landing
  | .impact reel => s.impactOf reel = .landing
  | .anticipation reel => s.impactOf reel = .landing
  | .calm reel => s.impactOf reel = .landing
  | .allStopped reel => s.impactOf reel = .landing
  | _ => s.outro = .acting

structure Live (s : Sequencer) : Prop where
  task : ∀ reel, s.TaskLive reel
  outro : s.OutroLive
  impacted : ∀ reel ∈ s.impactedReels, s.impactOf reel = .landing ∨ s.impactOf reel = .done
  open' : s.Barred → s.Current
  issued : s.generation ≤ s.presentationGeneration

/-- Only the delays of the reels are skippable. -/
def Marked (s : Sequencer) : Prop :=
  ∀ wait ∈ s.waits.pending, wait.skippable = true ↔ ∃ reel, wait.owner = .delay reel

/-- What holds along a run: the waits are marked, the running callback serves, and every
task that has not settled is live, unless one has been rejected. -/
structure Sound (s : Sequencer) : Prop where
  marked : s.Marked
  serves : ∀ callback, s.control = some callback → s.Serves callback
  live : s.presenting = true → s.Rejected ∨ s.Live
  rest : s.presenting = false → s.control = none ∧ s.waits = {} ∧ s.toPresentation = {}

/-- Somebody awaits on behalf of the owner. -/
def Awaits (s : Sequencer) : Owner → Prop
  | .delay reel => s.task reel = .delayed
  | .barrier => s.task anticipationReel = .barred
  | .impact reel => s.impactOf reel = .waiting
  | .outro => s.outro = .hiding ∨ s.outro = .clearing ∨ s.outro = .fading ∨ s.outro = .lingering

/-- Promises on which somebody relies after a step as he did before are kept. -/
def Keeps (s t : Sequencer) : Prop :=
  ∀ owner, s.Awaits owner → t.Awaits owner → s.Promised owner → t.Promised owner

/-! ## What a step leaves alone -/

/-- A task that a step does not touch stays live. -/
theorem TaskLive.keep {reel : Reel} (live : s.TaskLive reel) (task : t.task reel = s.task reel)
    (impact : t.impactOf reel = s.impactOf reel)
    (running : s.task reel = .starting ∨ s.impactOf reel = .landing → t.control = s.control)
    (current : t.Current → s.Current) (barrier : s.barrier = true → t.barrier = true)
    (opened : t.task anticipationReel = .barred → s.barrier = false → t.barrier = true →
      t.Promised .barrier)
    (keeps : Keeps s t) : t.TaskLive reel := by
  unfold TaskLive at live ⊢
  rw [task, impact]
  cases phase : s.task reel <;> cases landing : s.impactOf reel <;>
    simp only [phase, landing] at live ⊢
  case delayed.idle => exact keeps _ phase (task.trans phase) live
  case barred.idle =>
    obtain ⟨rfl, promised⟩ := live
    refine ⟨rfl, fun isOpen => ?_⟩
    cases before : s.barrier with
    | true => exact keeps _ phase (task.trans phase) (promised before)
    | false => exact opened (task.trans phase) before isOpen
  case starting.idle => rw [running (.inl phase)]; exact live
  case starting.waiting =>
    rw [running (.inl phase)]
    exact ⟨live.1, keeps _ landing (impact.trans landing) live.2⟩
  case braking.waiting => exact keeps _ landing (impact.trans landing) live
  case braking.landing => rw [running (.inr landing)]; exact live
  case braking.done => exact fun second isCurrent => barrier (live second (current isCurrent))
  case returned.idle => exact fun isCurrent => live (current isCurrent)

theorem OutroLive.keep (live : s.OutroLive) (outro : t.outro = s.outro)
    (running : s.outro = .acting → t.control = s.control) (keeps : Keeps s t) : t.OutroLive := by
  unfold OutroLive at live ⊢
  rw [outro]
  cases phase : s.outro <;> simp only [phase] at live ⊢
  case acting => rw [running phase]; exact live
  all_goals exact keeps _ (by simp [Awaits, phase]) (by simp [Awaits, outro, phase]) live

/-- A step that changes the waits, the flags and the clock only. -/
theorem Sound.keep (sound : s.Sound) (same : t.toPresentation = s.toPresentation)
    (control : t.control = s.control)
    (generation : t.presentationGeneration = s.presentationGeneration)
    (presenting : t.presenting = s.presenting) (marked : t.Marked)
    (empty : s.waits = {} → t.waits = {}) 
    (keeps : s.presenting = true → s.Live → Keeps s t) : t.Sound := by
  have current : t.Current ↔ s.Current := by unfold Current; rw [same, generation]
  refine ⟨marked, ?_, fun running => ?_, fun stopped => ?_⟩
  · intro callback running
    have serves := sound.serves callback (control ▸ running)
    unfold Serves at serves ⊢
    rw [same]
    exact serves
  · rcases sound.live (presenting ▸ running) with ⟨reel, rejected⟩ | live
    · exact .inl ⟨reel, by rw [same]; exact rejected⟩
    · have keeps := keeps (presenting ▸ running) live
      refine .inr ⟨fun reel => ?_, ?_, ?_, ?_, ?_⟩
      · refine (live.task reel).keep (by rw [same]) (by rw [same]) (fun _ => control) current.mp
          (by rw [same]; exact id) ?_ keeps
        rw [same]
        intro _ closed isOpen
        rw [closed] at isOpen
        cases isOpen
      · exact live.outro.keep (by rw [same]) (fun _ => control) keeps
      · rw [same]; exact live.impacted
      · unfold Barred
        rw [same, current]
        exact live.open'
      · rw [same, generation]
        exact live.issued
  · obtain ⟨idle, drained, fresh⟩ := sound.rest (presenting ▸ stopped)
    exact ⟨control.trans idle, empty drained, same.trans fresh⟩

theorem Marked.of_old (marked : s.Marked)
    (old : ∀ wait ∈ t.waits.pending, ∃ old ∈ s.waits.pending,
      old.owner = wait.owner ∧ old.skippable = wait.skippable) : t.Marked := by
  intro wait member
  obtain ⟨before, there, owner, skippable⟩ := old wait member
  rw [← owner, ← skippable]
  exact marked before there

theorem Marked.release (marked : s.Marked) {test : Wait Owner → Bool}
    (waits : t.waits = s.waits.release test) : t.Marked := by
  refine marked.of_old fun wait member => ?_
  rw [waits] at member
  exact ⟨wait, (Waits.mem_release.mp member).1, rfl, rfl⟩

/-! ## Calls of the application, and timers -/

theorem Sound.tick (sound : s.Sound) (now : ℚ) : ({ s with now := now } : Sequencer).Sound :=
  sound.keep rfl rfl rfl rfl sound.marked id fun _ _ _ _ _ promised => promised

theorem stopAnticipation_eq (s : Sequencer) (reason : StopReason) : ∃ active log,
    s.stopAnticipation reason = { s with anticipationActive := active, log := log } := by
  unfold stopAnticipation
  split
  · exact ⟨_, _, rfl⟩
  · exact ⟨s.anticipationActive, s.log, rfl⟩

theorem Sound.stopAnticipation (sound : s.Sound) (reason : StopReason) :
    (s.stopAnticipation reason).Sound := by
  obtain ⟨active, log, same⟩ := s.stopAnticipation_eq reason
  rw [same]
  exact sound.keep rfl rfl rfl rfl sound.marked id fun _ _ _ _ _ promised => promised

theorem Sound.markSpinStart (sound : s.Sound) (atMs : Option ℚ)
    (armed : ∀ wait ∈ s.waits.pending, wait.armed = true) : (s.markSpinStart atMs).Sound := by
  refine sound.keep rfl rfl rfl rfl sound.marked id fun _ _ owner _ _ promised => ?_
  exact promised.unrelieved (fun wait member _ _ => armed wait member) _

theorem Sound.finish (sound : s.Sound) (owner : Owner) : (s.finish owner).Sound := by
  refine sound.keep rfl rfl rfl rfl (sound.marked.release Waits.finish_eq_release)
    ?_ fun _ _ _ _ _ promised => Waits.Promised.finish promised
  intro empty
  show s.waits.finish owner = {}
  rw [empty]
  rfl

theorem Sound.releaseSkippable (sound : s.Sound) (timer : Option ℚ) :
    ({ s with quickStopReleaseTimer := timer }.releaseSkippable).Sound := by
  refine sound.keep rfl rfl rfl rfl (sound.marked.release rfl) ?_
    fun _ _ _ _ _ promised => Waits.Promised.relieved promised (fun _ _ skips => skips) _
  intro empty
  show s.waits.release _ = {}
  rw [empty]
  rfl

/-- The floor of a quick stop has been reached, or a timer is armed for it. -/
theorem scheduleQuickStopRelease_cases (s : Sequencer) :
    ((∀ started, s.spinStartedAtMs = some started → started + fastFirstBrake ≤ s.now) ∧
      s.scheduleQuickStopRelease = { s with quickStopReleaseTimer := none }.releaseSkippable) ∨
    ∃ started due, s.spinStartedAtMs = some started ∧ started + fastFirstBrake ≤ due ∧
      s.scheduleQuickStopRelease = { s with quickStopReleaseTimer := some due } := by
  unfold scheduleQuickStopRelease
  dsimp only [clearQuickStopReleaseTimer]
  cases spun : s.spinStartedAtMs with
  | none =>
      refine .inl ⟨?_, by simp [releaseSkippable]⟩
      rintro _ ⟨⟩
  | some started =>
      dsimp only
      split
      · next reached =>
        refine .inl ⟨?_, by simp [releaseSkippable]⟩
        rintro _ ⟨⟩
        have := (max_le_iff.mp reached).2
        linarith
      · next later =>
        refine .inr ⟨started, _, rfl, ?_, rfl⟩
        have := le_max_right 0 (fastFirstBrake - (s.now - started))
        linarith

theorem Sound.requestFastForward (sound : s.Sound) (targetThrows : Bool) :
    (s.requestFastForward targetThrows).Sound := by
  have released : Sound (if s.fastForwardRequested then s
      else { s with fastForwardRequested := true }.scheduleQuickStopRelease) := by
    split
    · exact sound
    have requested : ({ s with fastForwardRequested := true } : Sequencer).Sound :=
      sound.keep rfl rfl rfl rfl sound.marked id fun _ _ _ _ _ promised => promised
    rcases scheduleQuickStopRelease_cases { s with fastForwardRequested := true } with
      ⟨_, floor⟩ | ⟨_, due, _, _, armed⟩
    · rw [floor]
      exact requested.releaseSkippable none
    · rw [armed]
      exact requested.keep rfl rfl rfl rfl sound.marked id
        fun _ _ _ _ _ promised => Waits.Promised.with_relief promised
  unfold Sequencer.requestFastForward
  split
  · exact sound
  dsimp only
  split
  · exact released
  · split
    · exact released.stopAnticipation _
    · exact (released.stopAnticipation _).finish _

theorem Sound.fireQuickStop (sound : s.Sound) (fired : s.fireQuickStop = some t) : t.Sound := by
  obtain ⟨_, _, rfl⟩ := Option.map_eq_some_iff.mp fired
  exact sound.releaseSkippable none

/-- A timer that is swallowed leaves its reel to the quick-stop timer. -/
theorem Sound.fire (sound : s.Sound) {owner : Owner} (fired : s.fire owner = some t)
    (relieved : (∃ reel, owner = .delay reel) → s.fastForwardRequested = true →
      s.quickStopFloorReached = false → s.quickStopReleaseTimer.isSome = true) : t.Sound := by
  unfold Sequencer.fire at fired
  split at fired
  · cases fired
  next wait found =>
  have member := List.mem_of_find?_eq_some found
  have test := List.find?_some found
  simp only [Bool.decide_and, Bool.and_eq_true, decide_eq_true_eq] at test
  obtain ⟨owned, _⟩ := test
  split at fired
  · next swallowed =>
    obtain rfl := Option.some.inj fired
    obtain ⟨skippable, requested, floor⟩ := swallowed
    obtain ⟨reel, isDelay⟩ := (sound.marked wait member).mp skippable
    have relief := relieved ⟨reel, owned ▸ isDelay⟩ requested (by simpa using floor)
    have skips : ∀ wait ∈ s.waits.pending, wait.owner = owner → wait.skippable = true :=
      fun other there same => (sound.marked other there).mpr ⟨reel, by rw [same, ← owned, isDelay]⟩
    refine sound.keep rfl rfl rfl rfl ?_ ?_ fun _ _ other _ _ promised => ?_
    · refine sound.marked.of_old fun after there => ?_
      rcases Waits.mem_spend.mp there with ⟨old, before, _, rfl⟩ | ⟨before, _⟩
      · exact ⟨old, before, rfl, rfl⟩
      · exact ⟨after, before, rfl, rfl⟩
    · intro empty
      rw [empty] at member
      cases member
    · unfold Promised at promised ⊢
      rw [relief] at promised
      show (s.waits.spend owner).Promised s.quickStopReleaseTimer.isSome other
      rw [relief]
      exact promised.spend skips
  · obtain rfl := Option.some.inj fired
    exact sound.finish owner

theorem cancel_eq (running : s.presenting = true) : ∃ active log, s.cancel = { s with
    quickStopReleaseTimer := none
    spinStartedAtMs := none
    presentationGeneration := s.presentationGeneration + 1
    anticipationActive := active
    log := log
    waits := s.waits.release fun _ => true
    activeSlowImpactRelease := none } := by
  obtain ⟨active, log, same⟩ := stopAnticipation_eq
    ({ s with
        quickStopReleaseTimer := none
        spinStartedAtMs := none
        presentationGeneration := s.presentationGeneration + 1 }.emit (.cancelled s.generation))
    .cancelled
  refine ⟨active, log, ?_⟩
  have cancelled : s.cancel = releasePendingDelays (stopAnticipation
      ({ s with
          quickStopReleaseTimer := none
          spinStartedAtMs := none
          presentationGeneration := s.presentationGeneration + 1 }.emit (.cancelled s.generation))
      .cancelled) := by
    unfold cancel
    exact if_pos running
  rw [cancelled, same]
  rfl

/-- Cancelling leaves each task with a job, unless one waits at the barrier. -/
theorem Sound.cancel (sound : s.Sound)
    (spared : s.presenting = true → ¬ s.Rejected → ¬ s.Barred) : s.cancel.Sound := by
  cases running : s.presenting with
  | false =>
      have quiet : s.cancel = { s with
          quickStopReleaseTimer := none, spinStartedAtMs := none, fastForwardRequested := false } := by
        unfold Sequencer.cancel
        exact if_neg (by simp [clearQuickStopReleaseTimer, running])
      rw [quiet]
      refine sound.keep rfl rfl rfl rfl sound.marked id fun presenting => ?_
      rw [running] at presenting
      cases presenting
  | true =>
      obtain ⟨active, log, cancelled⟩ := cancel_eq running
      rw [cancelled]
      refine ⟨sound.marked.release rfl, sound.serves, fun _ => ?_, fun stopped => ?_⟩
      · by_cases rejected : s.Rejected
        · exact .inl rejected
        rcases sound.live running with here | live
        · exact absurd here rejected
        have later := live.issued
        refine .inr ⟨fun reel => ?_, ?_, live.impacted, fun barred => ?_, ?_⟩
        · refine (live.task reel).keep rfl rfl (fun _ => rfl) (fun current => ?_) id ?_ ?_
          · have same : s.generation = s.presentationGeneration + 1 := current
            omega
          · intro _ closed isOpen
            exact absurd (closed.symm.trans isOpen) (by decide)
          · exact fun _ _ _ promised => Waits.Promised.relieved promised (fun _ _ _ => rfl) _
        · refine live.outro.keep rfl (fun _ => rfl) ?_
          exact fun _ _ _ promised => Waits.Promised.relieved promised (fun _ _ _ => rfl) _
        · exact absurd barred (spared running rejected)
        · show s.generation ≤ s.presentationGeneration + 1
          omega
      · exact absurd (running.symm.trans stopped) (by decide)

/-! ## The beginning and the end -/

theorem wait_eq (s : Sequencer) (owner : Owner) (ms : ℚ) (skippable : Bool) :
    ∃ w, s.wait owner ms skippable = { s with waits := w } ∧
      (w = s.waits.enqueue owner ∨ w = s.waits.arm owner (s.now + ms) skippable) := by
  unfold wait
  split
  · exact ⟨_, rfl, .inl rfl⟩
  · exact ⟨_, rfl, .inr rfl⟩

section Wait

variable {owner other : Owner} {ms : ℚ} {skippable : Bool}

@[simp] theorem wait_toPresentation :
    (s.wait owner ms skippable).toPresentation = s.toPresentation := by
  obtain ⟨w, same, _⟩ := s.wait_eq owner ms skippable
  rw [same]

@[simp] theorem wait_control : (s.wait owner ms skippable).control = s.control := by
  obtain ⟨w, same, _⟩ := s.wait_eq owner ms skippable
  rw [same]

@[simp] theorem wait_presenting : (s.wait owner ms skippable).presenting = s.presenting := by
  obtain ⟨w, same, _⟩ := s.wait_eq owner ms skippable
  rw [same]

@[simp] theorem wait_presentationGeneration :
    (s.wait owner ms skippable).presentationGeneration = s.presentationGeneration := by
  obtain ⟨w, same, _⟩ := s.wait_eq owner ms skippable
  rw [same]

theorem wait_promised : (s.wait owner ms skippable).Promised owner := by
  obtain ⟨w, same, rfl | rfl⟩ := s.wait_eq owner ms skippable
  · rw [same]; exact Waits.promised_enqueue
  · rw [same]; exact Waits.promised_arm

theorem Promised.wait (promised : s.Promised other) : (s.wait owner ms skippable).Promised other := by
  obtain ⟨w, same, rfl | rfl⟩ := s.wait_eq owner ms skippable
  · rw [same]; exact Waits.Promised.enqueue promised
  · rw [same]; exact Waits.Promised.arm promised

theorem Marked.arm (marked : s.Marked) {due : ℚ}
    (marks : skippable = true ↔ ∃ reel, owner = .delay reel)
    (waits : t.waits = s.waits.arm owner due skippable) : t.Marked := by
  intro wait member
  rw [waits] at member
  rcases Waits.mem_arm.mp member with old | rfl
  · exact marked wait old
  · exact marks

theorem Marked.wait (marked : s.Marked) (marks : skippable = true ↔ ∃ reel, owner = .delay reel) :
    (s.wait owner ms skippable).Marked := by
  obtain ⟨w, same, rfl | rfl⟩ := s.wait_eq owner ms skippable
  · rw [same]; exact marked
  · exact marked.arm marks (by rw [same])

end Wait

theorem settle_control (s : Sequencer) : s.settle.control = s.control := by
  obtain ⟨active, log, same⟩ := s.stopAnticipation_eq .completed
  simp only [settle, same]
  rfl

theorem failed_control (s : Sequencer) : s.failed.control = s.control := by
  unfold failed
  obtain ⟨active, log, same⟩ := s.stopAnticipation_eq .error
  split
  · rw [same]; rfl
  · rfl

theorem Sound.settle (idle : s.control = none) : s.settle.Sound where
  marked := by
    intro wait member
    cases member
  serves := by
    intro callback running
    rw [settle_control, idle] at running
    cases running
  live := by
    intro running
    cases running
  rest := fun _ => ⟨s.settle_control.trans idle, rfl, rfl⟩

theorem Sound.conclude (idle : s.control = none) (concluded : s.conclude = some t) : t.Sound := by
  unfold Sequencer.conclude at concluded
  split at concluded
  · obtain rfl := Option.some.inj concluded
    exact .settle (s.failed_control.trans idle)
  · split at concluded
    · obtain rfl := Option.some.inj concluded
      exact .settle idle
    · cases concluded

/-- The delays of the three reels begin together. -/
theorem Sound.begun (idle : s.control = none) (marked : s.Marked) (running : s.presenting = true)
    (tasks : ∀ reel, s.task reel = .delayed ∧ s.impactOf reel = .idle)
    (outro : s.outro = .resting) (impacted : s.impactedReels = ∅)
    (current : s.Current) (first second third : ℚ) :
    (((s.wait (.delay 0) first true).wait (.delay 1) second true).wait (.delay 2) third true).Sound := by
  have marks (reel : Reel) : true = true ↔ ∃ other, Owner.delay reel = .delay other :=
    ⟨fun _ => ⟨reel, rfl⟩, fun _ => rfl⟩
  have promised : ∀ reel,
      (((s.wait (.delay 0) first true).wait (.delay 1) second true).wait (.delay 2) third
        true).Promised (.delay reel) := by
    intro reel
    match reel with
    | 0 => exact wait_promised.wait.wait
    | 1 => exact wait_promised.wait
    | 2 => exact wait_promised
  refine ⟨((marked.wait (marks 0)).wait (marks 1)).wait (marks 2), ?_,
    fun _ => .inr ⟨fun reel => ?_, ?_, ?_, ?_, ?_⟩, ?_⟩
  · intro callback calls
    simp [idle] at calls
  · simp only [TaskLive, wait_toPresentation, tasks reel]
    exact promised reel
  · simp [OutroLive, outro]
  · simp [impacted]
  · intro barred
    simp [Barred, tasks] at barred
  · simp only [wait_toPresentation, wait_presentationGeneration]
    exact le_of_eq current
  · intro stopped
    simp [running] at stopped

theorem Sound.present (sound : s.Sound) {grid : ClientGrid} {fastPlay setRowsThrows : Bool}
    (begun : s.present options grid fastPlay setRowsThrows = .ok t) : t.Sound := by
  unfold Sequencer.present at begun
  split at begun
  · cases begun
  split at begun
  · cases begun
  next stopped =>
  have stopped : s.presenting = false := by simpa using stopped
  obtain ⟨idle, drained, _⟩ := sound.rest stopped
  dsimp only at begun
  split at begun
  · obtain rfl := Except.ok.inj begun
    exact .settle ((failed_control _).trans idle)
  split at begun
  · obtain rfl := Except.ok.inj begun
    exact .settle ((failed_control _).trans idle)
  obtain rfl := Except.ok.inj begun
  refine .begun ?_ ?_ ?_ ?_ ?_ ?_ ?_ _ _ _
  · exact idle
  · exact sound.marked
  · rfl
  · exact fun _ => ⟨rfl, rfl⟩
  · rfl
  · rfl
  · rfl

end Sequencer

end SlotsGame.Reels
