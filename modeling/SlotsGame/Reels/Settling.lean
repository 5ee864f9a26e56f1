/-
# SlotsGame.Reels.Settling -- a presentation settles

The steps of the tasks keep the invariant, and so do those of what follows the last stop.  A
sequencer at rest then has no presentation that is still waiting.

The weak place is the barrier of the third reel.  Only the impact of the second reel resolves
it, and that impact returns without doing so once the presentation is cancelled.
-/
import Mathlib.Data.Fintype.Card
import SlotsGame.Reels.Live

namespace SlotsGame.Reels

open SlotsGame.Theory

set_option autoImplicit false

namespace Sequencer

variable {options : StopPlanOptions} {s t : Sequencer}

/-! ## Steps of a task and of its impact -/

/-- A step on one reel, taken while no callback of another part runs.  `alive` says that a
task does not come back from its rejection. -/
structure Moves (s t : Sequencer) (reel : Reel) : Prop where
  free : ∀ callback, s.control = some callback →
    callback.landing = some reel ∨ callback.starting = some reel
  task : ∀ other ≠ reel, t.task other = s.task other
  impact : ∀ other ≠ reel, t.impactOf other = s.impactOf other
  alive : s.task reel = .rejected → t.task reel = .rejected
  generation : t.generation = s.generation ∧ t.presentationGeneration = s.presentationGeneration :=
    by exact ⟨rfl, rfl⟩
  presenting : t.presenting = s.presenting := by rfl
  outro : t.outro = s.outro := by rfl
  barrier : s.barrier = true → t.barrier = true := by exact id
  opened : t.task anticipationReel = .barred → s.barrier = false → t.barrier = true →
      t.Promised .barrier := by
    exact fun _ closed isOpen => absurd (closed.symm.trans isOpen) (by decide)
  impacted : ∀ other ∈ t.impactedReels, other = reel ∨ other ∈ s.impactedReels := by
    exact fun _ member => .inr member

theorem Rejected.moved {reel : Reel} (rejected : s.Rejected) (moves : Moves s t reel) :
    t.Rejected := by
  obtain ⟨other, there⟩ := rejected
  by_cases same : other = reel
  · exact ⟨reel, moves.alive (same ▸ there)⟩
  · exact ⟨other, (moves.task other same).trans there⟩

/-- While a callback of another part runs, a task and its impact do not. -/
theorem TaskLive.silent {reel : Reel} (live : s.TaskLive reel)
    (free : ∀ callback, s.control = some callback →
      callback.landing ≠ some reel ∧ callback.starting ≠ some reel) :
    ¬ (s.task reel = .starting ∨ s.impactOf reel = .landing) := by
  intro running
  unfold TaskLive at live
  cases phase : s.task reel <;> cases landing : s.impactOf reel <;>
    simp only [phase, landing] at live running
  case starting.idle => exact (free _ live).2 rfl
  case starting.waiting => exact (free _ live.1).2 rfl
  case braking.landing =>
    obtain ⟨callback, runs, own⟩ := live
    exact (free callback runs).1 own
  all_goals simp at running

theorem Moves.foreign {reel other : Reel} (moves : Moves s t reel) (away : other ≠ reel)
    (callback : Callback) (runs : s.control = some callback) :
    callback.landing ≠ some other ∧ callback.starting ≠ some other := by
  rcases moves.free callback runs with own | own <;>
    cases callback <;> simp_all [Callback.landing, Callback.starting, eq_comm]

theorem Live.moved {reel : Reel} (live : s.Live) (moves : Moves s t reel) (keeps : Keeps s t)
    (own : t.TaskLive reel)
    (impacted : reel ∈ t.impactedReels → t.impactOf reel = .landing ∨ t.impactOf reel = .done)
    (barred : ¬ s.Current → t.Barred → s.Barred) : t.Live := by
  have current : t.Current ↔ s.Current := by
    unfold Current
    rw [moves.generation.1, moves.generation.2]
  refine ⟨fun other => ?_, ?_, fun other member => ?_, fun there => ?_, ?_⟩
  · by_cases same : other = reel
    · exact same ▸ own
    · have silent := (live.task other).silent (moves.foreign same)
      exact (live.task other).keep (moves.task other same) (moves.impact other same)
        (fun running => absurd running silent) current.mp moves.barrier moves.opened keeps
  · refine live.outro.keep moves.outro (fun acting => ?_) keeps
    have acts := live.outro
    unfold OutroLive at acts
    rw [acting] at acts
    obtain ⟨callback, runs, after⟩ := acts
    rcases moves.free callback runs with own | own <;>
      cases callback <;> simp_all [Callback.landing, Callback.starting, Callback.after]
  · by_cases same : other = reel
    · subst same
      exact impacted member
    · rw [moves.impact other same]
      rcases moves.impacted other member with here | before
      · exact absurd here same
      · exact live.impacted other before
  · by_cases now : s.Current
    · exact current.mpr now
    · exact absurd (live.open' (barred now there)) now
  · rw [moves.generation.1, moves.generation.2]
    exact live.issued

theorem Sound.moved (reel : Reel) (sound : s.Sound) (running : s.presenting = true)
    (moves : Moves s t reel) (marked : t.Marked)
    (serves : ∀ callback, t.control = some callback → t.Serves callback)
    (live : s.Live → t.Rejected ∨ (Keeps s t ∧ t.TaskLive reel ∧
      (reel ∈ t.impactedReels → t.impactOf reel = .landing ∨ t.impactOf reel = .done) ∧
      (¬ s.Current → t.Barred → s.Barred))) : t.Sound := by
  refine ⟨marked, serves, fun _ => ?_, fun stopped => ?_⟩
  · rcases sound.live running with rejected | before
    · exact .inl (rejected.moved moves)
    · rcases live before with rejected | ⟨keeps, own, impacted, barred⟩
      · exact .inl rejected
      · exact .inr (before.moved moves keeps own impacted barred)
  · rw [moves.presenting, running] at stopped
    cases stopped

/-- A step that rejects a task. -/
theorem Sound.rejecting (reel : Reel) (running : s.presenting = true)
    (presenting : t.presenting = s.presenting) (marked : t.Marked) (control : t.control = none)
    (rejected : t.task reel = .rejected) : t.Sound := by
  refine ⟨marked, ?_, fun _ => .inl ⟨reel, rejected⟩, fun stopped => ?_⟩
  · intro callback calls
    rw [control] at calls
    cases calls
  · rw [presenting, running] at stopped
    cases stopped

section Task

variable {reel other : Reel} {task : Task} {impact : Impact} {rest : Waits Owner} {owner : Owner}

@[simp] theorem setTask_self : (s.setTask reel task).task reel = task := Function.update_self ..

theorem setTask_other (away : other ≠ reel) : (s.setTask reel task).task other = s.task other :=
  Function.update_of_ne away ..

@[simp] theorem setImpact_self : (s.setImpact reel impact).impactOf reel = impact :=
  Function.update_self ..

theorem setImpact_other (away : other ≠ reel) :
    (s.setImpact reel impact).impactOf other = s.impactOf other :=
  Function.update_of_ne away ..

/-- Whoever resumes awaits no more. -/
theorem Keeps.resumed (taken : s.waits.take = some (owner, rest)) (gone : ¬ t.Awaits owner)
    (later : ∀ other, rest.Promised s.quickStopReleaseTimer.isSome other → t.Promised other) :
    Keeps s t := by
  intro other _ awaits promised
  refine later other (promised.take taken ?_)
  rintro rfl
  exact gone awaits

theorem Marked.resumed (marked : s.Marked) (taken : s.waits.take = some (owner, rest))
    (waits : ∀ wait ∈ t.waits.pending, wait ∈ rest.pending) : t.Marked := by
  intro wait member
  apply marked wait
  rw [← (Waits.take_eq_some taken).2]
  exact waits wait member

theorem TaskLive.delayed (live : s.TaskLive reel) (task : s.task reel = .delayed) :
    s.impactOf reel = .idle := by
  unfold TaskLive at live
  cases impact : s.impactOf reel <;> simp_all

theorem TaskLive.barred (live : s.TaskLive reel) (task : s.task reel = .barred) :
    s.impactOf reel = .idle ∧ reel = anticipationReel := by
  unfold TaskLive at live
  cases impact : s.impactOf reel <;> simp_all

theorem TaskLive.waiting (live : s.TaskLive reel) (impact : s.impactOf reel = .waiting)
    (idle : s.control = none) : ∃ fulfilled, s.task reel = .braking fulfilled := by
  unfold TaskLive at live
  cases task : s.task reel <;> simp_all

theorem TaskLive.landing (live : s.TaskLive reel) (impact : s.impactOf reel = .landing) :
    ∃ fulfilled, s.task reel = .braking fulfilled := by
  unfold TaskLive at live
  cases task : s.task reel <;> simp_all

theorem TaskLive.braking {fulfilled : Bool} (live : s.TaskLive reel)
    (task : s.task reel = .braking fulfilled) :
    s.impactOf reel = .waiting ∨ s.impactOf reel = .landing ∨ s.impactOf reel = .done := by
  unfold TaskLive at live
  cases impact : s.impactOf reel <;> simp_all

theorem TaskLive.of_starting (task : s.task reel = .starting) (impact : s.impactOf reel = .idle)
    (calls : s.control = some (.stopStart reel)) : s.TaskLive reel := by
  simp only [TaskLive, task, impact]
  exact calls

theorem TaskLive.of_stopping (task : s.task reel = .starting) (impact : s.impactOf reel = .waiting)
    (calls : s.control = some (.stopReel reel)) (promised : s.Promised (.impact reel)) :
    s.TaskLive reel := by
  simp only [TaskLive, task, impact]
  exact ⟨calls, promised⟩

theorem TaskLive.of_landing {fulfilled : Bool} {callback : Callback}
    (task : s.task reel = .braking fulfilled) (impact : s.impactOf reel = .landing)
    (calls : s.control = some callback) (lands : callback.landing = some reel) :
    s.TaskLive reel := by
  simp only [TaskLive, task, impact]
  exact ⟨callback, calls, lands⟩

theorem TaskLive.of_done {fulfilled : Bool} (task : s.task reel = .braking fulfilled)
    (impact : s.impactOf reel = .done) (resolved : reel = barrierReel → s.Current → s.barrier = true) :
    s.TaskLive reel := by
  simp only [TaskLive, task, impact]
  exact resolved

theorem TaskLive.of_barred (task : s.task anticipationReel = .barred)
    (impact : s.impactOf anticipationReel = .idle)
    (promised : s.barrier = true → s.Promised .barrier) : s.TaskLive anticipationReel := by
  simp only [TaskLive, task, impact]
  exact ⟨trivial, promised⟩

theorem TaskLive.of_returned (task : s.task reel = .returned) (impact : s.impactOf reel = .idle)
    (stale : ¬ s.Current) : s.TaskLive reel := by
  simp only [TaskLive, task, impact]
  exact stale

theorem not_free (idle : s.control = none) (callback : Callback) (runs : s.control = some callback) :
    callback.landing = some reel ∨ callback.starting = some reel := by
  rw [idle] at runs
  cases runs

/-- Only the task of one reel changes. -/
theorem Barred.untouched (away : anticipationReel ≠ reel) (barred : t.Barred)
    (task : ∀ other ≠ reel, t.task other = s.task other) (barrier : t.barrier = s.barrier)
    (impact : s.impactOf barrierReel = .landing → t.impactOf barrierReel = .landing) : s.Barred := by
  obtain ⟨third, shut, second⟩ := barred
  exact ⟨(task _ away).symm.trans third, barrier.symm.trans shut, fun lands => second (impact lands)⟩

/-- A task resumes after its delay, or after the barrier, and awaits neither of them again. -/
theorem Sound.resumes (sound : s.Sound) (running : s.presenting = true) (idle : s.control = none)
    (taken : s.waits.take = some (owner, rest))
    (awaited : (owner = .delay reel ∧ s.task reel = .delayed) ∨
      (owner = .barrier ∧ reel = anticipationReel ∧ s.task reel = .barred))
    (stepped : t.task = Function.update s.task reel task) (gone : task ≠ .delayed ∧ task ≠ .barred)
    (same : ({ t with task := s.task, mode := s.mode } : Sequencer).toPresentation =
      s.toPresentation)
    (generation : t.presentationGeneration = s.presentationGeneration)
    (presenting : t.presenting = s.presenting) (waits : t.waits = rest)
    (timer : t.quickStopReleaseTimer = s.quickStopReleaseTimer)
    (serves : ∀ callback, t.control = some callback → t.Serves callback)
    (own : t.impactOf reel = .idle → t.TaskLive reel) : t.Sound := by
  have impacts : t.impactOf = s.impactOf := (congrArg Presentation.impactOf same :)
  have self : t.task reel = task := by rw [stepped]; exact Function.update_self ..
  have others : ∀ other ≠ reel, t.task other = s.task other := by
    intro other away
    rw [stepped]
    exact Function.update_of_ne away ..
  have started : s.task reel = .delayed ∨ s.task reel = .barred :=
    awaited.imp And.right (fun barrier => barrier.2.2)
  have barrier : t.barrier = s.barrier := (congrArg Presentation.barrier same :)
  have impacted : t.impactedReels = s.impactedReels := (congrArg Presentation.impactedReels same :)
  refine sound.moved reel running ?_ (sound.marked.resumed taken ?_) serves ?_
  · refine { free := not_free idle, task := others, impact := ?_, alive := ?_, generation := ?_, presenting := presenting, outro := ?_, barrier := ?_, opened := ?_,
             impacted := ?_ }
    · intro other _
      rw [impacts]
    · intro rejected
      rcases started with here | here <;> rw [here] at rejected <;> cases rejected
    · exact ⟨(congrArg Presentation.generation same :), generation⟩
    · exact (congrArg Presentation.outro same :)
    · rw [barrier]
      exact id
    · rw [barrier]
      exact fun _ closed isOpen => absurd (closed.symm.trans isOpen) (by decide)
    · rw [impacted]
      exact fun _ member => .inr member
  · rw [waits]
    exact fun _ member => member
  · intro live
    have quiet : s.impactOf reel = .idle := by
      rcases started with here | here
      · exact (live.task reel).delayed here
      · exact ((live.task reel).barred here).1
    refine .inr ⟨.resumed taken ?_ ?_, own (by rw [impacts, quiet]), fun member => ?_,
      fun _ barred => ?_⟩
    · rcases awaited with ⟨rfl, _⟩ | ⟨rfl, rfl, _⟩
      · simp [Awaits, self, gone.1]
      · simp [Awaits, self, gone.2]
    · intro other promised
      unfold Promised
      rw [waits, timer]
      exact promised
    · have before := live.impacted reel (impacted ▸ member)
      rw [quiet] at before
      simp at before
    · by_cases third : anticipationReel = reel
      · have here := barred.1
        rw [third, self] at here
        exact absurd here gone.2
      · exact barred.untouched third others barrier (by rw [impacts]; exact id)

theorem Sound.startReel (sound : s.Sound) (running : s.presenting = true) (idle : s.control = none)
    (taken : s.waits.take = some (owner, rest))
    (awaited : (owner = .delay reel ∧ s.task reel = .delayed) ∨
      (owner = .barrier ∧ reel = anticipationReel ∧ s.task reel = .barred)) :
    (({ s with waits := rest } : Sequencer).startReel reel).Sound := by
  have self : (({ s with waits := rest } : Sequencer).startReel reel).task reel = .starting :=
    setTask_self
  refine sound.resumes running idle taken awaited rfl ⟨by decide, by decide⟩ rfl rfl rfl rfl rfl
    ?_ fun quiet => .of_starting self quiet rfl
  rintro _ ⟨⟩
  exact self

/-- A task whose presentation was cancelled returns. -/
theorem Sound.taskReturned (sound : s.Sound) (running : s.presenting = true)
    (idle : s.control = none) (stale : ¬ s.Current) (taken : s.waits.take = some (owner, rest))
    (awaited : (owner = .delay reel ∧ s.task reel = .delayed) ∨
      (owner = .barrier ∧ reel = anticipationReel ∧ s.task reel = .barred)) :
    (({ s with waits := rest } : Sequencer).setTask reel .returned).Sound := by
  refine sound.resumes running idle taken awaited rfl ⟨by decide, by decide⟩ rfl rfl rfl rfl rfl
    ?_ fun quiet => .of_returned setTask_self quiet stale
  intro callback calls
  exact absurd (idle.symm.trans calls) (by simp)

/-- The third reel comes to the barrier. -/
theorem Sound.barred (sound : s.Sound) (running : s.presenting = true) (idle : s.control = none)
    (current : s.Current) (taken : s.waits.take = some (.delay anticipationReel, rest))
    (task : s.task anticipationReel = .delayed) {w : Waits Owner}
    (waits : w = rest ∧ s.barrier = false ∨ w = rest.enqueue .barrier) :
    (({ s with waits := w } : Sequencer).setTask anticipationReel .barred).Sound := by
  have self : (({ s with waits := w } : Sequencer).setTask anticipationReel .barred).task
      anticipationReel = .barred := setTask_self
  refine sound.moved anticipationReel running ?_ (sound.marked.resumed taken ?_) ?_ ?_
  · refine { free := not_free idle, task := ?_, impact := fun _ _ => rfl, alive := ?_ }
    · exact fun other away => setTask_other away
    · intro rejected
      rw [task] at rejected
      cases rejected
  · rcases waits with ⟨rfl, _⟩ | rfl <;> exact fun _ member => member
  · intro callback calls
    exact absurd (idle.symm.trans calls) (by simp)
  · intro live
    have quiet := (live.task anticipationReel).delayed task
    refine .inr ⟨.resumed taken (by simp [Awaits]) ?_, .of_barred self quiet ?_,
      fun member => ?_, fun stale => absurd current stale⟩
    · rcases waits with ⟨rfl, _⟩ | rfl
      · exact fun _ promised => promised
      · exact fun _ promised => promised.enqueue
    · intro isOpen
      rcases waits with ⟨rfl, shut⟩ | rfl
      · exact absurd (shut.symm.trans isOpen) (by decide)
      · exact Waits.promised_enqueue
    · have impacted := live.impacted anticipationReel member
      rw [quiet] at impacted
      simp at impacted

theorem Sound.delayOver (sound : s.Sound) (running : s.presenting = true) (idle : s.control = none)
    (taken : s.waits.take = some (.delay reel, rest)) (task : s.task reel = .delayed) :
    (({ s with waits := rest } : Sequencer).delayOver reel).Sound := by
  unfold Sequencer.delayOver
  split
  · next stale => exact sound.taskReturned running idle stale taken (.inl ⟨rfl, task⟩)
  next current =>
  have current : s.Current := Decidable.not_not.mp current
  split
  · next planned =>
    obtain ⟨rfl, _⟩ := planned
    dsimp only
    split
    · exact sound.barred running idle current taken task (.inr rfl)
    · next shut =>
      refine sound.barred running idle current taken task (.inl ⟨rfl, ?_⟩)
      exact Bool.eq_false_iff.mpr shut
  · exact sound.startReel running idle taken (.inl ⟨rfl, task⟩)

theorem Sound.barrierOver (sound : s.Sound) (running : s.presenting = true) (idle : s.control = none)
    (taken : s.waits.take = some (.barrier, rest)) (task : s.task anticipationReel = .barred) :
    ({ s with waits := rest } : Sequencer).barrierOver.Sound := by
  unfold Sequencer.barrierOver
  split
  · next stale => exact sound.taskReturned running idle stale taken (.inr ⟨rfl, rfl, task⟩)
  · exact sound.startReel running idle taken (.inr ⟨rfl, rfl, task⟩)

/-- An impact resumes: it returns if the presentation was cancelled, or begins to land. -/
theorem Sound.impactOver (sound : s.Sound) (running : s.presenting = true) (idle : s.control = none)
    (taken : s.waits.take = some (.impact reel, rest)) (waiting : s.impactOf reel = .waiting) :
    (({ s with waits := rest } : Sequencer).impactOver reel).Sound := by
  unfold Sequencer.impactOver
  split
  · next stale =>
    have stale : ¬ s.Current := stale
    have self : (({ s with waits := rest } : Sequencer).setImpact reel .done).impactOf reel =
        .done := setImpact_self
    refine sound.moved reel running ?_ (sound.marked.resumed taken fun _ member => member) ?_ ?_
    · refine { free := not_free idle, task := fun _ _ => rfl, impact := ?_, alive := id }
      exact fun other away => setImpact_other away
    · intro callback calls
      exact absurd (idle.symm.trans calls) (by simp)
    · intro live
      obtain ⟨fulfilled, task⟩ := (live.task reel).waiting waiting idle
      refine .inr ⟨.resumed taken (by simp [Awaits]) fun _ promised => promised,
        .of_done task self fun _ current => absurd current stale, fun _ => .inr self, ?_⟩
      rintro - ⟨third, shut, second⟩
      refine ⟨third, shut, fun lands => second ?_⟩
      by_cases own : barrierReel = reel
      · rw [own, waiting] at lands
        cases lands
      · exact (setImpact_other own).trans lands
  · next current =>
    have current : s.Current := Decidable.not_not.mp current
    have self : ((({ s with waits := rest } : Sequencer).setImpact reel .landing).call
        (.commit reel)).impactOf reel = .landing := setImpact_self
    refine sound.moved reel running ?_ (sound.marked.resumed taken fun _ member => member) ?_ ?_
    · refine { free := not_free idle, task := fun _ _ => rfl, impact := ?_, alive := id }
      exact fun other away => setImpact_other away
    · rintro _ ⟨⟩
      exact self
    · intro live
      obtain ⟨fulfilled, task⟩ := (live.task reel).waiting waiting idle
      refine .inr ⟨.resumed taken (by simp [Awaits, self]) fun _ promised => promised,
        .of_landing task self rfl rfl, fun _ => .inl self, fun stale => absurd current stale⟩

/-- The impact of a reel begins to wait, and the target is called. -/
theorem Sound.stopStarted (sound : s.Sound) (running : s.presenting = true)
    (calls : s.control = some (.stopStart reel)) :
    (s.stopStarted reel).Sound := by
  have starting : s.task reel = .starting := sound.serves _ calls
  obtain ⟨w, active, same, waits⟩ : ∃ w active,
      s.stopStarted reel =
        ({ s with waits := w, activeSlowImpactRelease := active }.setImpact reel
          .waiting).call (.stopReel reel) ∧
      (w = s.waits.enqueue (.impact reel) ∨ ∃ due, w = s.waits.arm (.impact reel) due false) := by
    unfold Sequencer.stopStarted
    dsimp only
    split
    · unfold waitForSlowImpact
      split
      · exact ⟨_, _, rfl, .inl rfl⟩
      · exact ⟨_, _, rfl, .inr ⟨_, rfl⟩⟩
    · obtain ⟨w, same, waits⟩ := wait_eq (s.setImpact reel .waiting)
        (.impact reel) (impactMs s.plan (s.mode reel)) false
      exact ⟨w, _, congrArg (call · (.stopReel reel)) same, waits.imp id fun armed => ⟨_, armed⟩⟩
  rw [same]
  have self : ((({ s with waits := w, activeSlowImpactRelease := active } :
      Sequencer).setImpact reel .waiting).call (.stopReel reel)).impactOf reel = .waiting :=
    setImpact_self
  have kept : ∀ other, s.Promised other →
      w.Promised s.quickStopReleaseTimer.isSome other := by
    intro other promised
    rcases waits with rfl | ⟨due, rfl⟩
    · exact promised.enqueue
    · exact promised.arm
  refine sound.moved reel running ?_ ?_ ?_ ?_
  · refine { free := ?_, task := fun _ _ => rfl, impact := ?_, alive := id }
    · intro callback runs
      obtain rfl := Option.some.inj (calls.symm.trans runs)
      exact .inr rfl
    · exact fun other away => setImpact_other away
  · rcases waits with rfl | ⟨due, rfl⟩
    · exact sound.marked
    · exact sound.marked.arm (by simp) rfl
  · rintro _ ⟨⟩
    exact starting
  · intro live
    have quiet : s.impactOf reel = .idle := by
      have own := live.task reel
      unfold TaskLive at own
      rw [starting] at own
      cases impact : s.impactOf reel <;> simp [impact, calls] at own
      rfl
    refine .inr ⟨fun other _ _ promised => kept other promised, .of_stopping starting self rfl ?_,
      fun member => ?_, ?_⟩
    · rcases waits with rfl | ⟨due, rfl⟩
      · exact Waits.promised_enqueue
      · exact Waits.promised_arm
    · have impacted := live.impacted reel member
      rw [quiet] at impacted
      simp at impacted
    · rintro - ⟨third, shut, second⟩
      refine ⟨third, shut, fun lands => second ?_⟩
      by_cases own : barrierReel = reel
      · rw [own, quiet] at lands
        cases lands
      · exact (setImpact_other own).trans lands

theorem TaskLive.of_waiting {fulfilled : Bool} (task : s.task reel = .braking fulfilled)
    (impact : s.impactOf reel = .waiting) (promised : s.Promised (.impact reel)) :
    s.TaskLive reel := by
  simp only [TaskLive, task, impact]
  exact promised

/-- The target has returned its promise. -/
theorem Sound.stopCalled (sound : s.Sound) (running : s.presenting = true)
    (calls : s.control = some (.stopReel reel)) :
    (s.returned.setTask reel (.braking false)).Sound := by
  have starting : s.task reel = .starting := sound.serves _ calls
  have self : (s.returned.setTask reel (.braking false)).task reel =
      .braking false := setTask_self
  refine sound.moved reel running ?_ sound.marked ?_ ?_
  · refine { free := ?_, task := ?_, impact := fun _ _ => rfl, alive := ?_ }
    · intro callback runs
      obtain rfl := Option.some.inj (calls.symm.trans runs)
      exact .inr rfl
    · exact fun other away => setTask_other away
    · intro rejected
      rw [starting] at rejected
      cases rejected
  · rintro _ ⟨⟩
  · intro live
    have own := live.task reel
    unfold TaskLive at own
    rw [starting] at own
    have waiting : s.impactOf reel = .waiting ∧ s.Promised (.impact reel) := by
      cases impact : s.impactOf reel <;> simp [impact, calls] at own
      exact ⟨rfl, own⟩
    refine .inr ⟨fun _ _ _ promised => promised, .of_waiting self waiting.1 waiting.2,
      fun member => ?_, fun _ barred => ?_⟩
    · have impacted := live.impacted reel member
      rw [waiting.1] at impacted
      simp at impacted
    · by_cases third : anticipationReel = reel
      · have here := barred.1
        rw [third, self] at here
        cases here
      · exact barred.untouched third (fun other away => setTask_other away) rfl id

/-- The promise of the target settles. -/
theorem Sound.stopSettled (sound : s.Sound) (idle : s.control = none) {fulfilled : Bool}
    (settled : s.stopSettled reel fulfilled = some t) : t.Sound := by
  unfold Sequencer.stopSettled at settled
  split at settled
  case isFalse => cases settled
  case isTrue task =>
  obtain rfl := Option.some.inj settled
  have running : s.presenting = true := by
    by_contra stopped
    have fresh := (sound.rest (Bool.eq_false_iff.mpr stopped)).2.2
    have delayed : s.task reel = .delayed := by rw [fresh]
    rw [delayed] at task
    cases task
  cases fulfilled with
  | false =>
      refine .rejecting reel running rfl sound.marked idle ?_
      exact setTask_self
  | true =>
      show (s.setTask reel (.braking true)).Sound
      have self : (s.setTask reel (.braking true)).task reel = .braking true := setTask_self
      refine sound.moved reel running ?_ sound.marked ?_ ?_
      · refine { free := not_free idle, task := ?_, impact := fun _ _ => rfl, alive := ?_ }
        · exact fun other away => setTask_other away
        · intro rejected
          rw [task] at rejected
          cases rejected
      · intro callback calls
        exact absurd (idle.symm.trans calls) (by simp)
      · intro live
        refine .inr ⟨fun _ _ _ promised => promised, ?_, live.impacted reel, fun _ barred => ?_⟩
        · have own := live.task reel
          rcases own.braking task with waiting | landing | done
          · have promised : s.Promised (.impact reel) := by
              simpa [TaskLive, task, waiting] using own
            exact .of_waiting self waiting promised
          · simp [TaskLive, task, landing, idle] at own
          · have resolved : reel = barrierReel → s.Current → s.barrier = true := by
              simpa only [TaskLive, task, done] using own
            exact .of_done self done resolved
        · by_cases third : anticipationReel = reel
          · have here := barred.1
            rw [third, self] at here
            cases here
          · exact barred.untouched third (fun other away => setTask_other away) rfl id

/-- The impact that lands goes on to its next callback, and touches no task. -/
theorem Sound.landsOn (sound : s.Sound) (running : s.presenting = true) {callback next : Callback}
    (calls : s.control = some callback) (lands : callback.landing = some reel)
    (goes : t.control = some next) (own : next.landing = some reel)
    (landing : s.impactOf reel = .landing)
    (same : ({ t with impactedReels := s.impactedReels, allStoppedFired := s.allStoppedFired } :
      Sequencer).toPresentation = s.toPresentation)
    (impacted : ∀ other ∈ t.impactedReels, other = reel ∨ other ∈ s.impactedReels)
    (generation : t.presentationGeneration = s.presentationGeneration)
    (presenting : t.presenting = s.presenting) (waits : t.waits = s.waits)
    (serves : t.Serves next) (keeps : s.Live → Keeps s t) : t.Sound := by
  have task : t.task = s.task := (congrArg Presentation.task same :)
  have impact : t.impactOf = s.impactOf := (congrArg Presentation.impactOf same :)
  have barrier : t.barrier = s.barrier := (congrArg Presentation.barrier same :)
  refine sound.moved reel running ?_ ?_ ?_ ?_
  · refine { free := ?_, task := fun _ _ => by rw [task], impact := fun _ _ => by rw [impact],
             alive := ?_, generation := ?_, presenting := presenting, outro := ?_, barrier := ?_,
             opened := ?_, impacted := impacted }
    · intro runs here
      obtain rfl := Option.some.inj (calls.symm.trans here)
      exact .inl lands
    · rw [task]
      exact id
    · exact ⟨(congrArg Presentation.generation same :), generation⟩
    · exact (congrArg Presentation.outro same :)
    · rw [barrier]
      exact id
    · rw [barrier]
      exact fun _ closed isOpen => absurd (closed.symm.trans isOpen) (by decide)
  · intro wait member
    exact sound.marked wait (waits ▸ member)
  · intro callback runs
    obtain rfl := Option.some.inj (goes.symm.trans runs)
    exact serves
  · intro live
    obtain ⟨fulfilled, braking⟩ := (live.task reel).landing landing
    refine .inr ⟨keeps live, ?_, fun _ => .inl (by rw [impact, landing]), fun _ barred => ?_⟩
    · exact .of_landing (by rw [task, braking]) (by rw [impact, landing]) goes own
    · unfold Barred at barred ⊢
      rw [task, impact, barrier] at barred
      exact barred

theorem resolveImpact_eq (s : Sequencer) (reel : Reel) : ∃ barrier w,
    s.resolveImpact reel = { s with barrier := barrier, waits := w } ∧
      (barrier = s.barrier ∧ w = s.waits ∧ reel ≠ barrierReel ∨
        barrier = true ∧ reel = barrierReel ∧ (w = s.waits ∧ s.task anticipationReel ≠ .barred ∨
          w = s.waits.enqueue .barrier)) := by
  have second : reel.val + 1 = anticipationReel.val ↔ reel = barrierReel := by
    revert reel
    decide
  unfold resolveImpact
  split
  · next here =>
    dsimp only
    split
    · exact ⟨true, _, rfl, .inr ⟨rfl, second.mp here, .inr rfl⟩⟩
    · next elsewhere =>
      exact ⟨true, s.waits, rfl, .inr ⟨rfl, second.mp here, .inl ⟨rfl, elsewhere⟩⟩⟩
  · next away => exact ⟨s.barrier, s.waits, rfl, .inl ⟨rfl, rfl, fun here => away (second.mpr here)⟩⟩

/-- An impact is over, and resolves its barrier. -/
theorem Sound.impactDone (sound : s.Sound) (running : s.presenting = true) {callback : Callback}
    (calls : s.control = some callback) (lands : callback.landing = some reel)
    (landing : s.impactOf reel = .landing) : (s.impactDone reel).Sound := by
  obtain ⟨barrier, w, same, resolved⟩ := resolveImpact_eq (s.setImpact reel .done) reel
  have done : s.impactDone reel =
      { s.setImpact reel .done with barrier := barrier, waits := w, control := none } := by
    unfold Sequencer.impactDone
    rw [same]
  rw [done]
  have self : (s.setImpact reel .done).impactOf reel = .done := setImpact_self
  have kept : ∀ other, s.Promised other → w.Promised s.quickStopReleaseTimer.isSome other := by
    intro other promised
    rcases resolved with ⟨_, rfl, _⟩ | ⟨_, _, ⟨rfl, _⟩ | rfl⟩
    · exact promised
    · exact promised
    · exact promised.enqueue
  refine sound.moved reel running ?_ ?_ ?_ ?_
  · refine { free := ?_, task := fun _ _ => rfl, impact := ?_, alive := id, barrier := ?_,
             opened := ?_ }
    · intro runs here
      obtain rfl := Option.some.inj (calls.symm.trans here)
      exact .inl lands
    · exact fun other away => setImpact_other away
    · rcases resolved with ⟨rfl, _⟩ | ⟨rfl, _⟩
      · exact id
      · exact fun _ => rfl
    · intro third shut isOpen
      rcases resolved with ⟨rfl, _⟩ | ⟨_, _, ⟨_, elsewhere⟩ | rfl⟩
      · exact absurd (shut.symm.trans isOpen) (by decide)
      · exact absurd third elsewhere
      · exact Waits.promised_enqueue
  · rcases resolved with ⟨_, rfl, _⟩ | ⟨_, _, ⟨rfl, _⟩ | rfl⟩ <;> exact sound.marked
  · rintro _ ⟨⟩
  · intro live
    obtain ⟨fulfilled, braking⟩ := (live.task reel).landing landing
    refine .inr ⟨fun other _ _ promised => kept other promised, .of_done braking self ?_,
      fun _ => .inr self, ?_⟩
    · intro second _
      rcases resolved with ⟨_, _, away⟩ | ⟨rfl, _⟩
      · exact absurd second away
      · rfl
    · rintro - ⟨third, shut, second⟩
      rcases resolved with ⟨rfl, _, away⟩ | ⟨rfl, _⟩
      · exact ⟨third, shut, fun lands => second ((setImpact_other away.symm).trans lands)⟩
      · cases shut

/-- After the last stop no reel waits for its delay, so the quick-stop timer is not needed. -/
theorem Live.unrelieved (live : s.Live) (marked : s.Marked) (all : s.impactedReels.card = 3)
    {owner : Owner} (awaits : s.Awaits owner) (promised : s.Promised owner) (later : Bool) :
    s.waits.Promised later owner := by
  refine promised.unrelieved (fun wait member owned skippable => ?_) later
  obtain ⟨reel, isDelay⟩ := (marked wait member).mp skippable
  rw [← owned, isDelay] at awaits
  have idle := (live.task reel).delayed awaits
  have everyone : s.impactedReels = Finset.univ := by
    exact (Finset.card_eq_iff_eq_univ _).mp all
  have impacted := live.impacted reel (everyone ▸ Finset.mem_univ reel)
  rw [idle] at impacted
  simp at impacted

theorem Sound.land (sound : s.Sound) (running : s.presenting = true) {callback : Callback}
    (calls : s.control = some callback) (lands : callback.landing = some reel)
    (landing : s.impactOf reel = .landing) : (s.land reel).Sound := by
  have inserted : ({ s with impactedReels := insert reel s.impactedReels } : Sequencer).Sound := by
    refine sound.landsOn running calls lands calls lands landing rfl ?_ rfl rfl rfl
      (sound.serves callback calls) fun _ _ _ _ promised => promised
    exact fun other member => Finset.mem_insert.mp member
  unfold Sequencer.land
  dsimp only
  split
  · next last =>
    refine inserted.landsOn running calls lands rfl rfl landing rfl ?_ rfl rfl rfl landing
      fun live owner awaits _ promised => ?_
    · exact fun _ member => .inr member
    · exact live.unrelieved inserted.marked last.2 awaits promised _
  · exact inserted.impactDone running calls lands landing

theorem Sound.calmReel (sound : s.Sound) (running : s.presenting = true) {callback : Callback}
    (calls : s.control = some callback) (lands : callback.landing = some reel)
    (landing : s.impactOf reel = .landing) : (s.calmReel reel).Sound := by
  unfold Sequencer.calmReel
  split
  · obtain ⟨active, log, same⟩ := s.stopAnticipation_eq .reelImpact
    rw [same]
    exact sound.landsOn running calls lands rfl rfl landing rfl (fun _ member => .inr member) rfl
      rfl rfl landing fun _ _ _ _ promised => promised
  · exact sound.land running calls lands landing

theorem Sound.impactShown (sound : s.Sound) (running : s.presenting = true) {callback : Callback}
    (calls : s.control = some callback) (lands : callback.landing = some reel)
    (landing : s.impactOf reel = .landing) : (s.impactShown reel).Sound := by
  unfold Sequencer.impactShown
  split
  · exact sound.landsOn running calls lands rfl rfl landing rfl (fun _ member => .inr member) rfl
      rfl rfl landing fun _ _ _ _ promised => promised
  · exact sound.calmReel running calls lands landing

end Task

/-! ## Steps after the last stop -/

/-- A step of what follows the last stop, from a state that has taken a job or has ended a
callback. -/
theorem Sound.afterwards (sound : s.Sound) (running : s.presenting = true)
    (free : ∀ callback, s.control = some callback → callback.after = true)
    (same : ({ t with outro := s.outro } : Sequencer).toPresentation = s.toPresentation)
    (generation : t.presentationGeneration = s.presentationGeneration)
    (presenting : t.presenting = s.presenting) (marked : t.Marked)
    (serves : ∀ callback, t.control = some callback → t.Serves callback)
    (kept : ∀ owner, owner ≠ .outro → s.Promised owner → t.Promised owner)
    (outro : t.OutroLive) : t.Sound := by
  have task : t.task = s.task := (congrArg Presentation.task same :)
  have impact : t.impactOf = s.impactOf := (congrArg Presentation.impactOf same :)
  have barrier : t.barrier = s.barrier := (congrArg Presentation.barrier same :)
  have impacted : t.impactedReels = s.impactedReels := (congrArg Presentation.impactedReels same :)
  have numbered : t.generation = s.generation := (congrArg Presentation.generation same :)
  have current : t.Current ↔ s.Current := by
    unfold Current
    rw [numbered, generation]
  refine ⟨marked, serves, fun _ => ?_, fun stopped => ?_⟩
  · rcases sound.live running with ⟨reel, rejected⟩ | live
    · exact .inl ⟨reel, by rw [task]; exact rejected⟩
    refine .inr ⟨fun reel => ?_, outro, ?_, ?_, ?_⟩
    · refine (live.task reel).keep (by rw [task]) (by rw [impact]) (fun runs => ?_) current.mp
        (by rw [barrier]; exact id) ?_ ?_
      · refine absurd runs ((live.task reel).silent fun callback here => ?_)
        have after := free callback here
        simp only [Callback.after, Bool.and_eq_true, Option.isNone_iff_eq_none] at after
        rw [after.1, after.2]
        exact ⟨by simp, by simp⟩
      · rw [barrier]
        exact fun _ closed isOpen => absurd (closed.symm.trans isOpen) (by decide)
      · intro owner _ awaits promised
        cases owner with
        | outro =>
            unfold OutroLive at outro
            rcases awaits with phase | phase | phase | phase <;>
              simpa only [phase] using outro
        | delay reel => exact kept _ (by simp) promised
        | barrier => exact kept _ (by simp) promised
        | impact reel => exact kept _ (by simp) promised
    · rw [impacted, impact]
      exact live.impacted
    · unfold Barred
      rw [task, barrier, impact, current]
      exact live.open'
    · rw [numbered, generation]
      exact live.issued
  · rw [presenting, running] at stopped
    cases stopped

section Outro

variable {w : Waits Owner} {log : List Event}

/-- The waits that a step after the last stop goes on with: those of the state, or what is
left of them when its job is taken. -/
structure Lends (s : Sequencer) (w : Waits Owner) : Prop where
  running : s.presenting = true
  free : ∀ callback, s.control = some callback → callback.after = true
  marked : ({ s with waits := w } : Sequencer).Marked
  kept : ∀ owner, owner ≠ .outro → s.Promised owner →
    w.Promised s.quickStopReleaseTimer.isSome owner

theorem Lends.same (sound : s.Sound) (running : s.presenting = true)
    (free : ∀ callback, s.control = some callback → callback.after = true) : Lends s s.waits :=
  ⟨running, free, sound.marked, fun _ _ promised => promised⟩

theorem Lends.taken (sound : s.Sound) (running : s.presenting = true) (idle : s.control = none)
    (taken : s.waits.take = some (.outro, w)) : Lends s w where
  running := running
  free := by
    intro callback runs
    rw [idle] at runs
    cases runs
  marked := sound.marked.resumed taken fun _ member => member
  kept := fun _ other promised => promised.take taken other

theorem Sound.outroFinished (sound : s.Sound) (lends : Lends s w) :
    ({ s with waits := w, log := log } : Sequencer).outroFinished.Sound := by
  refine sound.afterwards lends.running lends.free rfl rfl rfl lends.marked ?_ lends.kept trivial
  rintro _ ⟨⟩

theorem Sound.outroActs (sound : s.Sound) (lends : Lends s w) {callback : Callback}
    (after : callback.after = true) :
    (({ s with waits := w, log := log } : Sequencer).outroActs callback).Sound := by
  refine sound.afterwards lends.running lends.free rfl rfl rfl lends.marked ?_ lends.kept
    ⟨callback, rfl, after⟩
  rintro _ ⟨⟩
  cases callback <;> first | rfl | cases after

theorem Sound.outroWaits (sound : s.Sound) (lends : Lends s w) {outro : Outro} {ms : ℚ}
    (waiting : outro = .hiding ∨ outro = .clearing ∨ outro = .fading ∨ outro = .lingering) :
    (({ s with waits := w, log := log } : Sequencer).outroWaits outro ms).Sound := by
  obtain ⟨w', same, waits⟩ :=
    wait_eq ({ s with waits := w, log := log, outro := outro }) .outro ms false
  have waited : ({ s with waits := w, log := log } : Sequencer).outroWaits outro ms =
      { s with waits := w', log := log, outro := outro, control := none } := by
    unfold Sequencer.outroWaits setOutro
    rw [same]
  rw [waited]
  refine sound.afterwards lends.running lends.free rfl rfl rfl ?_ ?_ ?_ ?_
  · rcases waits with rfl | rfl
    · exact lends.marked
    · exact lends.marked.arm (by simp) rfl
  · rintro _ ⟨⟩
  · intro owner other promised
    have kept := lends.kept owner other promised
    rcases waits with rfl | rfl
    · exact kept.enqueue
    · exact kept.arm
  · have promised : w'.Promised s.quickStopReleaseTimer.isSome .outro := by
      rcases waits with rfl | rfl
      · exact Waits.promised_enqueue
      · exact Waits.promised_arm
    rcases waiting with rfl | rfl | rfl | rfl <;> exact promised

/-- A hook has returned a promise. -/
theorem Sound.outroAwaits (sound : s.Sound) (lends : Lends s s.waits) {outro : Outro}
    (awaits : outro = .reacting ∨ outro = .completing) :
    (s.returned.setOutro outro).Sound := by
  refine sound.afterwards lends.running lends.free rfl rfl rfl lends.marked ?_ lends.kept ?_
  · rintro _ ⟨⟩
  · rcases awaits with rfl | rfl <;> trivial

theorem Sound.activate (sound : s.Sound) (lends : Lends s w) :
    ({ s with waits := w, log := log } : Sequencer).activate.Sound :=
  sound.outroActs lends rfl

theorem Sound.presentPostStopActivation (sound : s.Sound) (lends : Lends s s.waits) :
    s.presentPostStopActivation.Sound := by
  unfold Sequencer.presentPostStopActivation
  split
  · exact sound.outroFinished lends
  split
  · split
    · exact sound.outroWaits lends (.inl rfl)
    · exact sound.outroFinished lends
  · exact sound.outroActs lends rfl

theorem Sound.transitionStarted (sound : s.Sound) (lends : Lends s s.waits) :
    s.transitionStarted.Sound := by
  unfold Sequencer.transitionStarted
  split
  · exact sound.outroFinished lends
  split
  · exact sound.outroWaits lends (.inr (.inr (.inl rfl)))
  · exact sound.activate lends

theorem Sound.activated (sound : s.Sound) (lends : Lends s s.waits) : s.activated.Sound := by
  unfold Sequencer.activated
  split
  · exact sound.outroFinished lends
  · exact sound.outroActs lends rfl

theorem Sound.played (sound : s.Sound) (lends : Lends s s.waits) : s.played.Sound := by
  unfold Sequencer.played
  split
  · exact sound.outroFinished lends
  · exact sound.outroWaits lends (.inr (.inr (.inr rfl)))

/-- A job that nobody awaits any more does nothing. -/
theorem Sound.ignored (sound : s.Sound) {owner : Owner} (taken : s.waits.take = some (owner, w))
    (gone : ¬ s.Awaits owner) : ({ s with waits := w } : Sequencer).Sound := by
  refine sound.keep rfl rfl rfl rfl (sound.marked.resumed taken fun _ member => member) ?_ ?_
  · intro empty
    rw [empty] at taken
    cases taken
  · exact fun _ _ => .resumed taken gone fun _ promised => promised

theorem Sound.outroOver (sound : s.Sound) (running : s.presenting = true) (idle : s.control = none)
    (taken : s.waits.take = some (.outro, w)) :
    ({ s with waits := w } : Sequencer).outroOver.Sound := by
  have lends := Lends.taken sound running idle taken
  unfold Sequencer.outroOver
  split
  · split
    · exact sound.outroFinished lends
    · exact sound.outroActs lends rfl
  · exact sound.outroFinished lends
  · split
    · exact sound.outroFinished lends
    · exact sound.activate lends
  · split
    · exact sound.outroFinished lends
    · exact sound.outroActs lends rfl
  · next none₁ none₂ none₃ none₄ =>
    refine sound.ignored taken ?_
    rintro (phase | phase | phase | phase)
    · exact none₁ phase
    · exact none₂ phase
    · exact none₃ phase
    · exact none₄ phase

end Outro

/-! ## Every step -/

theorem Sound.running (sound : s.Sound)
    (busy : s.control ≠ none ∨ s.waits ≠ {} ∨ s.outro ≠ .resting) : s.presenting = true := by
  by_contra stopped
  obtain ⟨idle, drained, fresh⟩ := sound.rest (Bool.eq_false_iff.mpr stopped)
  rcases busy with busy | busy | busy
  · exact busy idle
  · exact busy drained
  · exact busy (by rw [fresh])

theorem Sound.resume (sound : s.Sound) (idle : s.control = none) (resumed : s.resume = some t) :
    t.Sound := by
  unfold Sequencer.resume at resumed
  split at resumed
  · cases resumed
  next owner rest taken =>
  have running : s.presenting = true := by
    refine sound.running (.inr (.inl fun empty => ?_))
    rw [empty] at taken
    cases taken
  obtain rfl := Option.some.inj resumed
  cases owner with
  | delay reel =>
      dsimp only
      split
      · next task => exact sound.delayOver running idle taken task
      · next gone => exact sound.ignored taken gone
  | barrier =>
      dsimp only
      split
      · next task => exact sound.barrierOver running idle taken task
      · next gone => exact sound.ignored taken gone
  | impact reel =>
      dsimp only
      split
      · next waiting => exact sound.impactOver running idle taken waiting
      · next gone => exact sound.ignored taken gone
  | outro => exact sound.outroOver running idle taken

theorem Sound.hookSettled (sound : s.Sound) (idle : s.control = none)
    (settled : s.hookSettled = some t) : t.Sound := by
  have free : ∀ callback, s.control = some callback → callback.after = true := by
    intro callback runs
    rw [idle] at runs
    cases runs
  unfold Sequencer.hookSettled at settled
  split at settled
  · next phase =>
    obtain rfl := Option.some.inj settled
    have running := sound.running (.inr (.inr (by rw [phase]; decide)))
    exact sound.activated (.same sound running free)
  · next phase =>
    obtain rfl := Option.some.inj settled
    have running := sound.running (.inr (.inr (by rw [phase]; decide)))
    exact sound.outroFinished (.same sound running free)
  · cases settled

theorem Sound.reply (sound : s.Sound) {callback : Callback} (calls : s.control = some callback)
    (reply : Reply) : (s.reply callback reply).Sound := by
  have running := sound.running (.inl (by rw [calls]; simp))
  have serves := sound.serves callback calls
  have lends (after : callback.after = true) : Lends s s.waits := by
    refine .same sound running fun other runs => ?_
    obtain rfl := Option.some.inj (calls.symm.trans runs)
    exact after
  cases callback with
  | stopStart reel =>
      unfold Sequencer.reply
      dsimp only
      split
      · exact .rejecting reel running rfl sound.marked rfl setTask_self
      · exact sound.stopStarted running calls
  | stopReel reel =>
      unfold Sequencer.reply
      dsimp only
      split
      · exact .rejecting reel running rfl sound.marked rfl setTask_self
      · exact sound.stopCalled running calls
  | commit reel =>
      unfold Sequencer.reply
      dsimp only
      split
      · exact .rejecting reel running rfl sound.marked rfl setTask_self
      · exact sound.landsOn running calls rfl rfl rfl serves rfl (fun _ member => .inr member) rfl
          rfl rfl serves fun _ _ _ _ promised => promised
  | impact reel => exact sound.impactShown running calls rfl serves
  | anticipation reel => exact sound.calmReel running calls rfl serves
  | calm reel => exact sound.land running calls rfl serves
  | allStopped reel =>
      unfold Sequencer.reply
      dsimp only
      split
      · obtain ⟨barrier, w, same, resolved⟩ := resolveImpact_eq s reel
        rw [same]
        refine .rejecting reel running rfl ?_ rfl setTask_self
        rcases resolved with ⟨_, rfl, _⟩ | ⟨_, _, ⟨rfl, _⟩ | rfl⟩ <;> exact sound.marked
      · have done := sound.impactDone running calls rfl serves
        refine done.presentPostStopActivation (.same done ?_ ?_)
        · obtain ⟨barrier, w, same, _⟩ := resolveImpact_eq (s.setImpact reel .done) reel
          unfold Sequencer.impactDone
          rw [same]
          exact running
        · rintro _ ⟨⟩
  | hideComplete => exact sound.outroWaits (lends rfl) (.inr (.inl rfl))
  | transition => exact sound.transitionStarted (lends rfl)
  | activation =>
      unfold Sequencer.reply
      dsimp only
      split
      · exact sound.outroAwaits (lends rfl) (.inl rfl)
      · exact sound.activated (lends rfl)
  | play => exact sound.played (lends rfl)
  | activationComplete =>
      unfold Sequencer.reply
      dsimp only
      split
      · exact sound.outroAwaits (lends rfl) (.inr rfl)
      · exact sound.outroFinished (lends rfl)

/-- What a step does not do: cancel while the third reel is at a barrier that the impact of
the second will not resolve any more, mark a spin start while a delay has only the quick-stop
timer left, or swallow the timer of a delay when that timer is gone. -/
def Spares (s : Sequencer) : Action → Prop
  | .cancel => s.presenting = true → ¬ s.Rejected → ¬ s.Barred
  | .markSpinStart _ => ∀ wait ∈ s.waits.pending, wait.armed = true
  | .fire (.delay _) => s.fastForwardRequested = true → s.quickStopFloorReached = false →
      s.quickStopReleaseTimer.isSome = true
  | _ => True

instance (s : Sequencer) (action : Action) : Decidable (s.Spares action) := by
  unfold Spares
  split <;> infer_instance

theorem Sound.step (sound : s.Sound) {action : Action} (spares : s.Spares action)
    (stepped : step options s action = some t) : t.Sound := by
  cases action with
  | tick now => exact Option.some.inj stepped ▸ sound.tick now
  | markSpinStart atMs => exact Option.some.inj stepped ▸ sound.markSpinStart atMs spares
  | requestFastForward targetThrows =>
      exact Option.some.inj stepped ▸ sound.requestFastForward targetThrows
  | cancel => exact Option.some.inj stepped ▸ sound.cancel spares
  | present grid fastPlay setRowsThrows =>
      obtain rfl := Option.some.inj stepped
      cases begun : s.present options grid fastPlay setRowsThrows with
      | error refused => exact sound
      | ok after => exact sound.present begun
  | reply reply =>
      obtain ⟨callback, calls, rfl⟩ := Option.map_eq_some_iff.mp stepped
      exact sound.reply calls reply
  | fire owner =>
      simp only [Sequencer.step, Option.ite_none_right_eq_some] at stepped
      refine sound.fire stepped.2 ?_
      rintro ⟨reel, rfl⟩
      exact spares
  | fireQuickStop =>
      simp only [Sequencer.step, Option.ite_none_right_eq_some] at stepped
      exact sound.fireQuickStop stepped.2
  | resume =>
      simp only [Sequencer.step, Option.ite_none_right_eq_some] at stepped
      exact sound.resume stepped.1 stepped.2
  | stopSettled reel fulfilled =>
      simp only [Sequencer.step, Option.ite_none_right_eq_some] at stepped
      exact sound.stopSettled stepped.1 stepped.2
  | hookSettled =>
      simp only [Sequencer.step, Option.ite_none_right_eq_some] at stepped
      exact sound.hookSettled stepped.1 stepped.2
  | conclude =>
      simp only [Sequencer.step, Option.ite_none_right_eq_some] at stepped
      exact .conclude stepped.1.1 stepped.2

theorem Sound.initial : Sequencer.initial.Sound where
  marked := by
    intro wait member
    cases member
  serves := by
    intro callback runs
    cases runs
  live := by
    intro running
    cases running
  rest := fun _ => ⟨rfl, rfl, rfl⟩

/-- The states of the runs whose steps all spare the presentation. -/
def Reached (options : StopPlanOptions) : Sequencer → Prop :=
  Reachable (· = initial) fun s t => ∃ action, s.Spares action ∧ step options s action = some t

theorem Reached.sound (reached : Reached options s) : s.Sound := by
  refine Reachable.invariant Sound ?_ ?_ reached
  · rintro _ rfl
    exact .initial
  · rintro before after _ sound ⟨action, spares, stepped⟩
    exact sound.step spares stepped

/-! ## At rest -/

/-- No timer of the sequencer is armed, every promise of the target and of the hooks has
settled, and every microtask has run. -/
structure AtRest (s : Sequencer) : Prop where
  returned : s.control = none
  drained : s.waits.jobs = []
  timers : ∀ wait ∈ s.waits.pending, wait.armed = false
  quickStop : s.quickStopReleaseTimer = none
  target : ∀ reel, s.task reel ≠ .braking false
  hooks : s.outro ≠ .reacting ∧ s.outro ≠ .completing
  concluded : s.presenting = true → s.conclude = none

theorem AtRest.unpromised (rest : s.AtRest) (owner : Owner) : ¬ s.Promised owner := by
  intro promised
  unfold Promised at promised
  rw [rest.quickStop] at promised
  obtain ⟨wait, member, armed⟩ := Waits.Promised.unsettled promised rest.drained
  rw [rest.timers wait member] at armed
  cases armed

/-- Nothing keeps a task waiting at rest but the barrier of a presentation that was not
cancelled. -/
theorem TaskLive.settled {reel : Reel} (live : s.TaskLive reel) (rest : s.AtRest) :
    (s.task reel = .braking true ∧ s.impactOf reel = .done ∧
      (reel = barrierReel → s.Current → s.barrier = true)) ∨
    (s.task reel = .barred ∧ reel = anticipationReel ∧ s.barrier = false) ∨
    (s.task reel = .returned ∧ ¬ s.Current) := by
  have silent := rest.unpromised
  have returned := rest.returned
  unfold TaskLive at live
  cases task : s.task reel <;> cases impact : s.impactOf reel <;>
    simp only [task, impact] at live
  case delayed.idle => exact absurd live (silent _)
  case barred.idle =>
    refine .inr (.inl ⟨rfl, live.1, ?_⟩)
    by_contra isOpen
    exact silent _ (live.2 (Bool.not_eq_false _ ▸ isOpen))
  case starting.idle => rw [returned] at live; cases live
  case starting.waiting => exact absurd live.2 (silent _)
  case braking.waiting => exact absurd live (silent _)
  case braking.landing =>
    obtain ⟨callback, runs, _⟩ := live
    rw [returned] at runs
    cases runs
  case braking.done fulfilled =>
    cases fulfilled with
    | false => exact absurd task (rest.target reel)
    | true => exact .inl ⟨rfl, rfl, live⟩
  case returned.idle => exact .inr (.inr ⟨rfl, live⟩)

theorem Live.tasksSettled (live : s.Live) (rest : s.AtRest) (reel : Reel) : s.TaskSettled reel := by
  rcases (live.task reel).settled rest with ⟨task, impact, _⟩ | ⟨task, third, shut⟩ | ⟨task, _⟩
  · exact .inr ⟨task, impact⟩
  · -- The impact of the second reel has settled too, and resolved the barrier.
    subst third
    have second := (live.task barrierReel).settled rest
    have current : s.Current := by
      refine live.open' ⟨task, shut, fun lands => ?_⟩
      rcases second with ⟨_, done, _⟩ | ⟨_, third, _⟩ | ⟨task, _⟩
      · rw [done] at lands
        cases lands
      · exact absurd third (by decide)
      · obtain ⟨fulfilled, braking⟩ := (live.task barrierReel).landing lands
        rw [braking] at task
        cases task
    rcases second with ⟨_, _, resolved⟩ | ⟨_, third, _⟩ | ⟨_, stale⟩
    · exact absurd (shut.symm.trans (resolved rfl current)) (by decide)
    · exact absurd third (by decide)
    · exact absurd current stale
  · exact .inl task

theorem Live.outroSettled (live : s.Live) (rest : s.AtRest) :
    s.outro = .resting ∨ s.outro = .finished := by
  have outro := live.outro
  have silent := rest.unpromised .outro
  unfold OutroLive at outro
  cases phase : s.outro <;> simp only [phase] at outro
  case resting => exact .inl rfl
  case finished => exact .inr rfl
  case acting =>
    obtain ⟨callback, runs, _⟩ := outro
    rw [rest.returned] at runs
    cases runs
  case reacting => exact absurd phase rest.hooks.1
  case completing => exact absurd phase rest.hooks.2
  all_goals exact absurd outro silent

/-- **A presentation never wedges the sequencer**, as long as no step takes away what a task
waits for: at rest no presentation is active, and the next one is accepted. -/
theorem presentation_settles (reached : Reached options s) (rest : s.AtRest) :
    s.presenting = false ∧ ∀ grid fastPlay setRowsThrows, malformed grid = false →
      ∃ t, s.present options grid fastPlay setRowsThrows = .ok t := by
  have stopped : s.presenting = false := by
    by_contra running
    have running : s.presenting = true := by simpa using running
    have waits := rest.concluded running
    unfold conclude at waits
    rcases reached.sound.live running with rejected | live
    · obtain ⟨reel, rejected⟩ := rejected
      rw [if_pos ⟨reel, rejected⟩] at waits
      cases waits
    · split at waits
      · cases waits
      · rw [if_pos ⟨live.tasksSettled rest, live.outroSettled rest⟩] at waits
        cases waits
  refine ⟨stopped, fun grid fastPlay setRowsThrows accepted => ?_⟩
  unfold Sequencer.present
  simp only [accepted, stopped, Bool.false_eq_true, if_false]
  split
  · exact ⟨_, rfl⟩
  · split
    · exact ⟨_, rfl⟩
    · exact ⟨_, rfl⟩

/-! ## A presentation with anticipation -/

def surgeCell : GridCell := { symbol := .surge }

def orbitCell : GridCell := { symbol := .orbit }

/-- The first two reels hold a surge each. -/
def teasingGrid : ClientGrid :=
  [[surgeCell, orbitCell, orbitCell], [surgeCell, orbitCell, orbitCell],
    [orbitCell, orbitCell, orbitCell]]

/-- The delay of a reel is over, and it starts to brake. -/
def brakes (reel : Reel) : List Action :=
  [.fire (.delay reel), .resume, .reply .value, .reply .value]

/-- The round until the second reel brakes. -/
def teasing : List Action :=
  [.markSpinStart none, .present teasingGrid false false, .tick 1500] ++
    brakes firstReel ++ [.tick 1800] ++ brakes barrierReel ++
    [.fire (.impact firstReel), .resume, .reply .value, .reply .value]

def run (options : StopPlanOptions) (actions : List Action) : Option Sequencer :=
  actions.foldlM (step options) initial

/-- A run each of whose steps spares the presentation. -/
def sparingRun (options : StopPlanOptions) (actions : List Action) : Option Sequencer :=
  actions.foldlM (fun s action => if s.Spares action then step options s action else none) initial

theorem sparingRun_reached {actions : List Action} (ran : sparingRun options actions = some s) :
    Reached options s := by
  have from_here : ∀ (actions : List Action) (start : Sequencer), Reached options start →
      actions.foldlM (fun s action => if s.Spares action then step options s action else none)
        start = some s → Reached options s := by
    intro actions
    induction actions with
    | nil => intro start reached ran; exact Option.some.inj ran ▸ reached
    | cons action rest ih =>
        intro start reached ran
        rw [List.foldlM_cons] at ran
        obtain ⟨next, stepped, ran⟩ := Option.bind_eq_some_iff.mp ran
        rw [Option.ite_none_right_eq_some] at stepped
        exact ih next (reached.next ⟨action, stepped⟩) ran
  exact from_here actions _ (.start rfl) ran

/-- `AtRest`, as a test. -/
def restful (s : Sequencer) : Bool :=
  s.control.isNone && s.waits.jobs.isEmpty && s.waits.pending.all (fun wait => !wait.armed) &&
    s.quickStopReleaseTimer.isNone && decide (∀ reel, s.task reel ≠ .braking false) &&
    decide (s.outro ≠ .reacting ∧ s.outro ≠ .completing) && (!s.presenting || s.conclude.isNone)

theorem atRest_of_restful (restful : s.restful = true) : s.AtRest := by
  simp only [Sequencer.restful, Bool.and_eq_true, decide_eq_true_eq, Option.isNone_iff_eq_none,
    List.isEmpty_iff, List.all_eq_true, Bool.not_eq_true', Bool.or_eq_true] at restful
  obtain ⟨⟨⟨⟨⟨⟨returned, drained⟩, timers⟩, quickStop⟩, target⟩, hooks⟩, concluded⟩ := restful
  refine ⟨returned, drained, timers, quickStop, target, hooks, fun running => ?_⟩
  rcases concluded with stopped | concluded
  · exact absurd (running.symm.trans stopped) (by decide)
  · exact concluded

/-- The round is cancelled while its third reel still spins, and the second lands. -/
theorem teasing_settles : ∃ s, sparingRun {} (teasing ++
      [.cancel, .resume, .resume, .stopSettled 0 true, .stopSettled 1 true, .conclude]) = some s ∧
    s.presenting = false ∧ ∀ grid fastPlay setRowsThrows, malformed grid = false →
      ∃ t, s.present {} grid fastPlay setRowsThrows = .ok t := by
  have ends : (sparingRun {} (teasing ++ [.cancel, .resume, .resume, .stopSettled 0 true,
      .stopSettled 1 true, .conclude])).map restful = some true := by
    decide +kernel
  obtain ⟨s, ran, restful⟩ := Option.map_eq_some_iff.mp ends
  exact ⟨s, ran, presentation_settles (sparingRun_reached ran) (atRest_of_restful restful)⟩

/-- **The barrier that nobody resolves.**  A quick stop brings the third reel to the barrier
before the impact of the second, and the round is cancelled in between.  The sequencer is at
rest, and refuses every later presentation. -/
theorem presentation_wedged : ∃ s, run {} (teasing ++ [.tick 1810, .requestFastForward false,
      .resume, .tick 1900, .cancel, .resume, .stopSettled 0 true, .stopSettled 1 true]) = some s ∧
    s.AtRest ∧ s.presenting = true ∧
    s.present {} teasingGrid false false = .error .alreadyActive := by
  have ends : (run {} (teasing ++ [.tick 1810, .requestFastForward false, .resume, .tick 1900,
      .cancel, .resume, .stopSettled 0 true, .stopSettled 1 true])).map
        (fun s => s.restful && s.presenting) = some true := by
    decide +kernel
  obtain ⟨s, ran, facts⟩ := Option.map_eq_some_iff.mp ends
  simp only [Bool.and_eq_true] at facts
  refine ⟨s, ran, atRest_of_restful facts.1, facts.2, ?_⟩
  unfold Sequencer.present
  rw [if_neg (by decide), if_pos facts.2]

end Sequencer

end SlotsGame.Reels
