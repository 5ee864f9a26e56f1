/-
# SlotsGame.Assets.Accounting -- packages, bytes and permits are accounted for

`Permits options s` is the semaphore: a permit is held by each resource between its
`acquire` and its `release`, never more than the limit, and an aborted resource is not
in the queue.  With the reference counts it is `Accounted`, which holds in every state
that is reached (`accounts_kept`).

A permit belongs to a resource, not to the load of its package: a load that failed on
one resource has ended, while a sibling still holds its permit
(`permit_outlives_load`).
-/
import SlotsGame.Assets.References
import SlotsGame.Theory.Runs

namespace SlotsGame.Assets

open SlotsGame.Theory

set_option autoImplicit false

def ResourceLoad.holds (resource : ResourceLoad) : Bool := resource.phase = .holding

namespace Manager

structure Permits (options : Options) (s : Manager) : Prop where
  held : s.active = s.resources.countP ResourceLoad.holds
  bounded : s.active ≤ options.concurrency
  distinct : s.queue.Nodup
  queued : ∀ n, n ∈ s.queue ↔ ∃ resource, s.resources[n]? = some resource ∧ resource.phase = .queued
  full : s.queue ≠ [] → s.active = options.concurrency
  listening : ∀ resource ∈ s.resources, resource.phase = .queued →
    s.attemptAborted resource.attempt = false

variable {options : Options} {s t u : Manager}

/-! ## Operations that leave the semaphore -/

structure Untouched (s t : Manager) : Prop where
  resources : t.resources = s.resources
  active : t.active = s.active
  queue : t.queue = s.queue
  aborted : ∀ a, t.attemptAborted a = s.attemptAborted a

theorem Untouched.trans (first : Untouched s t) (second : Untouched t u) : Untouched s u :=
  ⟨second.resources.trans first.resources, second.active.trans first.active,
    second.queue.trans first.queue, fun a => (second.aborted a).trans (first.aborted a)⟩

theorem setPhase_untouched (a : Nat) (phase : AttemptPhase) : Untouched s (s.setPhase a phase) := by
  refine ⟨rfl, rfl, rfl, fun b => ?_⟩
  simp only [attemptAborted, setPhase_apply]
  split
  · simp [Function.comp_def]
  · rfl

theorem updateRuntime_untouched (id : String) (change : PackageRuntime → PackageRuntime) :
    Untouched s (s.updateRuntime id change) := ⟨rfl, rfl, rfl, fun _ => rfl⟩

theorem setLoad_untouched (l : Nat) (phase : LoadPhase) : Untouched s (s.setLoad l phase) :=
  ⟨rfl, rfl, rfl, fun _ => rfl⟩

theorem setAcquisition_untouched (q : Nat) (acquisition : Acquisition) :
    Untouched s (s.setAcquisition q acquisition) := ⟨rfl, rfl, rfl, fun _ => rfl⟩

theorem startLoad_untouched (id : String) (signal : Option AbortSignal) :
    Untouched s (s.startLoad options id signal) := by
  refine ⟨rfl, rfl, rfl, fun b => ?_⟩
  show (((s.attempts ++ [_])[b]?).map Attempt.aborted).getD false = _
  unfold attemptAborted
  rcases Nat.lt_trichotomy b s.attempts.length with inside | rfl | outside
  · rw [List.getElem?_append_left inside]
  · simp
  · rw [List.getElem?_eq_none (by simp; omega), List.getElem?_eq_none (by omega)]

theorem load_untouched (id : String) (signal : Option AbortSignal) :
    Untouched s (s.load options id signal) := by
  rcases load_cases id signal with ⟨_, same⟩ | ⟨a, _, _, _, same⟩ | ⟨_, _, same⟩
  · rw [same]
    exact ⟨rfl, rfl, rfl, fun _ => rfl⟩
  · rw [same]
    exact ⟨rfl, rfl, rfl, fun _ => rfl⟩
  · rw [same]
    exact startLoad_untouched id signal

theorem Permits.untouched (sound : Permits options s) (same : Untouched s t) :
    Permits options t where
  held := by rw [same.active, same.resources, sound.held]
  bounded := same.active ▸ sound.bounded
  distinct := same.queue ▸ sound.distinct
  queued := fun n => by rw [same.queue, same.resources, sound.queued]
  full := fun waits => by rw [same.active, sound.full (same.queue ▸ waits)]
  listening := fun resource member waits => by
    rw [same.aborted, sound.listening resource (same.resources ▸ member) waits]

/-! ## Permits are taken, kept and handed on -/

theorem Permits.acquirePermit (sound : Permits options s) {a : Nat}
    (live : s.attemptAborted a = false) (bytes : Nat) :
    Permits options (acquirePermit options.concurrency a s bytes) := by
  have appended : ∀ (new : ResourceLoad) (n : Nat) (resource : ResourceLoad),
      (s.resources ++ [new])[n]? = some resource →
        s.resources[n]? = some resource ∨ (n = s.resources.length ∧ resource = new) := by
    intro new n resource found
    rcases Nat.lt_or_ge n s.resources.length with inside | outside
    · exact .inl (by rwa [List.getElem?_append_left inside] at found)
    · rw [List.getElem?_append_right outside] at found
      have here : n - s.resources.length = 0 := by
        have := (List.getElem?_eq_some_iff.mp found).1
        simpa using this
      rw [here] at found
      exact .inr ⟨by omega, (Option.some.inj found).symm⟩
  have kept : ∀ (new : ResourceLoad) (n : Nat) (resource : ResourceLoad),
      s.resources[n]? = some resource → (s.resources ++ [new])[n]? = some resource := by
    intro new n resource found
    rw [List.getElem?_append_left (List.getElem?_eq_some_iff.mp found).1, found]
  have listens : ∀ (new : ResourceLoad), new.attempt = a → ∀ resource ∈ s.resources ++ [new],
      resource.phase = .queued → s.attemptAborted resource.attempt = false := by
    intro new own resource member waits
    rcases List.mem_append.mp member with old | last
    · exact sound.listening resource old waits
    · rw [List.mem_singleton.mp last, own, live]
  unfold Manager.acquirePermit
  split
  · next room =>
      refine ⟨?_, room, sound.distinct, ?_, ?_, listens _ rfl⟩
      · rw [countP_push, ← sound.held]
        simp [ResourceLoad.holds]
      · intro n
        rw [sound.queued n]
        constructor
        · rintro ⟨resource, found, waits⟩
          exact ⟨resource, kept _ n resource found, waits⟩
        · rintro ⟨resource, found, waits⟩
          rcases appended _ n resource found with old | ⟨_, rfl⟩
          · exact ⟨resource, old, waits⟩
          · cases waits
      · intro waits
        have := sound.full waits
        omega
  · next crowded =>
      have fresh : s.resources.length ∉ s.queue := by
        rw [sound.queued]
        rintro ⟨resource, found, _⟩
        have := (List.getElem?_eq_some_iff.mp found).1
        omega
      refine ⟨?_, sound.bounded, ?_, ?_, ?_, listens _ rfl⟩
      · rw [countP_push, ← sound.held]
        simp [ResourceLoad.holds]
      · rw [List.nodup_append]
        refine ⟨sound.distinct, List.nodup_singleton _, ?_⟩
        rintro n member m last rfl
        exact fresh (List.mem_singleton.mp last ▸ member)
      · intro n
        rw [List.mem_append, List.mem_singleton, sound.queued n]
        constructor
        · rintro (⟨resource, found, waits⟩ | rfl)
          · exact ⟨resource, kept _ n resource found, waits⟩
          · exact ⟨_, List.getElem?_concat_length, rfl⟩
        · rintro ⟨resource, found, waits⟩
          rcases appended _ n resource found with old | ⟨here, _⟩
          · exact .inl ⟨resource, old, waits⟩
          · exact .inr here
      · intro _
        have := sound.bounded
        show s.active = options.concurrency
        omega

theorem Permits.loadResources (sound : Permits options s) {a : Nat} (id : String)
    (live : s.attemptAborted a = false) : Permits options (s.loadResources options a id) := by
  have fold : ∀ (sizes : List Nat) (u : Manager), Permits options u → u.attemptAborted a = false →
      Permits options (sizes.foldl (Manager.acquirePermit options.concurrency a) u) := by
    intro sizes
    induction sizes with
    | nil => intro u sound _; exact sound
    | cons bytes rest ih =>
        intro u sound live
        refine ih _ (sound.acquirePermit live bytes) ?_
        unfold Manager.acquirePermit
        split <;> exact live
  have same : Untouched s ((s.updateRuntime id fun runtime =>
      { runtime with state := .fetching, progress := 0, error := none }).setPhase a .loading) :=
    (updateRuntime_untouched id _).trans (setPhase_untouched a _)
  exact fold _ _ (sound.untouched same) (by rw [same.aborted, live])

theorem attemptAborted_abort {a b : Nat} (away : b ≠ a) :
    (s.abortAttempt a).attemptAborted b = s.attemptAborted b := by
  simp [attemptAborted, abortAttempt, away.symm]

theorem Permits.abortAttempt (sound : Permits options s) (a : Nat) :
    Permits options (s.abortAttempt a) := by
  have same : ∀ resource : ResourceLoad, (ResourceLoad.abort a resource).holds = resource.holds := by
    intro resource
    unfold ResourceLoad.abort
    split
    · next waits => simp [ResourceLoad.holds, waits.2]
    · rfl
  have found : ∀ n, (s.abortAttempt a).resources[n]? =
      s.resources[n]?.map (ResourceLoad.abort a) := fun n => List.getElem?_map
  refine ⟨?_, sound.bounded, sound.distinct.filter _, ?_, ?_, ?_⟩
  · show s.active = (s.resources.map _).countP _
    rw [sound.held, List.countP_map]
    exact List.countP_congr fun resource _ => by simp [same]
  · intro n
    rw [found]
    show n ∈ s.queue.filter _ ↔ _
    rw [List.mem_filter, sound.queued n]
    constructor
    · rintro ⟨⟨resource, there, waits⟩, away⟩
      have other : resource.attempt ≠ a := by simpa [there] using away
      exact ⟨resource, by simp [there, ResourceLoad.abort, other], waits⟩
    · rintro ⟨resource, there, waits⟩
      obtain ⟨before, here, rfl⟩ := Option.map_eq_some_iff.mp there
      unfold ResourceLoad.abort at waits
      split at waits
      · cases waits
      · next stays =>
          refine ⟨⟨before, here, waits⟩, ?_⟩
          have other : before.attempt ≠ a := fun same => stays ⟨same, waits⟩
          simp [here, other]
  · intro waits
    refine sound.full fun empty => waits ?_
    show s.queue.filter _ = []
    rw [empty]
    rfl
  · intro resource member waits
    obtain ⟨before, there, rfl⟩ := List.mem_map.mp member
    unfold ResourceLoad.abort at waits ⊢
    split at waits
    · cases waits
    · next stays =>
        have other : before.attempt ≠ a := fun same => stays ⟨same, waits⟩
        rw [if_neg stays, attemptAborted_abort other]
        exact sound.listening before there waits

/-- Only the fraction of a resource is written. -/
theorem Permits.updateProgress (sound : Permits options s) {n : Nat} {resource : ResourceLoad}
    (present : s.resources[n]? = some resource) (package : String) (state : AssetPackageState)
    (fraction : ℚ) : Permits options (s.updateProgress n resource package state fraction) := by
  have counted := countP_set_add ResourceLoad.holds
    { resource with fraction := max resource.fraction (clamp01 fraction) } present
  refine ⟨?_, sound.bounded, sound.distinct, ?_, sound.full, ?_⟩
  · rw [show (s.updateProgress n resource package state fraction).active = s.active from rfl,
      sound.held]
    exact (Nat.add_right_cancel counted).symm
  · intro m
    show m ∈ s.queue ↔ ∃ found, (s.resources.set n _)[m]? = some found ∧ _
    rw [sound.queued m]
    constructor
    · rintro ⟨found, there, waits⟩
      by_cases same : n = m
      · subst same
        obtain rfl := Option.some.inj (present.symm.trans there)
        exact ⟨_, List.getElem?_set_self (List.getElem?_eq_some_iff.mp present).1, waits⟩
      · exact ⟨found, by rw [List.getElem?_set_ne same, there], waits⟩
    · rintro ⟨found, there, waits⟩
      rcases set_cases there with ⟨rfl, _, rfl⟩ | ⟨_, old⟩
      · exact ⟨resource, present, waits⟩
      · exact ⟨found, old, waits⟩
  · intro found member waits
    rcases List.mem_or_eq_of_mem_set member with old | rfl
    · exact sound.listening found old waits
    · exact sound.listening resource (List.mem_of_getElem? present) waits

/-- A resource gives its permit to the first that waits, or back. -/
theorem Permits.finished (sound : Permits options s) {n : Nat} {resource : ResourceLoad}
    (present : s.resources[n]? = some resource) (holding : resource.phase = .holding)
    (outcome : Outcome) :
    Permits options { s with resources := s.resources.modify n fun resource =>
      { resource with phase := .finished outcome } }.releasePermit := by
  rw [modify_eq_set present]
  have counted := countP_set_add ResourceLoad.holds
    { resource with phase := .finished outcome } present
  have was : resource.holds = true := by simp [ResourceLoad.holds, holding]
  have gone : ({ resource with phase := .finished outcome } : ResourceLoad).holds = false := by
    simp [ResourceLoad.holds]
  simp only [was, gone, if_true, Bool.false_eq_true, if_false] at counted
  have held := sound.held
  have outside : n ∉ s.queue := by
    rw [sound.queued]
    rintro ⟨other, found, waits⟩
    obtain rfl := Option.some.inj (present.symm.trans found)
    rw [holding] at waits
    cases waits
  have still : ∀ m, m ≠ n → (s.resources.set n { resource with phase := .finished outcome })[m]? =
      s.resources[m]? := fun m away => List.getElem?_set_ne (fun same => away same.symm)
  unfold releasePermit
  simp only
  split
  · next next rest same =>
      have head : next ∈ s.queue := same ▸ List.mem_cons_self
      obtain ⟨waiter, found, waits⟩ := (sound.queued next).mp head
      have away : next ≠ n := fun here => outside (here ▸ head)
      have there := (still next away).trans found
      have distinct := same ▸ sound.distinct
      rw [modify_eq_set there]
      have granted := countP_set_add ResourceLoad.holds { waiter with phase := .holding } there
      have idle : waiter.holds = false := by simp [ResourceLoad.holds, waits]
      have busy : ({ waiter with phase := .holding } : ResourceLoad).holds = true := by
        simp [ResourceLoad.holds]
      simp only [idle, busy, if_true, Bool.false_eq_true, if_false] at granted
      refine ⟨?_, sound.bounded, (List.nodup_cons.mp distinct).2, ?_, ?_, ?_⟩
      · show s.active = List.countP ResourceLoad.holds (List.set _ next _)
        omega
      · intro m
        have members := sound.queued m
        rw [same, List.mem_cons] at members
        constructor
        · intro later
          obtain ⟨other, found', waits'⟩ := members.mp (.inr later)
          have apart : m ≠ next := fun here => (List.nodup_cons.mp distinct).1 (here ▸ later)
          have free : m ≠ n := fun here => outside (same ▸ here ▸ List.mem_cons_of_mem _ later)
          refine ⟨other, ?_, waits'⟩
          show (List.set _ next _)[m]? = _
          rw [List.getElem?_set_ne (fun here => apart here.symm), still m free, found']
        · rintro ⟨other, found', waits'⟩
          rcases set_cases found' with ⟨rfl, _, rfl⟩ | ⟨apart, older⟩
          · cases waits'
          · rcases set_cases older with ⟨rfl, _, rfl⟩ | ⟨_, oldest⟩
            · cases waits'
            · exact (members.mpr ⟨other, oldest, waits'⟩).resolve_left apart
      · intro more
        exact sound.full (by rw [same]; exact List.cons_ne_nil _ _)
      · intro other member waits'
        rcases List.mem_or_eq_of_mem_set member with old | rfl
        · rcases List.mem_or_eq_of_mem_set old with oldest | rfl
          · exact sound.listening other oldest waits'
          · cases waits'
        · cases waits'
  · next empty =>
      refine ⟨?_, ?_, ?_, ?_, ?_, ?_⟩
      · show s.active - 1 = List.countP ResourceLoad.holds (List.set _ n _)
        omega
      · have := sound.bounded
        show s.active - 1 ≤ _
        omega
      · exact empty ▸ List.nodup_nil
      · intro m
        rw [sound.queued m]
        constructor
        · rintro ⟨other, found, waits⟩
          have free : m ≠ n := by
            rintro rfl
            exact outside ((sound.queued m).mpr ⟨other, found, waits⟩)
          exact ⟨other, (still m free).trans found, waits⟩
        · rintro ⟨other, found, waits⟩
          rcases set_cases found with ⟨rfl, _, rfl⟩ | ⟨_, old⟩
          · cases waits
          · exact ⟨other, old, waits⟩
      · intro waits
        exact absurd empty waits
      · intro other member waits
        rcases List.mem_or_eq_of_mem_set member with old | rfl
        · exact sound.listening other old waits
        · cases waits

/-! ## Steps and runs -/

theorem forEach_untouched (change : PackageRuntime → PackageRuntime) (ids : List String) :
    Untouched s (s.forEach change ids) := by
  unfold forEach
  induction ids generalizing s with
  | nil => exact ⟨rfl, rfl, rfl, fun _ => rfl⟩
  | cons id rest ih => exact (updateRuntime_untouched id change).trans ih

theorem releaseEach_untouched (ids : List String) : Untouched s (releaseEach ids s).1 := by
  induction ids generalizing s with
  | nil => exact ⟨rfl, rfl, rfl, fun _ => rfl⟩
  | cons id rest ih =>
      unfold releaseEach
      split
      · exact ⟨rfl, rfl, rfl, fun _ => rfl⟩
      · exact (updateRuntime_untouched id releaseOne).trans ih

theorem Permits.begin (sound : Permits options s) {targetIds : List String} {staged : Bool}
    {signal : Option Nat}
    (done : s.beginAcquisition options targetIds staged signal = some t) : Permits options t := by
  obtain ⟨_, rfl⟩ := beginAcquisition_ok done
  exact sound.untouched ⟨rfl, rfl, rfl, fun _ => rfl⟩

theorem Permits.step (sound : Permits options s) {action : Action}
    (done : s.step options action = some t) : Permits options t := by
  cases action with
  | acquire id signal => exact sound.begin (acquire_ok done).2
  | acquireStage stage signal =>
      obtain ⟨_, _, done⟩ := acquireStage_ok done
      exact sound.begin done
  | loadTarget q =>
      obtain ⟨acquisition, target, targets, _, _, rfl⟩ := loadTarget_ok done
      exact sound.untouched ((load_untouched target _).trans (setAcquisition_untouched q _))
  | settleAcquisition q =>
      obtain ⟨acquisition, _, _, ⟨_, rfl⟩ | ⟨_, _, rfl⟩⟩ := settleAcquisition_ok done
      · exact sound.untouched ((forEach_untouched rollbackOne _).trans (setAcquisition_untouched q _))
      · exact sound.untouched ((forEach_untouched _ _).trans (setAcquisition_untouched q _))
  | release q =>
      obtain ⟨⟨after, reply⟩, released, rfl⟩ := Option.map_eq_some_iff.mp done
      obtain ⟨acquisition, _, ⟨_, underflow, given, _⟩ | ⟨_, rfl, _⟩⟩ := release_ok released
      · have same := @releaseEach_untouched
          (s.setAcquisition q { acquisition with phase := .released }) acquisition.packageIds.reverse
        rw [show releaseEach _ _ = (after, underflow) from given] at same
        exact sound.untouched ((setAcquisition_untouched q _).trans same)
      · exact sound
  | abort signal =>
      obtain rfl := Option.some.inj done
      exact sound.untouched ⟨rfl, rfl, rfl, fun _ => rfl⟩
  | advance a =>
      obtain ⟨attempt, found, starts | reads | ends⟩ := advance_ok done
      · obtain ⟨dependency, rest, _, rfl⟩ := starts
        exact sound.untouched ((load_untouched dependency _).trans (setPhase_untouched a _))
      · obtain ⟨dependency, rest, l, _, ⟨_, rfl⟩ | ⟨error, _, rfl⟩⟩ := reads
        · exact sound.untouched (setPhase_untouched a _)
        · exact sound.untouched (setPhase_untouched a _)
      · obtain ⟨awaited, _, ⟨_, rfl⟩ | ⟨live, rfl⟩⟩ := ends
        · exact sound.untouched (setPhase_untouched a _)
        · exact sound.loadResources attempt.package (by simp [attemptAborted, found, live])
  | gather a =>
      obtain ⟨_, _, _, _, rfl⟩ := gather_ok done
      exact sound.untouched (setPhase_untouched a _)
  | gatherFailure n =>
      obtain ⟨resource, _, _, _, _, _, _, rfl⟩ := gatherFailure_ok done
      exact sound.untouched (setPhase_untouched resource.attempt _)
  | complete a thrown =>
      obtain ⟨attempt, _, _, ⟨_, rfl⟩ | ⟨_, rfl⟩⟩ := complete_ok done
      · exact sound.untouched (setPhase_untouched a _)
      · exact sound.untouched ((updateRuntime_untouched attempt.package _).trans
          (setPhase_untouched a _))
  | fail a thrown =>
      obtain ⟨attempt, _, _, _, _, _, rfl⟩ := fail_ok done
      exact sound.untouched ((updateRuntime_untouched attempt.package _).trans
        (setPhase_untouched a _))
  | conclude a =>
      obtain ⟨attempt, _, _, _, rfl⟩ := conclude_ok done
      exact sound.untouched ((updateRuntime_untouched attempt.package _).trans
        (setPhase_untouched a _))
  | deliver l =>
      obtain ⟨_, _, _, ⟨_, rfl⟩ | ⟨_, _, _, _, _, _, rfl⟩⟩ := deliver_ok done
      · exact sound.untouched (setLoad_untouched l _)
      · exact sound.untouched (setLoad_untouched l _)
  | leave l =>
      obtain ⟨load, a, outcome, _, _, _, rfl | ⟨_, rfl⟩⟩ := leave_ok done
      · exact sound.untouched ((updateRuntime_untouched load.package _).trans
          (setLoad_untouched l _))
      · exact (sound.untouched ((updateRuntime_untouched load.package _).trans
          (setLoad_untouched l _))).abortAttempt a
  | report n decoding fraction =>
      obtain ⟨resource, attempt, present, _, _, rfl⟩ := report_ok done
      exact sound.updateProgress present attempt.package _ fraction
  | finish n outcome =>
      obtain ⟨resource, attempt, before, present, _, holding, rfl | ⟨_, rfl⟩, rfl⟩ := finish_ok done
      · exact sound.finished present holding outcome
      · have written := List.getElem?_set_self
          (a := { resource with fraction := max resource.fraction (clamp01 1) })
          (List.getElem?_eq_some_iff.mp present).1
        exact (sound.updateProgress present attempt.package .decoding 1).finished written holding
          outcome

theorem Permits.initial : Permits options Manager.initial where
  held := rfl
  bounded := Nat.zero_le _
  distinct := List.nodup_nil
  queued := fun n => by simp [Manager.initial]
  full := fun waits => absurd rfl waits
  listening := fun _ member => by cases member

/-- The states that any interleaving of calls, aborts and settlements leads to. -/
def Reached (options : Options) : Manager → Prop :=
  Reachable (· = Manager.initial) fun s t => ∃ action, s.step options action = some t

/-- References, bytes and permits add up. -/
structure Accounted (options : Options) (s : Manager) : Prop where
  /-- Unsettled acquisitions are counted. -/
  pending : ∀ id, (s.runtimes id).pendingReferences =
    s.acquisitions.countP fun acquisition =>
      acquisition.unsettled && decide (id ∈ acquisition.packageIds)
  /-- Unreleased leases are counted. -/
  active : ∀ id, (s.runtimes id).activeReferences =
    s.acquisitions.countP fun acquisition =>
      acquisition.unreleased && decide (id ∈ acquisition.packageIds)
  /-- The packages of an acquisition are its dependency closure. -/
  closures : ∀ acquisition ∈ s.acquisitions, ∀ id, id ∈ acquisition.packageIds ↔
    ∃ target ∈ acquisition.targetIds, Needs (dependenciesOf options.manifest.packages) target id
  /-- No release underflows, and a second one does nothing. -/
  released : ∀ q after reply, s.release q = some (after, reply) →
    (reply = .ok true ∧ after.release q = some (after, .ok false)) ∨
      (reply = .ok false ∧ after = s)
  retained : ∀ limit, options.maxRetainedBytes = some limit →
    s.retainedPayloadBytes options ≤ limit
  /-- A permit is held between `acquire` and `release` of a resource. -/
  held : s.active = s.resources.countP fun resource => decide (resource.phase = .holding)
  bounded : s.active ≤ options.concurrency
  /-- The queue holds the resources that wait, none of them aborted; and while one waits, no
  permit is free. -/
  queued : ∀ n, n ∈ s.queue ↔ ∃ resource, s.resources[n]? = some resource ∧
    resource.phase = .queued ∧ s.attemptAborted resource.attempt = false
  full : s.queue ≠ [] → s.active = options.concurrency
  /-- Once no resource is being loaded, every permit is back. -/
  returned : (∀ resource ∈ s.resources, ∃ outcome, resource.phase = .finished outcome) →
    s.active = 0

theorem References.second_release (sound : References options s) {q : Nat}
    {reply : Except String Bool} (done : s.release q = some (t, reply)) :
    (reply = .ok true ∧ t.release q = some (t, .ok false)) ∨ (reply = .ok false ∧ t = s) := by
  obtain ⟨acquisition, found, ⟨_, answer, rfl⟩ | ⟨_, same, answer⟩⟩ := release_cases sound done
  · refine .inl ⟨answer, ?_⟩
    have inside := (List.getElem?_eq_some_iff.mp found).1
    simp [release, List.getElem?_set_self inside]
  · exact .inr ⟨answer, same⟩

theorem accounted_of (references : References options s) (permits : Permits options s) :
    Accounted options s where
  pending := references.pending
  active := references.active
  closures := fun acquisition member id => by
    obtain ⟨known, ids⟩ := references.closures acquisition member
    rw [ids]
    exact options.manifest.mem_dependencyClosureIds known
  released := fun _ _ _ done => references.second_release done
  retained := references.retained
  held := permits.held
  bounded := permits.bounded
  queued := fun n => by
    rw [permits.queued n]
    constructor
    · rintro ⟨resource, found, waits⟩
      exact ⟨resource, found, waits, permits.listening resource (List.mem_of_getElem? found) waits⟩
    · rintro ⟨resource, found, waits, _⟩
      exact ⟨resource, found, waits⟩
  full := permits.full
  returned := fun all => by
    rw [permits.held, List.countP_eq_zero]
    intro resource member
    obtain ⟨outcome, done⟩ := all resource member
    simp [ResourceLoad.holds, done]

/-- Whatever the order of the calls, the aborts and the settlements, everything adds up. -/
theorem accounts_kept (reached : Reached options s) : Accounted options s := by
  have both : References options s ∧ Permits options s := by
    refine Reachable.invariant (fun s => References options s ∧ Permits options s) ?_ ?_ reached
    · rintro _ rfl
      exact ⟨.initial, .initial⟩
    · rintro s t _ ⟨references, permits⟩ ⟨action, done⟩
      exact ⟨references.step done, permits.step done⟩
  exact accounted_of both.1 both.2

/-- A run of actions, each of them due. -/
def run (options : Options) (actions : List Action) : Option Manager :=
  actions.foldlM (Manager.step options) Manager.initial

theorem run_reached {actions : List Action} {s : Manager} (done : run options actions = some s) :
    Reached options s := by
  have from_here : ∀ (actions : List Action) (start : Manager), Reached options start →
      actions.foldlM (Manager.step options) start = some s → Reached options s := by
    intro actions
    induction actions with
    | nil => intro start reached done; exact Option.some.inj done ▸ reached
    | cons action rest ih =>
        intro start reached done
        rw [List.foldlM_cons] at done
        obtain ⟨next, stepped, done⟩ := Option.bind_eq_some_iff.mp done
        exact ih next (reached.next ⟨action, stepped⟩) done
  exact from_here actions _ (.start rfl) done

/-! ## A manifest of three packages -/

def sampleResource (id : String) : AssetPackageResourceSpec where
  id := id
  url := "/" ++ id
  bytes := 8
  sha256 := "00112233445566778899aabbccddeeff00112233445566778899aabbccddeeff"
  decoder := "binary"

def samplePackages : List AssetPackageSpec :=
  [{ id := "base", version := "1", stage := .baseCritical,
     resources := [sampleResource "base.bin", sampleResource "base.json"] },
    { id := "panel", version := "1", stage := .interactionReady, dependsOn := ["base"],
      resources := [sampleResource "panel.bin"] },
    { id := "sound", version := "1", stage := .interactionReady,
      resources := [sampleResource "sound.bin"] }]

theorem samplePackages_accepted :
    validateAssetPackageManifest
        { schemaVersion := 1, assetSet := "sample", packages := samplePackages } =
      .ok (samplePackages, ["base", "panel", "sound"]) := by
  decide +kernel

def sampleOptions : Options where
  manifest := .ofAccepted samplePackages_accepted
  concurrency := 4
  maxRetainedBytes := some 32

/-- A package is acquired, and its lease released twice. -/
def leasing : List Action :=
  [.acquire "base" none, .loadTarget 0, .advance 0, .finish 0 none, .finish 1 none, .gather 0,
    .complete 0 none, .conclude 0, .deliver 0, .leave 0, .settleAcquisition 0, .release 0,
    .release 0]

theorem leasing_accounted :
    ∃ s, run sampleOptions leasing = some s ∧ (s.runtimes "base").activeReferences = 0 ∧
      Accounted sampleOptions s := by
  have ends : (run sampleOptions leasing).map
      (fun s => (s.runtimes "base").activeReferences) = some 0 := by decide +kernel
  obtain ⟨s, done, released⟩ := Option.map_eq_some_iff.mp ends
  exact ⟨s, done, released, accounts_kept (run_reached done)⟩

/-- One resource of a package fails while the other is being loaded.  The load has ended, and
one permit is still held. -/
theorem permit_outlives_load :
    ∃ s, Reached sampleOptions s ∧
      (∀ attempt ∈ s.attempts, attempt.phase = .settled (some (.other "HTTP 404"))) ∧
      (∀ id ∈ sampleOptions.manifest.dependencyOrder, (s.runtimes id).inFlight = none) ∧
      s.active = 1 := by
  have ends : (run sampleOptions
      [.acquire "base" none, .loadTarget 0, .advance 0, .finish 0 (some (.other "HTTP 404")),
        .gatherFailure 0, .fail 0 none, .conclude 0]).map (fun s =>
          decide (∀ attempt ∈ s.attempts, attempt.phase = .settled (some (.other "HTTP 404"))) &&
            decide (∀ id ∈ sampleOptions.manifest.dependencyOrder,
              (s.runtimes id).inFlight = none) &&
            decide (s.active = 1)) = some true := by
    decide +kernel
  obtain ⟨s, done, facts⟩ := Option.map_eq_some_iff.mp ends
  simp only [Bool.and_eq_true, decide_eq_true_eq] at facts
  exact ⟨s, run_reached done, facts.1.1, facts.1.2, facts.2⟩

end Manager

end SlotsGame.Assets
