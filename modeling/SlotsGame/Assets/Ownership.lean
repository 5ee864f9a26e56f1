/-
# SlotsGame.Assets.Ownership -- who owns what is in memory

`Sound` is the invariant that keeps resident packages owned and complete.  An attempt
is followed by another of its package only when nothing of it is left (`alone`); one that
has not been aborted has an owner (`held`), and so has a package that is ready (`owned`);
what an attempt has passed is ready, and so is what a ready package depends on
(`depends`, `closed`).

`orderly` is the condition on a step under which the operations keep it.  This module
has the invariant, and the writes that move an attempt, a load or a resource on without
making a package ready or dropping it.
-/
import SlotsGame.Assets.Accounting

namespace SlotsGame.Assets

open SlotsGame.Theory

set_option autoImplicit false

/-! ## Phases -/

namespace AttemptPhase

/-- The promise of the attempt has not settled. -/
def unsettled : AttemptPhase → Bool
  | settled _ => false
  | _ => true

/-- The dependencies that are not known to be loaded. -/
def remaining : AttemptPhase → List String
  | depending rest _ => rest
  | _ => []

/-- The resources are being loaded, or have been. -/
def started : AttemptPhase → Bool
  | depending _ _ => false
  | _ => true

/-- `then` has made the package ready. -/
def fulfilled : AttemptPhase → Bool
  | handled none | settled none => true
  | _ => false

/-- Neither settled nor about to be rejected. -/
def hopeful : AttemptPhase → Bool
  | depending _ _ | loading | returned none | handled none => true
  | _ => false

theorem hopeful_unsettled {phase : AttemptPhase} (hopeful : phase.hopeful = true) :
    phase.unsettled = true := by
  cases phase with
  | settled outcome => cases hopeful
  | _ => rfl

/-- Every resource is loaded. -/
def complete : AttemptPhase → Bool
  | returned none | handled none | settled none => true
  | _ => false

end AttemptPhase

def ResourcePhase.running : ResourcePhase → Bool
  | .finished _ => false
  | _ => true

namespace Manager

/-- Something of the attempt is still to come: its promise, or one of its resources. -/
def Live (s : Manager) (a : Nat) : Prop :=
  ∃ attempt, s.attempts[a]? = some attempt ∧
    (attempt.phase.unsettled = true ∨
      ∃ resource ∈ s.resources, resource.attempt = a ∧ resource.phase.running = true)

/-- Whether `load` starts an attempt. -/
def starts (s : Manager) (id : String) : Bool :=
  (s.runtimes id).ready.isNone && (s.runtimes id).inFlight.all s.attemptAborted

def live (s : Manager) (a : Nat) : Bool :=
  (s.attempts[a]?.any fun attempt => attempt.phase.unsettled) ||
    s.resources.any fun resource => resource.attempt = a && resource.phase.running

/-! ## The condition -/

/-- A new attempt finds all of the earlier ones of its package finished, their resources
included, and the package owned. -/
def startsAfresh (s : Manager) (id : String) : Bool :=
  !s.starts id ||
    (s.referenced id && (List.range s.attempts.length).all fun a =>
      !(s.attempts[a]?.any fun attempt => attempt.package = id) || !s.live a)

/-- A package that loses its last owner is not being loaded; or its attempt has been aborted
before it made the package ready. -/
def letsGo (s : Manager) (ids : List String) : Bool :=
  ids.all fun id =>
    1 < (s.runtimes id).pendingReferences + (s.runtimes id).activeReferences ||
      (s.runtimes id).inFlight.all fun a => s.attemptAborted a && (s.runtimes id).ready.isNone

/-- The steps that keep residency; a condition on the state before. -/
def orderly (s : Manager) : Action → Bool
  | .loadTarget q => s.acquisitions[q]?.all fun acquisition =>
      match acquisition.phase with
      | .pending (target :: _) => s.startsAfresh target
      | _ => true
  | .advance a => s.attempts[a]?.all fun attempt =>
      match attempt.phase with
      | .depending (dependency :: _) none => s.startsAfresh dependency
      | _ => true
  | .settleAcquisition q => s.acquisitions[q]?.all fun acquisition =>
      !s.fails acquisition || s.letsGo acquisition.packageIds
  | .release q => s.acquisitions[q]?.all fun acquisition =>
      acquisition.phase ≠ .leased || s.letsGo acquisition.packageIds
  | .complete _ thrown => thrown.isNone
  | _ => true

/-! ## The invariant -/

/-- A load that is fulfilled, or will be unless its signal aborts. -/
def Promised (s : Manager) (load : Load) : Prop :=
  match load.phase with
  | .waiting =>
      match load.attempt with
      | none => True
      | some a => ∃ attempt, s.attempts[a]? = some attempt ∧ attempt.phase.fulfilled = true
  | .caught outcome | .settled outcome => outcome = none

structure Sound (options : Options) (s : Manager) : Prop where
  flight : ∀ id a, (s.runtimes id).inFlight = some a → ∃ attempt, s.attempts[a]? = some attempt ∧
    attempt.package = id ∧ attempt.phase.unsettled = true
  current : ∀ (a : Nat) (attempt : Attempt), s.attempts[a]? = some attempt → attempt.phase.unsettled = true →
    (s.runtimes attempt.package).inFlight = some a
  alone : ∀ (a b : Nat) (first second : Attempt), s.attempts[a]? = some first → s.attempts[b]? = some second →
    first.package = second.package → a < b → ¬ s.Live a
  work : ∀ resource ∈ s.resources, ∃ attempt, s.attempts[resource.attempt]? = some attempt ∧
    attempt.phase.started = true ∧
    (attempt.phase.complete = true → resource.phase = .finished none)
  joined : ∀ load ∈ s.loads, ∀ a, load.attempt = some a → ∃ attempt,
    s.attempts[a]? = some attempt ∧ attempt.package = load.package
  shown : ∀ id, (s.runtimes id).state = .ready ↔ (s.runtimes id).ready ≠ none
  resident : ∀ (a : Nat) (attempt : Attempt), s.attempts[a]? = some attempt → s.Live a →
    (s.runtimes attempt.package).ready ≠ none → attempt.phase = .handled none
  made : ∀ (a : Nat) (attempt : Attempt), s.attempts[a]? = some attempt → attempt.phase = .handled none →
    (s.runtimes attempt.package).ready ≠ none
  held : ∀ (a : Nat) (attempt : Attempt), s.attempts[a]? = some attempt → attempt.phase.unsettled = true →
    attempt.aborted = false → s.referenced attempt.package = true
  owned : ∀ id, (s.runtimes id).ready ≠ none → s.referenced id = true
  depends : ∀ (a : Nat) (attempt : Attempt), s.attempts[a]? = some attempt →
    attempt.phase.hopeful = true → attempt.aborted = false → ∀ d ∈ dependenciesOf options.manifest.packages attempt.package,
      d ∈ attempt.phase.remaining ∨ (s.runtimes d).ready ≠ none
  listed : ∀ (a : Nat) (attempt : Attempt), s.attempts[a]? = some attempt →
    attempt.phase.remaining ⊆ dependenciesOf options.manifest.packages attempt.package
  awaited : ∀ (a : Nat) (attempt : Attempt) (d : String) (rest : List String) (l : Nat), s.attempts[a]? = some attempt →
    attempt.phase = .depending (d :: rest) (some l) →
    ∃ load, s.loads[l]? = some load ∧ load.package = d ∧
      (attempt.aborted = false → s.Promised load → (s.runtimes d).ready ≠ none)
  closed : ∀ id, (s.runtimes id).ready ≠ none →
    ∀ d ∈ dependenciesOf options.manifest.packages id, (s.runtimes d).ready ≠ none
  targets : ∀ acquisition ∈ s.acquisitions, ∀ todo, acquisition.phase = .pending todo →
    todo ⊆ acquisition.targetIds ∧
    (∀ target ∈ acquisition.targetIds, target ∈ todo ∨ ∃ l ∈ acquisition.loads, ∃ load,
      s.loads[l]? = some load ∧ load.package = target) ∧
    ∀ l ∈ acquisition.loads, ∃ load, s.loads[l]? = some load ∧
      load.package ∈ acquisition.targetIds ∧
      (s.Promised load → (s.runtimes load.package).ready ≠ none)
  leased : ∀ acquisition ∈ s.acquisitions, acquisition.phase = .leased →
    ∀ id ∈ acquisition.packageIds, (s.runtimes id).ready ≠ none

variable {options : Options} {s t : Manager}

/-! ## Ownership -/

/-- An acquisition that has not ended. -/
def Acquisition.standing (acquisition : Acquisition) : Bool :=
  acquisition.unsettled || acquisition.unreleased

theorem References.referenced_iff (sound : References options s) {id : String} :
    s.referenced id = true ↔ ∃ acquisition ∈ s.acquisitions,
      Acquisition.standing acquisition = true ∧ id ∈ acquisition.packageIds := by
  rw [Manager.referenced_iff, sound.pending, sound.active, owners_pos, owners_pos]
  simp only [Acquisition.standing, Bool.or_eq_true]
  constructor
  · rintro (⟨acquisition, member, test, holds⟩ | ⟨acquisition, member, test, holds⟩)
    · exact ⟨acquisition, member, .inl test, holds⟩
    · exact ⟨acquisition, member, .inr test, holds⟩
  · rintro ⟨acquisition, member, test | test, holds⟩
    · exact .inl ⟨acquisition, member, test, holds⟩
    · exact .inr ⟨acquisition, member, test, holds⟩

/-- Who owns a package owns what it depends on. -/
theorem References.dependency (sound : References options s) {id d : String}
    (owned : s.referenced id = true) (needed : d ∈ dependenciesOf options.manifest.packages id) :
    s.referenced d = true := by
  obtain ⟨acquisition, member, standing, holds⟩ := sound.referenced_iff.mp owned
  refine sound.referenced_iff.mpr ⟨acquisition, member, standing, ?_⟩
  obtain ⟨known, ids⟩ := sound.closures acquisition member
  rw [ids] at holds ⊢
  exact options.manifest.closure_closed known id holds d needed

theorem Live.of_unsettled {a : Nat} {attempt : Attempt} (found : s.attempts[a]? = some attempt)
    (unsettled : attempt.phase.unsettled = true) : s.Live a := ⟨attempt, found, .inl unsettled⟩

theorem live_iff {a : Nat} (work : ∀ resource ∈ s.resources, ∃ attempt,
    s.attempts[resource.attempt]? = some attempt) : s.live a = true ↔ s.Live a := by
  unfold live Live
  cases found : s.attempts[a]? with
  | some attempt => simp
  | none =>
      simp only [Option.any_none, Bool.false_or, List.any_eq_true, Bool.and_eq_true,
        decide_eq_true_eq, reduceCtorEq, false_and, exists_false, iff_false, not_exists, not_and]
      rintro resource member rfl
      obtain ⟨attempt, present⟩ := work resource member
      rw [found] at present
      cases present

/-! ## Small writes -/

/-- The counts, the attempt in flight and the package are kept. -/
theorem Sound.runtimes (sound : Sound options s) {runtimes : String → PackageRuntime}
    (inFlight : ∀ id, (runtimes id).inFlight = (s.runtimes id).inFlight)
    (ready : ∀ id, (runtimes id).ready = (s.runtimes id).ready)
    (referenced : ∀ id, s.referenced id = true →
      { s with runtimes := runtimes }.referenced id = true)
    (shown : ∀ id, (runtimes id).state = .ready ↔ (s.runtimes id).ready ≠ none) :
    Sound options { s with runtimes := runtimes } where
  flight := fun id a here => sound.flight id a ((inFlight id).symm.trans here)
  current := fun a attempt found unsettled =>
    (inFlight _).trans (sound.current a attempt found unsettled)
  alone := sound.alone
  work := sound.work
  joined := sound.joined
  shown := fun id => by rw [show ({ s with runtimes := runtimes } : Manager).runtimes id = runtimes id
    from rfl, shown id, ready id]
  resident := fun a attempt found live here =>
    sound.resident a attempt found live (ready _ ▸ here)
  made := fun a attempt found handled => (ready _).symm ▸ sound.made a attempt found handled
  held := fun a attempt found unsettled free =>
    referenced _ (sound.held a attempt found unsettled free)
  owned := fun id here => referenced id (sound.owned id (ready id ▸ here))
  depends := fun a attempt found hopeful free d needed =>
    (sound.depends a attempt found hopeful free d needed).imp_right fun here => ready d ▸ here
  listed := sound.listed
  awaited := fun a attempt d rest l found phase => by
    obtain ⟨load, present, package, promised⟩ := sound.awaited a attempt d rest l found phase
    exact ⟨load, present, package, fun free promise => (ready d).symm ▸ promised free promise⟩
  closed := fun id here d needed =>
    (ready d).symm ▸ sound.closed id (ready id ▸ here) d needed
  targets := fun acquisition member todo pending => by
    obtain ⟨within, covered, loads⟩ := sound.targets acquisition member todo pending
    refine ⟨within, covered, fun l inside => ?_⟩
    obtain ⟨load, present, target, promised⟩ := loads l inside
    exact ⟨load, present, target, fun promise => (ready _).symm ▸ promised promise⟩
  leased := fun acquisition member leased id holds =>
    (ready id).symm ▸ sound.leased acquisition member leased id holds

theorem updateRuntime_field {β : Type} (field : PackageRuntime → β) {id : String}
    {change : PackageRuntime → PackageRuntime}
    (same : field (change (s.runtimes id)) = field (s.runtimes id)) (other : String) :
    field ((s.updateRuntime id change).runtimes other) = field (s.runtimes other) := by
  rw [updateRuntime_apply]
  split
  · next here => rw [here, same]
  · rfl

theorem Sound.updateRuntime (sound : Sound options s) (id : String)
    {change : PackageRuntime → PackageRuntime}
    (inFlight : (change (s.runtimes id)).inFlight = (s.runtimes id).inFlight)
    (ready : (change (s.runtimes id)).ready = (s.runtimes id).ready)
    (pending : (change (s.runtimes id)).pendingReferences = (s.runtimes id).pendingReferences)
    (active : (change (s.runtimes id)).activeReferences = (s.runtimes id).activeReferences)
    (shown : (change (s.runtimes id)).state = .ready ↔ (s.runtimes id).ready ≠ none) :
    Sound options (s.updateRuntime id change) := by
  refine sound.runtimes (updateRuntime_field PackageRuntime.inFlight inFlight)
    (updateRuntime_field PackageRuntime.ready ready) ?_ ?_
  · intro other
    have first := updateRuntime_field PackageRuntime.pendingReferences pending other
    have second := updateRuntime_field PackageRuntime.activeReferences active other
    show s.referenced other = true → (s.updateRuntime id change).referenced other = true
    simp only [referenced, first, second]
    exact fun owned => owned
  · intro other
    show ((s.updateRuntime id change).runtimes other).state = .ready ↔ _
    rw [updateRuntime_apply]
    split
    · next here => rw [here, shown]
    · exact sound.shown other

/-- A finished resource stays as it is. -/
theorem Sound.evolve (sound : Sound options s) {resources : List ResourceLoad} {active : Nat}
    {queue : List Nat}
    (evolves : ∀ new ∈ resources, ∃ old ∈ s.resources, new.attempt = old.attempt ∧
      (old.phase.running = false → new.phase = old.phase)) :
    Sound options { s with resources := resources, active := active, queue := queue } := by
  have lives : ∀ a, Live { s with resources := resources, active := active, queue := queue } a →
      s.Live a := by
    rintro a ⟨attempt, found, unsettled | ⟨new, member, own, running⟩⟩
    · exact ⟨attempt, found, .inl unsettled⟩
    · obtain ⟨old, there, same, stays⟩ := evolves new member
      refine ⟨attempt, found, .inr ⟨old, there, same ▸ own, ?_⟩⟩
      cases rest : old.phase.running with
      | true => rfl
      | false => rw [stays rest, rest] at running; cases running
  exact
    { sound with
      alone := fun a b first second left right same less live =>
        sound.alone a b first second left right same less (lives a live)
      work := fun new member => by
        obtain ⟨old, there, same, stays⟩ := evolves new member
        obtain ⟨attempt, found, started, complete⟩ := sound.work old there
        refine ⟨attempt, same ▸ found, started, fun done => ?_⟩
        have finished := complete done
        rw [stays (by rw [finished]; rfl), finished]
      resident := fun a attempt found live => sound.resident a attempt found (lives a live) }

/-- A resource of an attempt that is loading. -/
theorem Sound.pushResource (sound : Sound options s) {a : Nat} {attempt : Attempt}
    (found : s.attempts[a]? = some attempt) (loading : attempt.phase = .loading)
    {resource : ResourceLoad} (own : resource.attempt = a) {active : Nat} {queue : List Nat} :
    Sound options
      { s with resources := s.resources ++ [resource], active := active, queue := queue } := by
  have lives : ∀ b, Live
      { s with resources := s.resources ++ [resource], active := active, queue := queue } b →
      s.Live b := by
    rintro b ⟨other, there, unsettled | ⟨new, member, same, running⟩⟩
    · exact ⟨other, there, .inl unsettled⟩
    · rcases List.mem_append.mp member with old | last
      · exact ⟨other, there, .inr ⟨new, old, same, running⟩⟩
      · obtain rfl := List.mem_singleton.mp last
        obtain rfl : a = b := own.symm.trans same
        exact .of_unsettled found (by rw [loading]; rfl)
  exact
    { sound with
      alone := fun a b first second left right same less live =>
        sound.alone a b first second left right same less (lives a live)
      work := fun new member => by
        rcases List.mem_append.mp member with old | last
        · exact sound.work new old
        · obtain rfl := List.mem_singleton.mp last
          refine ⟨attempt, own ▸ found, by rw [loading]; rfl, fun complete => ?_⟩
          rw [loading] at complete
          cases complete
      resident := fun a attempt found live => sound.resident a attempt found (lives a live) }

/-- Loads move on, or are added, and none becomes a promise. -/
theorem Sound.loads (sound : Sound options s) {loads : List Load} {aborted : List Nat}
    (moves : ∀ (l : Nat) (load : Load), s.loads[l]? = some load → ∃ new, loads[l]? = some new ∧
      new.package = load.package ∧ (s.Promised new → s.Promised load))
    (members : ∀ new ∈ loads, ∀ a, new.attempt = some a → ∃ attempt,
      s.attempts[a]? = some attempt ∧ attempt.package = new.package) :
    Sound options { s with loads := loads, abortedSignals := aborted } :=
  { sound with
    joined := members
    awaited := fun a attempt d rest l found phase => by
      obtain ⟨load, present, same, gives⟩ := sound.awaited a attempt d rest l found phase
      obtain ⟨new, there, kept, promise⟩ := moves l load present
      exact ⟨new, there, kept.trans same, fun free promised => gives free (promise promised)⟩
    targets := fun acquisition member todo pending => by
      obtain ⟨within, covered, loaded⟩ := sound.targets acquisition member todo pending
      refine ⟨within, fun target wanted => ?_, fun l inside => ?_⟩
      · refine (covered target wanted).imp_right ?_
        rintro ⟨l, inside, load, present, same⟩
        obtain ⟨new, there, kept, _⟩ := moves l load present
        exact ⟨l, inside, new, there, kept.trans same⟩
      · obtain ⟨load, present, target, gives⟩ := loaded l inside
        obtain ⟨new, there, kept, promise⟩ := moves l load present
        exact ⟨new, there, kept ▸ target, fun promised => kept ▸ gives (promise promised)⟩ }

/-- One load moves on. -/
theorem Sound.setLoad (sound : Sound options s) {l : Nat} {load : Load} {phase : LoadPhase}
    (present : s.loads[l]? = some load)
    (promise : s.Promised { load with phase := phase } → s.Promised load) :
    Sound options (s.setLoad l phase) := by
  refine sound.loads ?_ ?_
  · intro m other there
    by_cases same : l = m
    · subst same
      obtain rfl := Option.some.inj (present.symm.trans there)
      exact ⟨{ load with phase := phase }, by simp [there], rfl, promise⟩
    · exact ⟨other, by simp [same, there], rfl, id⟩
  · intro new member a joined
    obtain ⟨m, inside⟩ := List.mem_iff_getElem?.mp member
    rw [List.getElem?_modify] at inside
    obtain ⟨old, there, rfl⟩ := Option.map_eq_some_iff.mp inside
    have found := sound.joined old (List.mem_of_getElem? there) a
    by_cases here : l = m
    · simp only [if_pos here] at joined ⊢
      exact found joined
    · simp only [if_neg here] at joined ⊢
      exact found joined

theorem abort_promised {signal : AbortSignal} {load : Load}
    (promised : s.Promised (Load.abort signal load)) : s.Promised load := by
  unfold Load.abort at promised
  split at promised
  · unfold Promised at promised
    split at promised
    · next waiting => split at waiting <;> cases waiting
    · next outcome caught =>
        simp only at caught
        split at caught
        · obtain rfl := LoadPhase.caught.inj caught
          cases promised
        · cases caught
    · next outcome settled =>
        simp only at settled
        split at settled
        · cases settled
        · obtain rfl := LoadPhase.settled.inj settled
          cases promised
  · exact promised

/-- The loads that await a signal are rejected. -/
theorem Sound.abortLoads (sound : Sound options s) (signal : AbortSignal) {aborted : List Nat} :
    Sound options
      { s with loads := s.loads.map (Load.abort signal), abortedSignals := aborted } := by
  refine sound.loads ?_ ?_
  · intro l load there
    refine ⟨Load.abort signal load, by simp [there], ?_, abort_promised⟩
    unfold Load.abort
    split <;> rfl
  · intro new member a joined
    obtain ⟨old, there, rfl⟩ := List.mem_map.mp member
    have found := sound.joined old there a
    unfold Load.abort at joined ⊢
    split at joined
    · next waits => rw [if_pos waits]; exact found joined
    · next stays => rw [if_neg stays]; exact found joined

/-! ## Writes of an attempt -/

theorem setPhase_cases {a b : Nat} {phase : AttemptPhase} {attempt : Attempt}
    (found : (s.setPhase a phase).attempts[b]? = some attempt) :
    (b ≠ a ∧ s.attempts[b]? = some attempt) ∨
      (b = a ∧ ∃ old, s.attempts[a]? = some old ∧ attempt = { old with phase := phase }) := by
  rw [setPhase_apply] at found
  split at found
  · next same =>
      subst same
      obtain ⟨old, there, rfl⟩ := Option.map_eq_some_iff.mp found
      exact .inr ⟨rfl, old, there, rfl⟩
  · next away => exact .inl ⟨fun same => away same.symm, found⟩

theorem setPhase_self {a : Nat} {attempt : Attempt} (found : s.attempts[a]? = some attempt)
    (phase : AttemptPhase) :
    (s.setPhase a phase).attempts[a]? = some { attempt with phase := phase } := by
  simp [setPhase_apply, found]

theorem setPhase_ne {a b : Nat} (away : b ≠ a) (phase : AttemptPhase) :
    (s.setPhase a phase).attempts[b]? = s.attempts[b]? := by
  rw [setPhase_apply, if_neg fun same => away same.symm]

/-- An attempt stays in the list, with its package. -/
theorem setPhase_present {a b : Nat} {attempt : Attempt} (phase : AttemptPhase)
    (found : s.attempts[b]? = some attempt) :
    ∃ new, (s.setPhase a phase).attempts[b]? = some new ∧ new.package = attempt.package ∧
      (b ≠ a → new = attempt) ∧ (b = a → new.phase = phase) := by
  by_cases same : b = a
  · subst same
    exact ⟨_, setPhase_self found phase, rfl, fun away => absurd rfl away, fun _ => rfl⟩
  · exact ⟨attempt, (setPhase_ne same phase).trans found, rfl, fun _ => rfl,
      fun here => absurd here same⟩

theorem live_setPhase {a b : Nat} {attempt : Attempt} (found : s.attempts[a]? = some attempt)
    (unsettled : attempt.phase.unsettled = true) {phase : AttemptPhase}
    (live : (s.setPhase a phase).Live b) : s.Live b := by
  obtain ⟨new, there, lives⟩ := live
  rcases setPhase_cases there with ⟨_, old⟩ | ⟨rfl, old, _, _⟩
  · exact ⟨new, old, lives⟩
  · exact .of_unsettled found unsettled

theorem promised_setPhase {a : Nat} {phase : AttemptPhase} (unfulfilled : phase.fulfilled = false)
    {load : Load} (promised : (s.setPhase a phase).Promised load) : s.Promised load := by
  cases state : load.phase with
  | waiting =>
      cases joined : load.attempt with
      | none => simp only [Promised, state, joined]
      | some b =>
          simp only [Promised, state, joined] at promised ⊢
          obtain ⟨new, there, fulfilled⟩ := promised
          rcases setPhase_cases there with ⟨_, old⟩ | ⟨rfl, old, _, rfl⟩
          · exact ⟨new, old, fulfilled⟩
          · rw [unfulfilled] at fulfilled
            cases fulfilled
  | caught outcome => simpa only [Promised, state] using promised
  | settled outcome => simpa only [Promised, state] using promised

/-- An attempt that is not settled moves on, before its `then`. -/
theorem Sound.setPhase (sound : Sound options s) {a : Nat} {attempt : Attempt}
    (found : s.attempts[a]? = some attempt) {phase : AttemptPhase}
    (unsettled : attempt.phase.unsettled = true) (unfulfilled : attempt.phase.fulfilled = false)
    (stays : phase.unsettled = true) (unmade : phase.fulfilled = false)
    (started : attempt.phase.started = true → phase.started = true)
    (complete : phase.complete = true → ∀ resource ∈ s.resources, resource.attempt = a →
      resource.phase = .finished none)
    (fewer : phase.remaining ⊆ attempt.phase.remaining)
    (hopes : phase.hopeful = true → attempt.phase.hopeful = true)
    (passed : phase.hopeful = true → attempt.aborted = false → ∀ d ∈ attempt.phase.remaining, d ∉ phase.remaining →
      (s.runtimes d).ready ≠ none)
    (waits : ∀ d rest l, phase = .depending (d :: rest) (some l) →
      ∃ load, s.loads[l]? = some load ∧ load.package = d ∧
        (attempt.aborted = false → s.Promised load → (s.runtimes d).ready ≠ none)) :
    Sound options (s.setPhase a phase) where
  flight := fun id b here => by
    obtain ⟨old, there, package, open'⟩ := sound.flight id b here
    obtain ⟨new, present, same, away, self⟩ := setPhase_present phase there
    refine ⟨new, present, same.trans package, ?_⟩
    by_cases here : b = a
    · rw [self here, stays]
    · rw [away here, open']
  current := fun b new there open' => by
    rcases setPhase_cases there with ⟨_, old⟩ | ⟨rfl, old, present, rfl⟩
    · exact sound.current b new old open'
    · obtain rfl := Option.some.inj (found.symm.trans present)
      exact sound.current b attempt found unsettled
  alone := fun b c first second left right same less live => by
    have old : ∀ {b : Nat} {new : Attempt}, (s.setPhase a phase).attempts[b]? = some new →
        ∃ old, s.attempts[b]? = some old ∧ old.package = new.package := by
      intro b new there
      rcases setPhase_cases there with ⟨_, old⟩ | ⟨rfl, old, present, rfl⟩
      · exact ⟨new, old, rfl⟩
      · exact ⟨old, present, rfl⟩
    obtain ⟨one, here, samePackage⟩ := old left
    obtain ⟨two, there, otherPackage⟩ := old right
    exact sound.alone b c one two here there
      (samePackage.trans (same.trans otherPackage.symm)) less (live_setPhase found unsettled live)
  work := fun resource member => by
    obtain ⟨old, there, begun, done⟩ := sound.work resource member
    obtain ⟨new, present, _, away, self⟩ := setPhase_present phase there
    refine ⟨new, present, ?_, fun completes => ?_⟩
    · by_cases here : resource.attempt = a
      · rw [self here]
        obtain rfl := Option.some.inj (found.symm.trans (here ▸ there))
        exact started begun
      · rw [away here, begun]
    · by_cases here : resource.attempt = a
      · exact complete (self here ▸ completes) resource member here
      · exact done (away here ▸ completes)
  joined := fun load member b joined => by
    obtain ⟨old, there, package⟩ := sound.joined load member b joined
    obtain ⟨new, present, same, _⟩ := setPhase_present phase there
    exact ⟨new, present, same.trans package⟩
  shown := sound.shown
  resident := fun b new there live ready => by
    rcases setPhase_cases there with ⟨_, old⟩ | ⟨rfl, old, present, rfl⟩
    · exact sound.resident b new old (live_setPhase found unsettled live) ready
    · obtain rfl := Option.some.inj (found.symm.trans present)
      have handled := sound.resident b attempt found (.of_unsettled found unsettled) ready
      rw [handled] at unfulfilled
      cases unfulfilled
  made := fun b new there handled => by
    rcases setPhase_cases there with ⟨_, old⟩ | ⟨rfl, old, present, rfl⟩
    · exact sound.made b new old handled
    · simp only at handled
      rw [handled] at unmade
      cases unmade
  held := fun b new there open' free => by
    rcases setPhase_cases there with ⟨_, old⟩ | ⟨rfl, old, present, rfl⟩
    · exact sound.held b new old open' free
    · obtain rfl := Option.some.inj (found.symm.trans present)
      exact sound.held b attempt found unsettled free
  owned := sound.owned
  depends := fun b new there open' free d needed => by
    rcases setPhase_cases there with ⟨_, old⟩ | ⟨rfl, old, present, rfl⟩
    · exact sound.depends b new old open' free d needed
    · obtain rfl := Option.some.inj (found.symm.trans present)
      by_cases still : d ∈ phase.remaining
      · exact .inl still
      · rcases sound.depends b attempt found (hopes open') free d needed with remains | ready
        · exact .inr (passed open' free d remains still)
        · exact .inr ready
  listed := fun b new there => by
    rcases setPhase_cases there with ⟨_, old⟩ | ⟨rfl, old, present, rfl⟩
    · exact sound.listed b new old
    · obtain rfl := Option.some.inj (found.symm.trans present)
      exact fun d member => sound.listed b attempt found (fewer member)
  awaited := fun b new d rest l there waiting => by
    rcases setPhase_cases there with ⟨_, old⟩ | ⟨rfl, old, present, rfl⟩
    · obtain ⟨load, inside, package, gives⟩ := sound.awaited b new d rest l old waiting
      exact ⟨load, inside, package, fun free promised =>
        gives free (promised_setPhase unmade promised)⟩
    · obtain rfl := Option.some.inj (found.symm.trans present)
      obtain ⟨load, inside, package, gives⟩ := waits d rest l waiting
      exact ⟨load, inside, package, fun free promised =>
        gives free (promised_setPhase unmade promised)⟩
  closed := sound.closed
  targets := fun acquisition member todo pending => by
    obtain ⟨within, covered, loaded⟩ := sound.targets acquisition member todo pending
    refine ⟨within, covered, fun l inside => ?_⟩
    obtain ⟨load, present, target, gives⟩ := loaded l inside
    exact ⟨load, present, target, fun promised => gives (promised_setPhase unmade promised)⟩
  leased := sound.leased

end Manager

end SlotsGame.Assets
