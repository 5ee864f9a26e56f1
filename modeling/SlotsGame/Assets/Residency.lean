/-
# SlotsGame.Assets.Residency -- resident packages are owned and complete

`Resident` is what a manager should show: a package whose resources are in memory is in
the closure of an acquisition or a lease; every package of a lease is ready; `ready` is
shown exactly for those; and an attempt that was superseded writes nothing.

The code keeps it along runs whose steps are `orderly` (`residency_kept`), and other
runs lose it (`residency_lost`): a stage that fails on one target leaves the others
loading, and they become resident with no owner; an attempt that was aborted settles
over the one that came after it.
-/
import SlotsGame.Assets.Ownership

namespace SlotsGame.Assets.Manager

open SlotsGame.Theory

set_option autoImplicit false

variable {options : Options} {s t : Manager}

/-! ## A package is made ready -/

theorem live_written {a b : Nat} {attempt : Attempt}
    (found : s.attempts[a]? = some attempt) (unsettled : attempt.phase.unsettled = true)
    {phase : AttemptPhase} {runtimes : String → PackageRuntime}
    (live : ({ s with runtimes := runtimes }.setPhase a phase).Live b) : s.Live b :=
  live_setPhase (s := s) found unsettled live

/-- `then`, of an attempt that has not been aborted. -/
theorem Sound.complete (sound : Sound options s) {a : Nat} {attempt : Attempt}
    (found : s.attempts[a]? = some attempt) (phase : attempt.phase = .returned none)
    (free : attempt.aborted = false) :
    Sound options ((s.updateRuntime attempt.package fun runtime =>
      { runtime with ready := some a, state := .ready, progress := 1, error := none }).setPhase a
      (.handled none)) := by
  set updated := s.updateRuntime attempt.package fun runtime =>
    { runtime with ready := some a, state := .ready, progress := 1, error := none } with isUpdated
  have unsettled : attempt.phase.unsettled = true := by rw [phase]; rfl
  have hopeful : attempt.phase.hopeful = true := by rw [phase]; rfl
  have inFlight : ∀ id, (updated.runtimes id).inFlight = (s.runtimes id).inFlight :=
    updateRuntime_field PackageRuntime.inFlight rfl
  have referenced : ∀ id, updated.referenced id = s.referenced id := by
    intro id
    have first := @updateRuntime_field s Nat PackageRuntime.pendingReferences attempt.package
      (fun runtime =>
        { runtime with ready := some a, state := .ready, progress := 1, error := none }) rfl id
    have second := @updateRuntime_field s Nat PackageRuntime.activeReferences attempt.package
      (fun runtime =>
        { runtime with ready := some a, state := .ready, progress := 1, error := none }) rfl id
    simp only [Manager.referenced, isUpdated, first, second]
  have here : (updated.runtimes attempt.package).ready ≠ none := by
    rw [isUpdated, updateRuntime_self]
    simp
  have elsewhere : ∀ id, id ≠ attempt.package → updated.runtimes id = s.runtimes id := by
    intro id away
    rw [isUpdated, updateRuntime_apply, if_neg away]
  have grows : ∀ id, (s.runtimes id).ready ≠ none → (updated.runtimes id).ready ≠ none := by
    intro id ready
    by_cases same : id = attempt.package
    · rw [same]; exact here
    · rw [elsewhere id same]; exact ready
  have promises : ∀ load ∈ s.loads, (updated.setPhase a (.handled none)).Promised load →
      s.Promised load ∨ load.package = attempt.package := by
    intro load member promised
    cases state : load.phase with
    | waiting =>
        cases joined : load.attempt with
        | none => exact .inl (by simp only [Promised, state, joined])
        | some b =>
            simp only [Promised, state, joined] at promised ⊢
            obtain ⟨new, there, fulfilled⟩ := promised
            rcases setPhase_cases there with ⟨_, old⟩ | ⟨rfl, _, _, _⟩
            · exact .inl ⟨new, old, fulfilled⟩
            · obtain ⟨own, present, package⟩ := sound.joined load member b joined
              obtain rfl := Option.some.inj (found.symm.trans present)
              exact .inr package.symm
    | caught outcome => exact .inl (by simpa only [Promised, state] using promised)
    | settled outcome => exact .inl (by simpa only [Promised, state] using promised)
  constructor
  case flight =>
    intro id b flying
    obtain ⟨old, there, package, open'⟩ := sound.flight id b (inFlight id ▸ flying)
    obtain ⟨new, present, same, away, self⟩ := setPhase_present (.handled none) there
    refine ⟨new, present, same.trans package, ?_⟩
    by_cases own : b = a
    · rw [self own]; rfl
    · rw [away own, open']
  case current =>
    intro b new there open'
    rcases setPhase_cases there with ⟨_, old⟩ | ⟨rfl, old, present, rfl⟩
    · exact (inFlight _).trans (sound.current b new old open')
    · obtain rfl := Option.some.inj (found.symm.trans present)
      exact (inFlight _).trans (sound.current b attempt found unsettled)
  case alone =>
    intro b c first second left right same less live
    have old : ∀ {b : Nat} {new : Attempt},
        (updated.setPhase a (.handled none)).attempts[b]? = some new →
        ∃ old, s.attempts[b]? = some old ∧ old.package = new.package := by
      intro b new there
      rcases setPhase_cases there with ⟨_, old⟩ | ⟨rfl, old, present, rfl⟩
      · exact ⟨new, old, rfl⟩
      · exact ⟨old, present, rfl⟩
    obtain ⟨one, here, samePackage⟩ := old left
    obtain ⟨two, there, otherPackage⟩ := old right
    exact sound.alone b c one two here there
      (samePackage.trans (same.trans otherPackage.symm)) less
      (live_written found unsettled live)
  case work =>
    intro resource member
    obtain ⟨old, there, begun, done⟩ := sound.work resource member
    obtain ⟨new, present, _, away, self⟩ := setPhase_present (.handled none) there
    refine ⟨new, present, ?_, fun completes => ?_⟩
    · by_cases own : resource.attempt = a
      · rw [self own]; rfl
      · rw [away own, begun]
    · by_cases own : resource.attempt = a
      · obtain rfl := Option.some.inj (found.symm.trans (own ▸ there))
        exact done (by rw [phase]; rfl)
      · exact done (away own ▸ completes)
  case joined =>
    intro load member b joined
    obtain ⟨old, there, package⟩ := sound.joined load member b joined
    obtain ⟨new, present, same, _⟩ := setPhase_present (.handled none) there
    exact ⟨new, present, same.trans package⟩
  case shown =>
    intro id
    show (updated.runtimes id).state = .ready ↔ (updated.runtimes id).ready ≠ none
    by_cases same : id = attempt.package
    · rw [same, isUpdated, updateRuntime_self]
      simp
    · rw [elsewhere id same]
      exact sound.shown id
  case resident =>
    intro b new there live ready
    rcases setPhase_cases there with ⟨away, old⟩ | ⟨rfl, old, present, rfl⟩
    · have alive := live_written found unsettled live
      by_cases same : new.package = attempt.package
      · -- No other attempt of the package is live.
        rcases Nat.lt_or_gt_of_ne away with less | more
        · exact absurd alive (sound.alone b a new attempt old found same less)
        · exact absurd (Live.of_unsettled found unsettled)
            (sound.alone a b attempt new found old same.symm more)
      · refine sound.resident b new old alive ?_
        rw [← elsewhere _ same]
        exact ready
    · rfl
  case made =>
    intro b new there handled
    rcases setPhase_cases there with ⟨_, old⟩ | ⟨rfl, old, present, rfl⟩
    · exact grows _ (sound.made b new old handled)
    · obtain rfl := Option.some.inj (found.symm.trans present)
      exact here
  case held =>
    intro b new there open' unaborted
    rcases setPhase_cases there with ⟨_, old⟩ | ⟨rfl, old, present, rfl⟩
    · exact (referenced _).trans (sound.held b new old open' unaborted)
    · obtain rfl := Option.some.inj (found.symm.trans present)
      exact (referenced _).trans (sound.held b attempt found unsettled unaborted)
  case owned =>
    intro id ready
    refine (referenced id).trans ?_
    by_cases same : id = attempt.package
    · rw [same]
      exact sound.held a attempt found unsettled free
    · refine sound.owned id ?_
      rw [← elsewhere id same]
      exact ready
  case depends =>
    intro b new there open' unaborted d needed
    rcases setPhase_cases there with ⟨_, old⟩ | ⟨rfl, old, present, rfl⟩
    · exact (sound.depends b new old open' unaborted d needed).imp_right (grows d)
    · obtain rfl := Option.some.inj (found.symm.trans present)
      rcases sound.depends b attempt found hopeful free d needed with remains | ready
      · rw [phase] at remains
        cases remains
      · exact .inr (grows d ready)
  case listed =>
    intro b new there
    rcases setPhase_cases there with ⟨_, old⟩ | ⟨rfl, old, present, rfl⟩
    · exact sound.listed b new old
    · exact List.nil_subset _
  case awaited =>
    intro b new d rest l there waiting
    rcases setPhase_cases there with ⟨_, old⟩ | ⟨rfl, old, present, rfl⟩
    · obtain ⟨load, inside, package, gives⟩ := sound.awaited b new d rest l old waiting
      refine ⟨load, inside, package, fun unaborted promised => ?_⟩
      rcases promises load (List.mem_of_getElem? inside) promised with before | same
      · exact grows d (gives unaborted before)
      · rw [← package, same]
        exact here
    · cases waiting
  case closed =>
    intro id ready d needed
    by_cases same : id = attempt.package
    · rcases sound.depends a attempt found hopeful free d (same ▸ needed) with remains | before
      · rw [phase] at remains
        cases remains
      · exact grows d before
    · refine grows d (sound.closed id ?_ d needed)
      rw [← elsewhere id same]
      exact ready
  case targets =>
    intro acquisition member todo pending
    obtain ⟨within, covered, loaded⟩ := sound.targets acquisition member todo pending
    refine ⟨within, covered, fun l inside => ?_⟩
    obtain ⟨load, present, target, gives⟩ := loaded l inside
    refine ⟨load, present, target, fun promised => ?_⟩
    rcases promises load (List.mem_of_getElem? present) promised with before | same
    · exact grows _ (gives before)
    · rw [same]
      exact here
  case leased =>
    intro acquisition member leased id holds
    exact grows id (sound.leased acquisition member leased id holds)

/-! ## An attempt settles -/

/-- `finally`. -/
theorem Sound.conclude (sound : Sound options s) {a : Nat} {attempt : Attempt}
    (found : s.attempts[a]? = some attempt) {outcome : Outcome}
    (phase : attempt.phase = .handled outcome) :
    Sound options ((s.updateRuntime attempt.package fun runtime =>
      if runtime.inFlight = some a then
        { runtime with inFlight := none, callers := [], cancelWhenUnobserved := false }
      else runtime).setPhase a (.settled outcome)) := by
  have unsettled : attempt.phase.unsettled = true := by rw [phase]; rfl
  have flying := sound.current a attempt found unsettled
  set updated := s.updateRuntime attempt.package fun runtime =>
    if runtime.inFlight = some a then
      { runtime with inFlight := none, callers := [], cancelWhenUnobserved := false }
    else runtime with isUpdated
  have here : updated.runtimes attempt.package =
      { s.runtimes attempt.package with
        inFlight := none, callers := [], cancelWhenUnobserved := false } := by
    rw [isUpdated, updateRuntime_self, if_pos flying]
  have elsewhere : ∀ id, id ≠ attempt.package → updated.runtimes id = s.runtimes id := by
    intro id away
    rw [isUpdated, updateRuntime_apply, if_neg away]
  have same : ∀ id, (updated.runtimes id).ready = (s.runtimes id).ready ∧
      (updated.runtimes id).state = (s.runtimes id).state ∧
      updated.referenced id = s.referenced id := by
    intro id
    by_cases own : id = attempt.package
    · simp only [Manager.referenced, own, here, and_self]
    · simp only [Manager.referenced, elsewhere id own, and_self]
  have promises : ∀ load, (updated.setPhase a (.settled outcome)).Promised load →
      s.Promised load := by
    intro load promised
    cases state : load.phase with
    | waiting =>
        cases joined : load.attempt with
        | none => simp only [Promised, state, joined]
        | some b =>
            simp only [Promised, state, joined] at promised ⊢
            obtain ⟨new, there, fulfilled⟩ := promised
            rcases setPhase_cases there with ⟨_, old⟩ | ⟨rfl, old, present, rfl⟩
            · exact ⟨new, old, fulfilled⟩
            · obtain rfl := Option.some.inj (found.symm.trans present)
              refine ⟨attempt, found, ?_⟩
              rw [phase]
              cases outcome with
              | none => rfl
              | some error => cases fulfilled
    | caught outcome => simpa only [Promised, state] using promised
    | settled outcome => simpa only [Promised, state] using promised
  constructor
  case flight =>
    intro id b flies
    have away : id ≠ attempt.package := by
      rintro rfl
      have := flies
      rw [show (updated.setPhase a (.settled outcome)).runtimes = updated.runtimes from rfl,
        here] at this
      cases this
    have flies : (s.runtimes id).inFlight = some b := elsewhere id away ▸ flies
    obtain ⟨old, there, package, open'⟩ := sound.flight id b flies
    have other : b ≠ a := by
      rintro rfl
      obtain rfl := Option.some.inj (found.symm.trans there)
      exact away package.symm
    exact ⟨old, (setPhase_ne other _).trans there, package, open'⟩
  case current =>
    intro b new there open'
    rcases setPhase_cases there with ⟨away, old⟩ | ⟨rfl, old, present, rfl⟩
    · have flies := sound.current b new old open'
      have other : new.package ≠ attempt.package := by
        intro own
        rw [own, flying] at flies
        exact away (Option.some.inj flies).symm
      exact (congrArg PackageRuntime.inFlight (elsewhere _ other)).trans flies
    · cases open'
  case alone =>
    intro b c first second left right packages less live
    have old : ∀ {b : Nat} {new : Attempt},
        (updated.setPhase a (.settled outcome)).attempts[b]? = some new →
        ∃ old, s.attempts[b]? = some old ∧ old.package = new.package := by
      intro b new there
      rcases setPhase_cases there with ⟨_, old⟩ | ⟨rfl, old, present, rfl⟩
      · exact ⟨new, old, rfl⟩
      · exact ⟨old, present, rfl⟩
    obtain ⟨one, here, samePackage⟩ := old left
    obtain ⟨two, there, otherPackage⟩ := old right
    exact sound.alone b c one two here there
      (samePackage.trans (packages.trans otherPackage.symm)) less
      (live_written found unsettled live)
  case work =>
    intro resource member
    obtain ⟨old, there, begun, done⟩ := sound.work resource member
    obtain ⟨new, present, _, away, self⟩ := setPhase_present (.settled outcome) there
    refine ⟨new, present, ?_, fun completes => ?_⟩
    · by_cases own : resource.attempt = a
      · rw [self own]; rfl
      · rw [away own, begun]
    · by_cases own : resource.attempt = a
      · obtain rfl := Option.some.inj (found.symm.trans (own ▸ there))
        refine done ?_
        rw [self own] at completes
        rw [phase]
        cases outcome with
        | none => rfl
        | some error => cases completes
      · exact done (away own ▸ completes)
  case joined =>
    intro load member b joined
    obtain ⟨old, there, package⟩ := sound.joined load member b joined
    obtain ⟨new, present, kept, _⟩ := setPhase_present (.settled outcome) there
    exact ⟨new, present, kept.trans package⟩
  case shown =>
    intro id
    show (updated.runtimes id).state = .ready ↔ (updated.runtimes id).ready ≠ none
    rw [(same id).1, (same id).2.1]
    exact sound.shown id
  case resident =>
    intro b new there live ready
    have was : (s.runtimes new.package).ready ≠ none := (same _).1 ▸ ready
    rcases setPhase_cases there with ⟨_, old⟩ | ⟨rfl, old, present, isNew⟩
    · exact sound.resident b new old (live_written found unsettled live) was
    · obtain rfl := Option.some.inj (found.symm.trans present)
      subst isNew
      have handled := sound.resident b attempt found (.of_unsettled found unsettled) was
      -- It was fulfilled: no resource of it is left.
      obtain ⟨new, again, open' | ⟨resource, member, own, running⟩⟩ := live
      · obtain rfl := Option.some.inj (there.symm.trans again)
        cases open'
      · obtain ⟨owner, present, _, done⟩ := sound.work resource member
        rw [own] at present
        obtain rfl := Option.some.inj (found.symm.trans present)
        rw [done (by rw [handled]; rfl)] at running
        cases running
  case made =>
    intro b new there handled
    rcases setPhase_cases there with ⟨_, old⟩ | ⟨rfl, old, present, rfl⟩
    · exact (same _).1 ▸ sound.made b new old handled
    · cases handled
  case held =>
    intro b new there open' unaborted
    rcases setPhase_cases there with ⟨_, old⟩ | ⟨rfl, old, present, rfl⟩
    · exact (same _).2.2.trans (sound.held b new old open' unaborted)
    · cases open'
  case owned =>
    intro id ready
    exact (same id).2.2.trans (sound.owned id ((same id).1 ▸ ready))
  case depends =>
    intro b new there open' unaborted d needed
    rcases setPhase_cases there with ⟨_, old⟩ | ⟨rfl, old, present, rfl⟩
    · exact (sound.depends b new old open' unaborted d needed).imp_right
        fun ready => (same d).1 ▸ ready
    · cases open'
  case listed =>
    intro b new there
    rcases setPhase_cases there with ⟨_, old⟩ | ⟨rfl, old, present, rfl⟩
    · exact sound.listed b new old
    · exact List.nil_subset _
  case awaited =>
    intro b new d rest l there waiting
    rcases setPhase_cases there with ⟨_, old⟩ | ⟨rfl, old, present, rfl⟩
    · obtain ⟨load, inside, package, gives⟩ := sound.awaited b new d rest l old waiting
      exact ⟨load, inside, package, fun unaborted promised =>
        (same d).1 ▸ gives unaborted (promises load promised)⟩
    · cases waiting
  case closed =>
    intro id ready d needed
    exact (same d).1 ▸ sound.closed id ((same id).1 ▸ ready) d needed
  case targets =>
    intro acquisition member todo pending
    obtain ⟨within, covered, loaded⟩ := sound.targets acquisition member todo pending
    refine ⟨within, covered, fun l inside => ?_⟩
    obtain ⟨load, present, target, gives⟩ := loaded l inside
    exact ⟨load, present, target, fun promised => (same _).1 ▸ gives (promises load promised)⟩
  case leased =>
    intro acquisition member leased id holds
    exact (same id).1 ▸ sound.leased acquisition member leased id holds

/-! ## An attempt is aborted -/

/-- The flag alone; the listeners have run. -/
theorem Sound.flag (sound : Sound options s) (a : Nat) :
    Sound options
      { s with attempts := s.attempts.modify a fun attempt => { attempt with aborted := true } } := by
  have images : ∀ {b : Nat} {new : Attempt},
      (s.attempts.modify a fun attempt => { attempt with aborted := true })[b]? = some new →
      ∃ old, s.attempts[b]? = some old ∧ new.package = old.package ∧ new.phase = old.phase ∧
        (new.aborted = false → old.aborted = false) := by
    intro b new there
    rw [List.getElem?_modify] at there
    obtain ⟨old, present, rfl⟩ := Option.map_eq_some_iff.mp there
    refine ⟨old, present, ?_⟩
    split
    · exact ⟨rfl, rfl, fun never => by cases never⟩
    · exact ⟨rfl, rfl, id⟩
  have kept : ∀ {b : Nat} {old : Attempt}, s.attempts[b]? = some old →
      ∃ new, (s.attempts.modify a fun attempt => { attempt with aborted := true })[b]? = some new ∧
        new.package = old.package ∧ new.phase = old.phase := by
    intro b old present
    rw [List.getElem?_modify, present]
    refine ⟨_, rfl, ?_⟩
    split <;> exact ⟨rfl, rfl⟩
  have lives : ∀ b, Live { s with
      attempts := s.attempts.modify a fun attempt => { attempt with aborted := true } } b →
      s.Live b := by
    rintro b ⟨new, there, alive⟩
    obtain ⟨old, present, _, phase, _⟩ := images there
    exact ⟨old, present, phase ▸ alive⟩
  have promises : ∀ load, Promised { s with
      attempts := s.attempts.modify a fun attempt => { attempt with aborted := true } } load →
      s.Promised load := by
    intro load promised
    cases state : load.phase with
    | waiting =>
        cases joined : load.attempt with
        | none => simp only [Promised, state, joined]
        | some b =>
            simp only [Promised, state, joined] at promised ⊢
            obtain ⟨new, there, fulfilled⟩ := promised
            obtain ⟨old, present, _, phase, _⟩ := images there
            exact ⟨old, present, phase ▸ fulfilled⟩
    | caught outcome => simpa only [Promised, state] using promised
    | settled outcome => simpa only [Promised, state] using promised
  constructor
  case flight =>
    intro id b flies
    obtain ⟨old, present, package, open'⟩ := sound.flight id b flies
    obtain ⟨new, there, samePackage, samePhase⟩ := kept present
    exact ⟨new, there, samePackage.trans package, samePhase ▸ open'⟩
  case current =>
    intro b new there open'
    obtain ⟨old, present, package, phase, _⟩ := images there
    exact package ▸ sound.current b old present (phase ▸ open')
  case alone =>
    intro b c first second left right packages less live
    obtain ⟨one, here, samePackage, _⟩ := images left
    obtain ⟨two, there, otherPackage, _⟩ := images right
    exact sound.alone b c one two here there
      (samePackage.symm.trans (packages.trans otherPackage)) less (lives b live)
  case work =>
    intro resource member
    obtain ⟨old, present, begun, done⟩ := sound.work resource member
    obtain ⟨new, there, _, phase⟩ := kept present
    exact ⟨new, there, phase ▸ begun, fun completes => done (phase ▸ completes)⟩
  case joined =>
    intro load member b joined
    obtain ⟨old, present, package⟩ := sound.joined load member b joined
    obtain ⟨new, there, same, _⟩ := kept present
    exact ⟨new, there, same.trans package⟩
  case shown => exact sound.shown
  case resident =>
    intro b new there live ready
    obtain ⟨old, present, package, phase, _⟩ := images there
    exact phase ▸ sound.resident b old present (lives b live) (package ▸ ready)
  case made =>
    intro b new there handled
    obtain ⟨old, present, package, phase, _⟩ := images there
    exact package ▸ sound.made b old present (phase ▸ handled)
  case held =>
    intro b new there open' free
    obtain ⟨old, present, package, phase, unaborted⟩ := images there
    exact package ▸ sound.held b old present (phase ▸ open') (unaborted free)
  case owned => exact sound.owned
  case depends =>
    intro b new there open' free d needed
    obtain ⟨old, present, package, phase, unaborted⟩ := images there
    rw [phase]
    exact sound.depends b old present (phase ▸ open') (unaborted free) d (package ▸ needed)
  case listed =>
    intro b new there
    obtain ⟨old, present, package, phase, _⟩ := images there
    rw [phase, package]
    exact sound.listed b old present
  case awaited =>
    intro b new d rest l there waiting
    obtain ⟨old, present, _, phase, unaborted⟩ := images there
    obtain ⟨load, inside, package, gives⟩ := sound.awaited b old d rest l present (phase ▸ waiting)
    exact ⟨load, inside, package, fun free promised =>
      gives (unaborted free) (promises load promised)⟩
  case closed => exact sound.closed
  case targets =>
    intro acquisition member todo pending
    obtain ⟨within, covered, loaded⟩ := sound.targets acquisition member todo pending
    refine ⟨within, covered, fun l inside => ?_⟩
    obtain ⟨load, present, target, gives⟩ := loaded l inside
    exact ⟨load, present, target, fun promised => gives (promises load promised)⟩
  case leased => exact sound.leased

theorem Sound.abortAttempt (sound : Sound options s) (a : Nat) :
    Sound options (s.abortAttempt a) := by
  have loads : Sound options { s with loads := s.loads.map (Load.abort (.controller a)) } :=
    sound.abortLoads (.controller a)
  have resources : Sound options
      { s with
        loads := s.loads.map (Load.abort (.controller a))
        resources := s.resources.map (ResourceLoad.abort a)
        queue := s.queue.filter fun n => (s.resources[n]?.map ResourceLoad.attempt) ≠ some a } := by
    refine loads.evolve fun new member => ?_
    obtain ⟨old, there, rfl⟩ := List.mem_map.mp member
    refine ⟨old, there, ?_⟩
    unfold ResourceLoad.abort
    split
    · next waits => exact ⟨rfl, fun rests => by rw [waits.2] at rests; cases rests⟩
    · exact ⟨rfl, fun _ => rfl⟩
  exact resources.flag a

/-! ## `load` -/

/-- What a call of `load` leaves: nothing is dropped, and the promise is kept. -/
structure Loaded (s t : Manager) (id : String) : Prop where
  ready : ∀ other, (t.runtimes other).ready = (s.runtimes other).ready
  attempts : ∀ (a : Nat) (attempt : Attempt), s.attempts[a]? = some attempt →
    t.attempts[a]? = some attempt
  kept : ∀ (l : Nat) (load : Load), s.loads[l]? = some load → t.loads[l]? = some load
  promise : ∃ load, t.loads[s.loads.length]? = some load ∧ load.package = id ∧
    (t.Promised load → (t.runtimes id).ready ≠ none)

theorem Sound.pushLoad (sound : Sound options s) {load : Load}
    (joined : ∀ a, load.attempt = some a → ∃ attempt, s.attempts[a]? = some attempt ∧
      attempt.package = load.package) : Sound options (s.pushLoad load) := by
  refine sound.loads ?_ ?_
  · intro l old there
    have inside := (List.getElem?_eq_some_iff.mp there).1
    exact ⟨old, by rw [List.getElem?_append_left inside, there], rfl, id⟩
  · intro new member a here
    rcases List.mem_append.mp member with old | last
    · exact sound.joined new old a here
    · obtain rfl := List.mem_singleton.mp last
      exact joined a here

theorem pushLoad_kept {load : Load} (l : Nat) (old : Load) (there : s.loads[l]? = some old) :
    (s.pushLoad load).loads[l]? = some old :=
  (List.getElem?_append_left (List.getElem?_eq_some_iff.mp there).1).trans there

theorem pushLoad_last {load : Load} : (s.pushLoad load).loads[s.loads.length]? = some load :=
  List.getElem?_concat_length

/-- A caller joins an attempt that has not made the package ready. -/
theorem Sound.joinInFlight (sound : Sound options s) {id : String} {a : Nat} {attempt : Attempt}
    (found : s.attempts[a]? = some attempt) (package : attempt.package = id)
    (unfulfilled : attempt.phase.fulfilled = false) (signal : Option AbortSignal) :
    Sound options (s.joinInFlight id a signal) ∧ Loaded s (s.joinInFlight id a signal) id := by
  have updated : Sound options (s.updateRuntime id fun runtime =>
      { runtime with callers := runtime.callers ++ [s.loads.length] }) :=
    sound.updateRuntime id rfl rfl rfl rfl (sound.shown id)
  refine ⟨updated.pushLoad ?_, ⟨?_, fun _ _ there => there, pushLoad_kept, _, pushLoad_last, rfl, ?_⟩⟩
  · intro b here
    obtain rfl := Option.some.inj here
    exact ⟨attempt, found, package⟩
  · exact @updateRuntime_field s _ PackageRuntime.ready id
      (fun runtime => { runtime with callers := runtime.callers ++ [s.loads.length] }) rfl
  · intro promised
    unfold Promised at promised
    split at promised
    · obtain ⟨other, there, fulfilled⟩ := promised
      obtain rfl := Option.some.inj (found.symm.trans there)
      rw [unfulfilled] at fulfilled
      cases fulfilled
    · next outcome caught =>
        simp only at caught
        split at caught
        · obtain rfl := LoadPhase.caught.inj caught
          cases promised
        · cases caught
    · next outcome settled =>
        simp only at settled
        split at settled <;> cases settled

theorem not_live_of_startsAfresh (sound : Sound options s) {id : String}
    (afresh : s.startsAfresh id = true) (starts : s.starts id = true) :
    s.referenced id = true ∧ ∀ (a : Nat) (attempt : Attempt), s.attempts[a]? = some attempt →
      attempt.package = id → ¬ s.Live a := by
  simp only [startsAfresh, starts, Bool.not_true, Bool.false_or, Bool.and_eq_true,
    List.all_eq_true, List.mem_range, Bool.or_eq_true, Bool.not_eq_true'] at afresh
  refine ⟨afresh.1, fun a attempt found package live => ?_⟩
  have inside := (List.getElem?_eq_some_iff.mp found).1
  rcases afresh.2 a inside with other | dead
  · simp [found, package] at other
  · have work : ∀ resource ∈ s.resources, ∃ attempt, s.attempts[resource.attempt]? = some attempt :=
      fun resource member => by
        obtain ⟨owner, there, _⟩ := sound.work resource member
        exact ⟨owner, there⟩
    rw [(live_iff work).mpr live] at dead
    cases dead

/-- A new attempt, of an owned package that nothing is loading. -/
theorem Sound.startLoad (sound : Sound options s) {id : String} (absent : (s.runtimes id).ready = none)
    (referenced : s.referenced id = true)
    (dead : ∀ (a : Nat) (attempt : Attempt), s.attempts[a]? = some attempt →
      attempt.package = id → ¬ s.Live a) (signal : Option AbortSignal) :
    Sound options (s.startLoad options id signal) ∧
      Loaded s (s.startLoad options id signal) id := by
  set first : Attempt :=
    { package := id
      aborted := false
      phase := .depending (dependenciesOf options.manifest.packages id) none } with isFirst
  set change : PackageRuntime → PackageRuntime := fun runtime =>
    { runtime with
      callers := if runtime.inFlight.isSome then [] else runtime.callers
      state := .unrequested
      progress := 0
      error := none
      inFlight := some s.attempts.length
      cancelWhenUnobserved := signal.isSome } with isChange
  set started : Manager :=
    { s with attempts := s.attempts ++ [first] }.updateRuntime id change with isStarted
  have attempts : started.attempts = s.attempts ++ [first] := rfl
  have cases : ∀ {a : Nat} {attempt : Attempt}, started.attempts[a]? = some attempt →
      (s.attempts[a]? = some attempt) ∨ (a = s.attempts.length ∧ attempt = first) := by
    intro a attempt there
    rw [attempts] at there
    rcases Nat.lt_trichotomy a s.attempts.length with inside | rfl | outside
    · exact .inl (by rwa [List.getElem?_append_left inside] at there)
    · exact .inr ⟨rfl, by simpa using there.symm⟩
    · rw [List.getElem?_eq_none (by simp; omega)] at there
      cases there
  have kept : ∀ (a : Nat) (attempt : Attempt), s.attempts[a]? = some attempt →
      started.attempts[a]? = some attempt := by
    intro a attempt there
    rw [attempts, List.getElem?_append_left (List.getElem?_eq_some_iff.mp there).1, there]
  have last : started.attempts[s.attempts.length]? = some first := List.getElem?_concat_length
  have ready : ∀ other, (started.runtimes other).ready = (s.runtimes other).ready :=
    @updateRuntime_field { s with attempts := s.attempts ++ [first] } _ PackageRuntime.ready id
      change rfl
  have owners : ∀ other, started.referenced other = s.referenced other := by
    intro other
    have pending := @updateRuntime_field { s with attempts := s.attempts ++ [first] } _
      PackageRuntime.pendingReferences id change rfl other
    have active := @updateRuntime_field { s with attempts := s.attempts ++ [first] } _
      PackageRuntime.activeReferences id change rfl other
    simp only [Manager.referenced, isStarted, pending, active]
  have inFlight : ∀ other, (started.runtimes other).inFlight =
      if other = id then some s.attempts.length else (s.runtimes other).inFlight := by
    intro other
    rw [isStarted, updateRuntime_apply]
    split <;> rfl
  have lives : ∀ (a : Nat) (attempt : Attempt), s.attempts[a]? = some attempt → started.Live a →
      s.Live a := by
    rintro a attempt present ⟨other, there, alive⟩
    obtain rfl := Option.some.inj ((kept a attempt present).symm.trans there)
    exact ⟨attempt, present, alive⟩
  have promises : ∀ load ∈ s.loads, started.Promised load → s.Promised load := by
    intro load member promised
    cases state : load.phase with
    | waiting =>
        cases joined : load.attempt with
        | none => simp only [Promised, state, joined]
        | some a =>
            simp only [Promised, state, joined] at promised ⊢
            obtain ⟨new, there, fulfilled⟩ := promised
            obtain ⟨old, present, _⟩ := sound.joined load member a joined
            obtain rfl := Option.some.inj ((kept a old present).symm.trans there)
            exact ⟨old, present, fulfilled⟩
    | caught outcome => simpa only [Promised, state] using promised
    | settled outcome => simpa only [Promised, state] using promised
  have begun : Sound options started := by
    constructor
    case flight =>
      intro other a flies
      rw [inFlight] at flies
      split at flies
      · next same =>
          obtain rfl := Option.some.inj flies
          exact ⟨first, last, same.symm, rfl⟩
      · obtain ⟨old, there, package, open'⟩ := sound.flight other a flies
        exact ⟨old, kept a old there, package, open'⟩
    case current =>
      intro a attempt there open'
      rw [inFlight]
      rcases cases there with old | ⟨rfl, rfl⟩
      · rw [if_neg fun same => dead a attempt old same (.of_unsettled old open')]
        exact sound.current a attempt old open'
      · rw [if_pos rfl]
    case alone =>
      intro a b one two left right same less live
      rcases cases left with old | ⟨rfl, rfl⟩
      · rcases cases right with other | ⟨rfl, rfl⟩
        · exact sound.alone a b one two old other same less (lives a one old live)
        · exact dead a one old same (lives a one old live)
      · have := (List.getElem?_eq_some_iff.mp right).1
        rw [attempts, List.length_append, List.length_singleton] at this
        omega
    case work =>
      intro resource member
      obtain ⟨old, there, rest⟩ := sound.work resource member
      exact ⟨old, kept _ old there, rest⟩
    case joined =>
      intro load member a joined
      obtain ⟨old, there, package⟩ := sound.joined load member a joined
      exact ⟨old, kept a old there, package⟩
    case shown =>
      intro other
      rw [ready, isStarted, updateRuntime_apply]
      split
      · next same =>
          rw [same, absent]
          simp [isChange]
      · exact sound.shown other
    case resident =>
      intro a attempt there live here
      rw [ready] at here
      rcases cases there with old | ⟨rfl, rfl⟩
      · exact sound.resident a attempt old (lives a attempt old live) here
      · exact absurd absent here
    case made =>
      intro a attempt there handled
      rw [ready]
      rcases cases there with old | ⟨rfl, rfl⟩
      · exact sound.made a attempt old handled
      · cases handled
    case held =>
      intro a attempt there open' free
      rw [owners]
      rcases cases there with old | ⟨rfl, rfl⟩
      · exact sound.held a attempt old open' free
      · exact referenced
    case owned =>
      intro other here
      rw [owners]
      exact sound.owned other (ready other ▸ here)
    case depends =>
      intro a attempt there open' free d needed
      rw [ready]
      rcases cases there with old | ⟨rfl, rfl⟩
      · exact sound.depends a attempt old open' free d needed
      · exact .inl needed
    case listed =>
      intro a attempt there
      rcases cases there with old | ⟨rfl, rfl⟩
      · exact sound.listed a attempt old
      · exact fun _ member => member
    case awaited =>
      intro a attempt d rest l there waiting
      rcases cases there with old | ⟨rfl, rfl⟩
      · obtain ⟨load, inside, package, gives⟩ := sound.awaited a attempt d rest l old waiting
        refine ⟨load, inside, package, fun free promised => ?_⟩
        rw [ready]
        exact gives free (promises load (List.mem_of_getElem? inside) promised)
      · cases (AttemptPhase.depending.inj waiting).2
    case closed =>
      intro other here d needed
      rw [ready]
      exact sound.closed other (ready other ▸ here) d needed
    case targets =>
      intro acquisition member todo pending
      obtain ⟨within, covered, loaded⟩ := sound.targets acquisition member todo pending
      refine ⟨within, covered, fun l inside => ?_⟩
      obtain ⟨load, present, target, gives⟩ := loaded l inside
      refine ⟨load, present, target, fun promised => ?_⟩
      rw [ready]
      exact gives (promises load (List.mem_of_getElem? present) promised)
    case leased =>
      intro acquisition member leased other holds
      rw [ready]
      exact sound.leased acquisition member leased other holds
  obtain ⟨sound', loaded⟩ := begun.joinInFlight last rfl rfl signal
  refine ⟨sound', ⟨fun other => (loaded.ready other).trans (ready other), ?_, loaded.kept,
    loaded.promise⟩⟩
  intro a attempt there
  exact loaded.attempts a attempt (kept a attempt there)

theorem Sound.load (sound : Sound options s) {id : String} (afresh : s.startsAfresh id = true)
    (signal : Option AbortSignal) :
    Sound options (s.load options id signal) ∧ Loaded s (s.load options id signal) id := by
  rcases load_cases id signal with ⟨ready, same⟩ | ⟨a, absent, flies, _, same⟩ | ⟨absent, idle, same⟩
  · rw [same]
    refine ⟨sound.pushLoad (fun a here => by cases here),
      ⟨fun _ => rfl, fun _ _ there => there, pushLoad_kept, _, pushLoad_last, rfl, fun _ => ready⟩⟩
  · rw [same]
    obtain ⟨attempt, found, package, open'⟩ := sound.flight id a flies
    refine sound.joinInFlight found package ?_ signal
    cases phase : attempt.phase with
    | handled outcome =>
        cases outcome with
        | none =>
            have made := sound.made a attempt found phase
            rw [package] at made
            exact absurd absent made
        | some error => rfl
    | settled outcome => rw [phase] at open'; cases open'
    | depending rest awaited => rfl
    | loading => rfl
    | returned outcome => rfl
  · rw [same]
    have starts : s.starts id = true := by
      unfold starts
      rw [absent, Bool.and_eq_true]
      refine ⟨rfl, ?_⟩
      cases flies : (s.runtimes id).inFlight with
      | none => rfl
      | some a => simpa using idle a flies
    obtain ⟨referenced, dead⟩ := not_live_of_startsAfresh sound afresh starts
    exact sound.startLoad absent referenced dead signal

/-! ## Owners come and go -/

/-- What the packages of an acquisition lose with it. -/
structure LetGo (s t : Manager) : Prop where
  attempts : t.attempts = s.attempts
  loads : t.loads = s.loads
  resources : t.resources = s.resources
  inFlight : ∀ id, (t.runtimes id).inFlight = (s.runtimes id).inFlight
  fewer : ∀ id, (t.runtimes id).ready ≠ none → (s.runtimes id).ready ≠ none
  kept : ∀ id, t.referenced id = true → (s.runtimes id).ready ≠ none → (t.runtimes id).ready ≠ none
  free : ∀ id, s.referenced id = true → t.referenced id = false → ∀ a,
    (s.runtimes id).inFlight = some a → s.attemptAborted a = true ∧ (s.runtimes id).ready = none
  owned : ∀ id, (t.runtimes id).ready ≠ none → t.referenced id = true
  shown : ∀ id, (t.runtimes id).state = .ready ↔ (t.runtimes id).ready ≠ none
  standing : ∀ acquisition ∈ t.acquisitions, Acquisition.standing acquisition = true →
    acquisition ∈ s.acquisitions

theorem standing_pending {acquisition : Acquisition} {todo : List String}
    (pending : acquisition.phase = .pending todo) : Acquisition.standing acquisition = true := by
  simp [Acquisition.standing, Acquisition.unsettled, pending]

theorem standing_leased {acquisition : Acquisition} (leased : acquisition.phase = .leased) :
    Acquisition.standing acquisition = true := by
  simp [Acquisition.standing, Acquisition.unreleased, leased]

theorem Sound.letGo (sound : Sound options s) (references : References options t)
    (gone : LetGo s t) : Sound options t := by
  have promises : ∀ load, t.Promised load → s.Promised load := by
    intro load promised
    unfold Promised at promised ⊢
    rw [gone.attempts] at promised
    exact promised
  have lives : ∀ a, t.Live a → s.Live a := by
    intro a live
    unfold Live at live ⊢
    rw [gone.attempts, gone.resources] at live
    exact live
  -- An attempt that has not been aborted still has an owner.
  have held : ∀ (a : Nat) (attempt : Attempt), s.attempts[a]? = some attempt →
      attempt.phase.unsettled = true → attempt.aborted = false →
      t.referenced attempt.package = true := by
    intro a attempt found unsettled unaborted
    cases still : t.referenced attempt.package with
    | true => rfl
    | false =>
        have aborted := (gone.free _ (sound.held a attempt found unsettled unaborted) still a
          (sound.current a attempt found unsettled)).1
        simp [attemptAborted, found, unaborted] at aborted
  constructor
  case flight =>
    intro id a flies
    rw [gone.attempts]
    exact sound.flight id a (gone.inFlight id ▸ flies)
  case current =>
    intro a attempt found unsettled
    rw [gone.inFlight]
    exact sound.current a attempt (gone.attempts ▸ found) unsettled
  case alone =>
    intro a b first second left right same less live
    exact sound.alone a b first second (gone.attempts ▸ left) (gone.attempts ▸ right) same less
      (lives a live)
  case work =>
    intro resource member
    rw [gone.attempts]
    exact sound.work resource (gone.resources ▸ member)
  case joined =>
    intro load member a joined
    rw [gone.attempts]
    exact sound.joined load (gone.loads ▸ member) a joined
  case shown => exact gone.shown
  case resident =>
    intro a attempt found live ready
    exact sound.resident a attempt (gone.attempts ▸ found) (lives a live) (gone.fewer _ ready)
  case made =>
    intro a attempt found handled
    have found : s.attempts[a]? = some attempt := gone.attempts ▸ found
    have unsettled : attempt.phase.unsettled = true := by rw [handled]; rfl
    have ready := sound.made a attempt found handled
    cases still : t.referenced attempt.package with
    | true => exact gone.kept _ still ready
    | false =>
        exact absurd (gone.free _ (sound.owned _ ready) still a
          (sound.current a attempt found unsettled)).2 ready
  case held =>
    intro a attempt found unsettled unaborted
    exact held a attempt (gone.attempts ▸ found) unsettled unaborted
  case owned => exact gone.owned
  case depends =>
    intro a attempt found hopeful unaborted d needed
    have found : s.attempts[a]? = some attempt := gone.attempts ▸ found
    refine (sound.depends a attempt found hopeful unaborted d needed).imp_right ?_
    exact gone.kept d (references.dependency
      (held a attempt found (AttemptPhase.hopeful_unsettled hopeful) unaborted) needed)
  case listed =>
    intro a attempt found
    exact sound.listed a attempt (gone.attempts ▸ found)
  case awaited =>
    intro a attempt d rest l found waiting
    have found : s.attempts[a]? = some attempt := gone.attempts ▸ found
    obtain ⟨load, inside, package, gives⟩ := sound.awaited a attempt d rest l found waiting
    refine ⟨load, gone.loads ▸ inside, package, fun unaborted promised => ?_⟩
    have unsettled : attempt.phase.unsettled = true := by rw [waiting]; rfl
    have needed : d ∈ dependenciesOf options.manifest.packages attempt.package :=
      sound.listed a attempt found (by rw [waiting]; exact List.mem_cons_self)
    exact gone.kept d (references.dependency (held a attempt found unsettled unaborted) needed)
      (gives unaborted (promises load promised))
  case closed =>
    intro id ready d needed
    exact gone.kept d (references.dependency (gone.owned id ready) needed)
      (sound.closed id (gone.fewer id ready) d needed)
  case targets =>
    intro acquisition member todo pending
    have standing := standing_pending pending
    obtain ⟨within, covered, loaded⟩ :=
      sound.targets acquisition (gone.standing acquisition member standing) todo pending
    rw [gone.loads]
    refine ⟨within, covered, fun l inside => ?_⟩
    obtain ⟨load, present, target, gives⟩ := loaded l inside
    refine ⟨load, present, target, fun promised => gone.kept _ ?_ (gives (promises load promised))⟩
    obtain ⟨known, ids⟩ := references.closures acquisition member
    refine references.referenced_iff.mpr ⟨acquisition, member, standing, ?_⟩
    rw [ids]
    exact options.manifest.target_mem_closure known target
  case leased =>
    intro acquisition member leased id holds
    have standing := standing_leased leased
    exact gone.kept id (references.referenced_iff.mpr ⟨acquisition, member, standing, holds⟩)
      (sound.leased acquisition (gone.standing acquisition member standing) leased id holds)

/-- One package of an acquisition that ends, by the rollback or by the release. -/
structure Drops (drop : PackageRuntime → PackageRuntime) (runtime : PackageRuntime) : Prop where
  inFlight : (drop runtime).inFlight = runtime.inFlight
  fewer : (drop runtime).ready ≠ none → runtime.ready ≠ none
  /-- It is kept while there is an owner, or an attempt in flight. -/
  kept : 0 < (drop runtime).pendingReferences + (drop runtime).activeReferences →
    (drop runtime).ready = runtime.ready
  gone : (drop runtime).pendingReferences + (drop runtime).activeReferences = 0 →
    runtime.inFlight = none → (drop runtime).ready = none
  counts : (drop runtime).pendingReferences + (drop runtime).activeReferences + 1 ≥
    runtime.pendingReferences + runtime.activeReferences
  shown : (runtime.state = .ready ↔ runtime.ready ≠ none) →
    ((drop runtime).state = .ready ↔ (drop runtime).ready ≠ none)

theorem evictIfUnowned_cases (runtime : PackageRuntime) :
    (evictIfUnowned runtime = runtime ∧
      (0 < runtime.pendingReferences + runtime.activeReferences ∨ runtime.inFlight ≠ none)) ∨
    (runtime.pendingReferences + runtime.activeReferences = 0 ∧ runtime.inFlight = none ∧
      evictIfUnowned runtime =
        { runtime with ready := none, state := .unrequested, progress := 0, error := none }) := by
  unfold evictIfUnowned
  split
  · next owned =>
      refine .inl ⟨rfl, ?_⟩
      rcases owned with active | pending | flies
      · exact .inl (by omega)
      · exact .inl (by omega)
      · exact .inr (Option.isSome_iff_ne_none.mp flies)
  · next unowned =>
      simp only [not_or, Nat.not_lt, Nat.le_zero, Option.not_isSome_iff_eq_none] at unowned
      exact .inr ⟨by omega, unowned.2.2, rfl⟩

/-- A count is lowered, and the package evicted if nobody is left. -/
theorem Drops.of_evict {drop : PackageRuntime → PackageRuntime} {runtime lowered : PackageRuntime}
    (is : drop runtime = evictIfUnowned lowered) (inFlight : lowered.inFlight = runtime.inFlight)
    (ready : lowered.ready = runtime.ready) (state : lowered.state = runtime.state)
    (counts : lowered.pendingReferences + lowered.activeReferences + 1 ≥
      runtime.pendingReferences + runtime.activeReferences) : Drops drop runtime := by
  rcases evictIfUnowned_cases lowered with ⟨same, stays⟩ | ⟨unowned, idle, same⟩
  · constructor <;> rw [is, same]
    · exact inFlight
    · rw [ready]
      exact id
    · exact fun _ => ready
    · intro zero rests
      rcases stays with owned | flies
      · omega
      · exact absurd (inFlight.trans rests) flies
    · exact counts
    · rw [ready, state]
      exact id
  · constructor <;> rw [is, same]
    · exact inFlight
    · exact fun absent => absurd rfl absent
    · intro owned
      simp only at owned
      omega
    · exact fun _ _ => rfl
    · exact counts
    · simp

theorem releaseOne_drops (runtime : PackageRuntime) : Drops releaseOne runtime :=
  .of_evict rfl rfl rfl rfl (by simp only; omega)

theorem rollbackOne_drops (runtime : PackageRuntime) : Drops rollbackOne runtime := by
  by_cases ready : runtime.ready.isSome = true
  · have is : rollbackOne runtime = evictIfUnowned
        { runtime with pendingReferences := runtime.pendingReferences - 1 } := by
      simp [rollbackOne, ready]
    exact .of_evict is rfl rfl rfl (by simp only; omega)
  · have none : runtime.ready = none := by simpa using ready
    have is : rollbackOne runtime =
        { runtime with pendingReferences := runtime.pendingReferences - 1 } := by
      simp [rollbackOne, none]
    constructor <;> rw [is]
    · exact id
    · exact fun _ => rfl
    · exact fun _ _ => none
    · simp only
      omega
    · exact id

theorem referenced_iff_pos {id : String} : s.referenced id = true ↔
    0 < (s.runtimes id).pendingReferences + (s.runtimes id).activeReferences := by
  rw [referenced_iff]
  omega

/-- The packages of an acquisition are dropped, as `letsGo` allows. -/
theorem LetGo.of_drops (sound : Sound options s) {ids : List String}
    {drop : PackageRuntime → PackageRuntime} (drops : ∀ runtime, Drops drop runtime)
    (allowed : s.letsGo ids = true) {acquisitions : List Acquisition}
    (standing : ∀ acquisition ∈ acquisitions, Acquisition.standing acquisition = true →
      acquisition ∈ s.acquisitions) :
    LetGo s { s with
      runtimes := fun id => if id ∈ ids then drop (s.runtimes id) else s.runtimes id
      acquisitions := acquisitions } := by
  have last : ∀ id ∈ ids,
      (drop (s.runtimes id)).pendingReferences + (drop (s.runtimes id)).activeReferences = 0 →
      ∀ a, (s.runtimes id).inFlight = some a →
        s.attemptAborted a = true ∧ (s.runtimes id).ready = none := by
    intro id member zero a flies
    have counts := (drops (s.runtimes id)).counts
    simp only [letsGo, List.all_eq_true, Bool.or_eq_true, decide_eq_true_eq] at allowed
    rcases allowed id member with more | free
    · omega
    · simpa [flies] using free
  constructor
  case attempts => rfl
  case loads => rfl
  case resources => rfl
  case inFlight =>
    intro id
    simp only
    split
    · exact (drops _).inFlight
    · rfl
  case fewer =>
    intro id ready
    simp only at ready
    split at ready
    · exact (drops _).fewer ready
    · exact ready
  case kept =>
    intro id still ready
    rw [referenced_iff_pos] at still
    simp only at still ⊢
    split
    · next member =>
        rw [if_pos member] at still
        rw [(drops _).kept still]
        exact ready
    · exact ready
  case free =>
    intro id owned none a flies
    have zero := (not_congr referenced_iff_pos).mp (by rw [none]; exact Bool.false_ne_true)
    simp only at zero
    split at zero
    · next member => exact last id member (by omega) a flies
    · exact absurd (referenced_iff_pos.mp owned) zero
  case owned =>
    intro id ready
    rw [referenced_iff_pos]
    simp only at ready ⊢
    split
    · next member =>
        rw [if_pos member] at ready
        have before := (drops _).fewer ready
        by_contra zero
        cases flies : (s.runtimes id).inFlight with
        | none => exact ready ((drops _).gone (by omega) flies)
        | some a => exact before (last id member (by omega) a flies).2
    · next absent =>
        rw [if_neg absent] at ready
        exact referenced_iff_pos.mp (sound.owned id ready)
  case shown =>
    intro id
    simp only
    split
    · exact (drops _).shown (sound.shown id)
    · exact sound.shown id
  case standing => exact standing

theorem standing_set {q : Nat} {new : Acquisition} (ended : Acquisition.standing new = false) :
    ∀ acquisition ∈ s.acquisitions.set q new, Acquisition.standing acquisition = true →
      acquisition ∈ s.acquisitions := by
  intro acquisition member standing
  rcases List.mem_or_eq_of_mem_set member with there | rfl
  · exact there
  · rw [ended] at standing
    cases standing

theorem Sound.rolledBack (sound : Sound options s) (references : References options s) {q : Nat}
    {acquisition : Acquisition} (found : s.acquisitions[q]? = some acquisition)
    (pending : acquisition.phase = .pending [])
    (allowed : s.letsGo acquisition.packageIds = true) :
    Sound options (s.rollback q acquisition) := by
  refine sound.letGo (references.rolledBack found pending) ?_
  rw [rollback_eq references found]
  exact .of_drops sound rollbackOne_drops allowed (standing_set rfl)

theorem Sound.released (sound : Sound options s) (references : References options s) {q : Nat}
    {reply : Except String Bool} (done : s.release q = some (t, reply))
    (allowed : ∀ acquisition, s.acquisitions[q]? = some acquisition → acquisition.phase = .leased →
      s.letsGo acquisition.packageIds = true) : Sound options t := by
  have after := references.released done
  obtain ⟨acquisition, found, ⟨leased, _, rfl⟩ | ⟨_, rfl, _⟩⟩ := release_cases references done
  · refine sound.letGo after ?_
    exact .of_drops sound releaseOne_drops (allowed acquisition found leased)
      (standing_set rfl)
  · exact sound

/-- The loads of an acquisition are fulfilled: its whole closure is ready. -/
theorem Sound.closure_ready (sound : Sound options s) (references : References options s)
    {acquisition : Acquisition} (member : acquisition ∈ s.acquisitions)
    (pending : acquisition.phase = .pending [])
    (fulfilled : ∀ l ∈ acquisition.loads, s.loadOutcome l = some none) :
    ∀ id ∈ acquisition.packageIds, (s.runtimes id).ready ≠ none := by
  obtain ⟨_, covered, loaded⟩ := sound.targets acquisition member [] pending
  obtain ⟨known, ids⟩ := references.closures acquisition member
  intro id holds
  rw [ids] at holds
  obtain ⟨target, wanted, needs⟩ := (options.manifest.mem_dependencyClosureIds known).mp holds
  have ready : (s.runtimes target).ready ≠ none := by
    rcases covered target wanted with none | ⟨l, inside, load, present, rfl⟩
    · cases none
    · obtain ⟨same, there, _, gives⟩ := loaded l inside
      obtain rfl := Option.some.inj (present.symm.trans there)
      refine gives ?_
      have outcome := fulfilled l inside
      simp only [loadOutcome, present, Option.bind_eq_bind, Option.bind_some] at outcome
      split at outcome
      · next result settled =>
          obtain rfl := Option.some.inj outcome
          simp only [Promised, settled]
      · cases outcome
  induction needs with
  | refl => exact ready
  | tail _ needed ih =>
      refine sound.closed _ (ih ?_) _ needed
      exact (options.manifest.mem_dependencyClosureIds known).mpr ⟨target, wanted, by assumption⟩

/-- The runtimes of an acquisition's packages are counted again, and nothing else. -/
theorem Sound.leased_step (sound : Sound options s) (references : References options s) {q : Nat}
    {acquisition : Acquisition} (found : s.acquisitions[q]? = some acquisition)
    (pending : acquisition.phase = .pending [])
    (fulfilled : ∀ l ∈ acquisition.loads, s.loadOutcome l = some none) :
    Sound options ((s.activateReferences acquisition.packageIds).setAcquisition q
      { acquisition with phase := .leased }) := by
  have ready := sound.closure_ready references (List.mem_of_getElem? found) pending fulfilled
  rw [activate_eq references found]
  have moved : Sound options { s with
      runtimes := fun id =>
        if id ∈ acquisition.packageIds then
          { s.runtimes id with
            pendingReferences := (s.runtimes id).pendingReferences - 1
            activeReferences := (s.runtimes id).activeReferences + 1 }
        else s.runtimes id } := by
    refine sound.runtimes ?_ ?_ ?_ ?_
    · intro id
      split <;> rfl
    · intro id
      split <;> rfl
    · intro id owned
      rw [referenced_iff_pos] at owned ⊢
      simp only
      split
      · simp only
        omega
      · exact owned
    · intro id
      split
      · exact sound.shown id
      · exact sound.shown id
  have same : ∀ id, (if id ∈ acquisition.packageIds then
        { s.runtimes id with
          pendingReferences := (s.runtimes id).pendingReferences - 1
          activeReferences := (s.runtimes id).activeReferences + 1 }
      else s.runtimes id).ready = (s.runtimes id).ready := by
    intro id
    split <;> rfl
  exact
    { moved with
      targets := fun other member todo open' => by
        rcases List.mem_or_eq_of_mem_set member with there | rfl
        · exact moved.targets other there todo open'
        · cases open'
      leased := fun other member leased id holds => by
        rcases List.mem_or_eq_of_mem_set member with there | rfl
        · exact moved.leased other there leased id holds
        · show (if _ then _ else _ : PackageRuntime).ready ≠ none
          rw [same]
          exact ready id holds }

theorem Sound.begin (sound : Sound options s) {targetIds : List String} {staged : Bool}
    {signal : Option Nat}
    (done : s.beginAcquisition options targetIds staged signal = some t) : Sound options t := by
  obtain ⟨_, rfl⟩ := beginAcquisition_ok done
  set ids := options.manifest.dependencyClosureIds targetIds
  have moved : Sound options { s with
      runtimes := fun id =>
        if id ∈ ids then
          { s.runtimes id with pendingReferences := (s.runtimes id).pendingReferences + 1 }
        else s.runtimes id } := by
    refine sound.runtimes ?_ ?_ ?_ ?_
    · intro id
      split <;> rfl
    · intro id
      split <;> rfl
    · intro id owned
      rw [referenced_iff_pos] at owned ⊢
      simp only
      split
      · simp only
        omega
      · exact owned
    · intro id
      split
      · exact sound.shown id
      · exact sound.shown id
  exact
    { moved with
      targets := fun other member todo open' => by
        rcases List.mem_append.mp member with there | last
        · exact moved.targets other there todo open'
        · obtain rfl := List.mem_singleton.mp last
          obtain rfl := AcquisitionPhase.pending.inj open'
          exact ⟨fun _ wanted => wanted, fun _ wanted => .inl wanted, fun _ none => by cases none⟩
      leased := fun other member leased => by
        rcases List.mem_append.mp member with there | last
        · exact moved.leased other there leased
        · obtain rfl := List.mem_singleton.mp last
          cases leased }

theorem Sound.loadTarget (sound : Sound options s) {q : Nat}
    (meets : s.orderly (.loadTarget q) = true) (done : s.loadTarget options q = some t) :
    Sound options t := by
  obtain ⟨acquisition, target, targets, found, phase, rfl⟩ := loadTarget_ok done
  have afresh : s.startsAfresh target = true := by simpa [orderly, found, phase] using meets
  obtain ⟨moved, loaded⟩ := sound.load afresh (acquisition.signal.map .application)
  have same := (@load_aside options s target (acquisition.signal.map .application)).acquisitions
  obtain ⟨load, last, package, gives⟩ := loaded.promise
  have old : acquisition ∈ (s.load options target
      (acquisition.signal.map .application)).acquisitions := by
    rw [same]
    exact List.mem_of_getElem? found
  exact
    { moved with
      targets := fun other member todo open' => by
        rcases List.mem_or_eq_of_mem_set member with there | rfl
        · exact moved.targets other there todo open'
        · obtain rfl := AcquisitionPhase.pending.inj open'
          obtain ⟨within, covered, promises⟩ := moved.targets acquisition old _ phase
          refine ⟨fun id later => within (List.mem_cons_of_mem _ later), ?_, ?_⟩
          · intro id wanted
            rcases covered id wanted with waits | ⟨l, inside, rest⟩
            · rcases List.mem_cons.mp waits with rfl | later
              · exact .inr ⟨_, List.mem_append_right _ (List.mem_singleton_self _), load, last,
                  package⟩
              · exact .inl later
            · exact .inr ⟨l, List.mem_append_left _ inside, rest⟩
          · intro l inside
            rcases List.mem_append.mp inside with before | new
            · exact promises l before
            · obtain rfl := List.mem_singleton.mp new
              refine ⟨load, last, ?_, fun promised => package ▸ gives promised⟩
              rw [package]
              exact within List.mem_cons_self
      leased := fun other member leased => by
        rcases List.mem_or_eq_of_mem_set member with there | rfl
        · exact moved.leased other there leased
        · cases leased }

/-! ## Steps -/

theorem Sound.advance (sound : Sound options s) {a : Nat} (meets : s.orderly (.advance a) = true)
    (done : s.advance options a = some t) : Sound options t := by
  obtain ⟨attempt, found, begins | reads | ends⟩ := advance_ok done
  · obtain ⟨dependency, rest, phase, rfl⟩ := begins
    have afresh : s.startsAfresh dependency = true := by simpa [orderly, found, phase] using meets
    obtain ⟨moved, loaded⟩ := sound.load afresh (some (.controller a))
    obtain ⟨load, last, package, gives⟩ := loaded.promise
    refine moved.setPhase (loaded.attempts a attempt found) ?_ ?_ rfl rfl ?_ ?_ ?_ ?_ ?_ ?_
    · rw [phase]; rfl
    · rw [phase]; rfl
    · rw [phase]; exact fun never => by cases never
    · exact fun never => by cases never
    · rw [phase]; exact fun _ member => member
    · rw [phase]; exact fun _ => rfl
    · rw [phase]; exact fun _ _ d member absent => absurd member absent
    · intro d rest' l same
      obtain ⟨heads, lengths⟩ := AttemptPhase.depending.inj same
      obtain ⟨rfl, rfl⟩ := List.cons.inj heads
      obtain rfl := Option.some.inj lengths
      exact ⟨load, last, package, fun _ => gives⟩
  · obtain ⟨dependency, rest, l, phase, ⟨outcome, rfl⟩ | ⟨error, outcome, rfl⟩⟩ := reads
    · obtain ⟨load, inside, package, gives⟩ := sound.awaited a attempt dependency rest l found phase
      have promised : s.Promised load := by
        simp only [loadOutcome, inside, Option.bind_eq_bind, Option.bind_some] at outcome
        split at outcome
        · next result settled =>
            obtain rfl := Option.some.inj outcome
            simp only [Promised, settled]
        · cases outcome
      refine sound.setPhase found ?_ ?_ rfl rfl ?_ ?_ ?_ ?_ ?_ ?_
      · rw [phase]; rfl
      · rw [phase]; rfl
      · rw [phase]; exact fun never => by cases never
      · exact fun never => by cases never
      · rw [phase]; exact fun _ member => List.mem_cons_of_mem _ member
      · rw [phase]; exact fun _ => rfl
      · rw [phase]
        intro _ free d member absent
        rcases List.mem_cons.mp member with rfl | later
        · exact gives free promised
        · exact absurd later absent
      · intro _ _ _ same
        cases (AttemptPhase.depending.inj same).2
    · refine sound.setPhase found ?_ ?_ rfl rfl (fun _ => rfl) (fun never => by cases never)
        (List.nil_subset _) (fun never => by cases never) (fun never => by cases never)
        (fun _ _ _ same => by cases same)
      · rw [phase]; rfl
      · rw [phase]; rfl
  · obtain ⟨awaited, phase, ⟨_, rfl⟩ | ⟨_, rfl⟩⟩ := ends
    · refine sound.setPhase found ?_ ?_ rfl rfl (fun _ => rfl) (fun never => by cases never)
        (List.nil_subset _) (fun never => by cases never) (fun never => by cases never)
        (fun _ _ _ same => by cases same)
      · rw [phase]; rfl
      · rw [phase]; rfl
    · have unsettled : attempt.phase.unsettled = true := by rw [phase]; rfl
      have absent : (s.runtimes attempt.package).ready = none := by
        by_contra ready
        have := sound.resident a attempt found (.of_unsettled found unsettled) ready
        rw [phase] at this
        cases this
      have fetching : Sound options (s.updateRuntime attempt.package fun runtime =>
          { runtime with state := .fetching, progress := 0, error := none }) :=
        sound.updateRuntime attempt.package rfl rfl rfl rfl (by simp [absent])
      have loading : Sound options ((s.updateRuntime attempt.package fun runtime =>
          { runtime with state := .fetching, progress := 0, error := none }).setPhase a .loading) := by
        refine fetching.setPhase found unsettled ?_ rfl rfl (fun _ => rfl)
          (fun never => by cases never) (List.nil_subset _) ?_ ?_ (fun _ _ _ same => by cases same)
        · rw [phase]; rfl
        · rw [phase]; exact fun _ => rfl
        · rw [phase]; exact fun _ _ _ member => by cases member
      have fold : ∀ (sizes : List Nat) (u : Manager), Sound options u →
          (∃ attempt, u.attempts[a]? = some attempt ∧ attempt.phase = .loading) →
          Sound options (sizes.foldl (Manager.acquirePermit options.concurrency a) u) := by
        intro sizes
        induction sizes with
        | nil => intro u sound _; exact sound
        | cons bytes rest ih =>
            rintro u sound ⟨own, there, phase⟩
            refine ih _ ?_ ?_
            · unfold Manager.acquirePermit
              split
              · exact sound.pushResource there phase rfl
              · exact sound.pushResource there phase rfl
            · refine ⟨own, ?_, phase⟩
              unfold Manager.acquirePermit
              split <;> exact there
      exact fold _ _ loading ⟨_, setPhase_self (s := s.updateRuntime attempt.package _) found _, rfl⟩

/-- A resource that holds a permit: its package is not ready. -/
theorem Sound.loading_unready (sound : Sound options s) {n : Nat} {resource : ResourceLoad}
    {attempt : Attempt} (present : s.resources[n]? = some resource)
    (found : s.attempts[resource.attempt]? = some attempt) (holding : resource.phase = .holding) :
    (s.runtimes attempt.package).ready = none := by
  by_contra ready
  have member := List.mem_of_getElem? present
  have live : s.Live resource.attempt :=
    ⟨attempt, found, .inr ⟨resource, member, rfl, by rw [holding]; rfl⟩⟩
  have handled := sound.resident _ attempt found live ready
  obtain ⟨owner, there, _, complete⟩ := sound.work resource member
  obtain rfl := Option.some.inj (found.symm.trans there)
  have := complete (by rw [handled]; rfl)
  rw [holding] at this
  cases this

theorem Sound.updateProgress (sound : Sound options s) {n : Nat} {resource : ResourceLoad}
    {attempt : Attempt} (present : s.resources[n]? = some resource)
    (found : s.attempts[resource.attempt]? = some attempt) (holding : resource.phase = .holding)
    {state : AssetPackageState} (shows : state ≠ .ready) (fraction : ℚ) :
    Sound options (s.updateProgress n resource attempt.package state fraction) := by
  have absent := sound.loading_unready present found holding
  have evolved : Sound options { s with
      resources := s.resources.set n
        { resource with fraction := max resource.fraction (clamp01 fraction) } } := by
    refine sound.evolve fun new member => ?_
    rcases List.mem_or_eq_of_mem_set member with there | rfl
    · exact ⟨new, there, rfl, fun _ => rfl⟩
    · exact ⟨resource, List.mem_of_getElem? present, rfl, fun _ => rfl⟩
  unfold Manager.updateProgress
  refine evolved.updateRuntime attempt.package ?_ ?_ ?_ ?_ ?_
  · rfl
  · rfl
  · rfl
  · rfl
  · simp [absent, shows]

theorem Sound.releasePermit (sound : Sound options s)
    (waiting : ∀ n ∈ s.queue, ∃ resource, s.resources[n]? = some resource ∧
      resource.phase = .queued) : Sound options s.releasePermit := by
  unfold Manager.releasePermit
  split
  · next n rest same =>
      obtain ⟨waiter, there, queued⟩ := waiting n (same ▸ List.mem_cons_self)
      rw [modify_eq_set there]
      refine sound.evolve fun new member => ?_
      rcases List.mem_or_eq_of_mem_set member with old | rfl
      · exact ⟨new, old, rfl, fun _ => rfl⟩
      · refine ⟨waiter, List.mem_of_getElem? there, rfl, fun rests => ?_⟩
        rw [queued] at rests
        cases rests
  · exact sound.evolve fun new member => ⟨new, member, rfl, fun _ => rfl⟩

theorem Sound.finished (sound : Sound options s) (permits : Permits options s) {n : Nat}
    {resource : ResourceLoad} (present : s.resources[n]? = some resource)
    (holding : resource.phase = .holding) (outcome : Outcome) :
    Sound options { s with resources := s.resources.modify n fun resource =>
      { resource with phase := .finished outcome } }.releasePermit := by
  rw [modify_eq_set present]
  have evolved : Sound options { s with
      resources := s.resources.set n { resource with phase := .finished outcome } } := by
    refine sound.evolve fun new member => ?_
    rcases List.mem_or_eq_of_mem_set member with there | rfl
    · exact ⟨new, there, rfl, fun _ => rfl⟩
    · refine ⟨resource, List.mem_of_getElem? present, rfl, fun rests => ?_⟩
      rw [holding] at rests
      cases rests
  refine evolved.releasePermit fun m member => ?_
  obtain ⟨waiter, there, queued⟩ := (permits.queued m).mp member
  have away : n ≠ m := by
    rintro rfl
    obtain rfl := Option.some.inj (present.symm.trans there)
    rw [holding] at queued
    cases queued
  exact ⟨waiter, by simp [List.getElem?_set_ne away, there], queued⟩

/-- An orderly step keeps the invariant. -/
theorem Sound.step (sound : Sound options s) (references : References options s)
    (permits : Permits options s) {action : Action} (meets : s.orderly action = true)
    (done : s.step options action = some t) : Sound options t := by
  cases action with
  | acquire id signal => exact sound.begin (acquire_ok done).2
  | acquireStage stage signal =>
      obtain ⟨_, _, done⟩ := acquireStage_ok done
      exact sound.begin done
  | loadTarget q => exact sound.loadTarget meets done
  | settleAcquisition q =>
      obtain ⟨acquisition, found, pending, ⟨fails, rfl⟩ | ⟨fulfilled, _, rfl⟩⟩ :=
        settleAcquisition_ok done
      · have allowed : s.letsGo acquisition.packageIds = true := by
          simpa [orderly, found, fails] using meets
        exact sound.rolledBack references found pending allowed
      · exact sound.leased_step references found pending fulfilled
  | release q =>
      obtain ⟨⟨after, reply⟩, released, rfl⟩ := Option.map_eq_some_iff.mp done
      refine sound.released references released fun acquisition found leased => ?_
      simpa [orderly, found, leased] using meets
  | abort signal =>
      obtain rfl := Option.some.inj done
      exact sound.abortLoads (.application signal)
  | advance a => exact sound.advance meets done
  | gather a =>
      obtain ⟨attempt, found, phase, all, rfl⟩ := gather_ok done
      refine sound.setPhase found ?_ ?_ rfl ?_ (fun _ => rfl) (fun _ => all) (List.nil_subset _) ?_ ?_
        (fun _ _ _ same => by cases same)
      · rw [phase]; rfl
      · rw [phase]; rfl
      · split <;> rfl
      · rw [phase]; exact fun _ => rfl
      · rw [phase]; exact fun _ _ _ member => by cases member
  | gatherFailure n =>
      obtain ⟨resource, attempt, error, _, found, phase, _, rfl⟩ := gatherFailure_ok done
      refine sound.setPhase found ?_ ?_ rfl rfl (fun _ => rfl) (fun never => by cases never)
        (List.nil_subset _) (fun never => by cases never) (fun never => by cases never)
        (fun _ _ _ same => by cases same)
      · rw [phase]; rfl
      · rw [phase]; rfl
  | complete a thrown =>
      obtain ⟨attempt, found, phase, ⟨_, rfl⟩ | ⟨free, rfl⟩⟩ := complete_ok done
      · refine sound.setPhase found ?_ ?_ rfl rfl (fun _ => rfl) (fun never => by cases never)
          (List.nil_subset _) (fun never => by cases never) (fun never => by cases never)
          (fun _ _ _ same => by cases same)
        · rw [phase]; rfl
        · rw [phase]; rfl
      · have silent : thrown = none := by simpa [orderly] using meets
        rw [silent]
        exact sound.complete found phase free
  | fail a thrown =>
      obtain ⟨attempt, cause, error, outcome, found, phase, rfl⟩ := fail_ok done
      have unsettled : attempt.phase.unsettled = true := by rw [phase]; rfl
      have absent : (s.runtimes attempt.package).ready = none := by
        by_contra ready
        have := sound.resident a attempt found (.of_unsettled found unsettled) ready
        rw [phase] at this
        cases this
      have written : Sound options (s.updateRuntime attempt.package fun runtime =>
          { runtime with
            state := if error = LoadError.aborted then .cancelled else .failed
            error := some error
            progress := min runtime.progress runningMax }) := by
        refine sound.updateRuntime attempt.package rfl rfl rfl rfl ?_
        simp only [absent]
        split <;> simp
      refine written.setPhase found unsettled ?_ rfl rfl (fun _ => rfl) (fun never => by cases never)
        (List.nil_subset _) (fun never => by cases never) (fun never => by cases never)
        (fun _ _ _ same => by cases same)
      rw [phase]; rfl
  | conclude a =>
      obtain ⟨attempt, outcome, found, phase, rfl⟩ := conclude_ok done
      exact sound.conclude found phase
  | deliver l =>
      obtain ⟨load, present, waiting, ⟨ready, rfl⟩ | ⟨a, attempt, outcome, joined, found, settled, rfl⟩⟩ :=
        deliver_ok done
      · refine sound.setLoad present fun _ => ?_
        simp only [Promised, waiting, ready]
      · refine sound.setLoad present fun promised => ?_
        obtain rfl : outcome = none := promised
        simp only [Promised, waiting, joined]
        exact ⟨attempt, found, by rw [settled]; rfl⟩
  | leave l =>
      obtain ⟨load, a, outcome, present, _, caught, rest⟩ := leave_ok done
      have left : Sound options ((s.updateRuntime load.package fun runtime =>
          { runtime with callers := runtime.callers.erase l }).setLoad l (.settled outcome)) := by
        have erased : Sound options (s.updateRuntime load.package fun runtime =>
            { runtime with callers := runtime.callers.erase l }) :=
          sound.updateRuntime load.package rfl rfl rfl rfl (sound.shown load.package)
        refine erased.setLoad present fun promised => ?_
        simp only [Promised] at promised
        simp only [Promised, caught, promised]
      rcases rest with rfl | ⟨_, rfl⟩
      · exact left
      · exact left.abortAttempt a
  | report n decoding fraction =>
      obtain ⟨resource, attempt, present, found, holding, rfl⟩ := report_ok done
      exact sound.updateProgress present found holding (by split <;> simp) fraction
  | finish n outcome =>
      obtain ⟨resource, attempt, before, present, found, holding, rfl | ⟨_, rfl⟩, rfl⟩ := finish_ok done
      · exact sound.finished permits present holding outcome
      · have written : (s.resources.set n
            { resource with fraction := max resource.fraction (clamp01 1) })[n]? =
            some { resource with fraction := max resource.fraction (clamp01 1) } :=
          List.getElem?_set_self (List.getElem?_eq_some_iff.mp present).1
        exact (sound.updateProgress present found holding (by simp) 1).finished
          (permits.updateProgress present attempt.package .decoding 1) written holding outcome

theorem Sound.initial : Sound options Manager.initial where
  flight := fun _ _ flies => by cases flies
  current := fun _ _ found => by simp [Manager.initial] at found
  alone := fun _ _ _ _ found => by simp [Manager.initial] at found
  work := fun _ member => by cases member
  joined := fun _ member => by cases member
  shown := fun _ => by simp [Manager.initial]
  resident := fun _ _ found => by simp [Manager.initial] at found
  made := fun _ _ found => by simp [Manager.initial] at found
  held := fun _ _ found => by simp [Manager.initial] at found
  owned := fun _ ready => absurd rfl ready
  depends := fun _ _ found => by simp [Manager.initial] at found
  listed := fun _ _ found => by simp [Manager.initial] at found
  awaited := fun _ _ _ _ _ found => by simp [Manager.initial] at found
  closed := fun _ ready => absurd rfl ready
  targets := fun _ member => by cases member
  leased := fun _ member => by cases member

/-! ## Residency -/

/-- The attempt on whose behalf an action is taken. -/
def attemptOf (s : Manager) : Action → Option Nat
  | .advance a | .gather a | .complete a _ | .fail a _ | .conclude a => some a
  | .gatherFailure n | .report n _ _ | .finish n _ => s.resources[n]?.map ResourceLoad.attempt
  | _ => none

/-- Resident packages are owned and complete. -/
structure Resident (options : Options) (s : Manager) : Prop where
  /-- A resident package is in the closure of an unsettled acquisition or an unreleased lease. -/
  owned : ∀ id, (s.runtimes id).ready ≠ none → ∃ acquisition ∈ s.acquisitions,
    (acquisition.unsettled = true ∨ acquisition.unreleased = true) ∧ id ∈ acquisition.packageIds
  /-- The packages of a lease are ready. -/
  leased : ∀ acquisition ∈ s.acquisitions, acquisition.unreleased = true →
    ∀ id ∈ acquisition.packageIds, (s.runtimes id).ready ≠ none
  shown : ∀ id, (s.runtimes id).state = .ready ↔ (s.runtimes id).ready ≠ none
  /-- What a superseded attempt does leaves the package as it is. -/
  late : ∀ (a b : Nat) (first second : Attempt), s.attempts[a]? = some first →
    s.attempts[b]? = some second → first.package = second.package → a < b →
    ∀ action t, s.attemptOf action = some a → s.step options action = some t →
      (t.runtimes first.package).state = (s.runtimes first.package).state ∧
        (t.runtimes first.package).error = (s.runtimes first.package).error ∧
        (t.runtimes first.package).progress = (s.runtimes first.package).progress

/-- Whoever takes a step has something left to do. -/
theorem live_of_step {a : Nat} {action : Action} (own : s.attemptOf action = some a)
    (done : s.step options action = some t) : s.Live a := by
  cases action with
  | advance b =>
      obtain rfl := Option.some.inj own
      obtain ⟨attempt, found, ⟨_, _, phase, _⟩ | ⟨_, _, _, phase, _⟩ | ⟨_, phase, _⟩⟩ :=
        advance_ok done
      all_goals exact .of_unsettled found (by rw [phase]; rfl)
  | gather b =>
      obtain rfl := Option.some.inj own
      obtain ⟨attempt, found, phase, _⟩ := gather_ok done
      exact .of_unsettled found (by rw [phase]; rfl)
  | complete b thrown =>
      obtain rfl := Option.some.inj own
      obtain ⟨attempt, found, phase, _⟩ := complete_ok done
      exact .of_unsettled found (by rw [phase]; rfl)
  | fail b thrown =>
      obtain rfl := Option.some.inj own
      obtain ⟨attempt, _, _, _, found, phase, _⟩ := fail_ok done
      exact .of_unsettled found (by rw [phase]; rfl)
  | conclude b =>
      obtain rfl := Option.some.inj own
      obtain ⟨attempt, _, found, phase, _⟩ := conclude_ok done
      exact .of_unsettled found (by rw [phase]; rfl)
  | gatherFailure n =>
      obtain ⟨resource, attempt, _, present, found, phase, _⟩ := gatherFailure_ok done
      obtain rfl : resource.attempt = a := by simpa [attemptOf, present] using own
      exact .of_unsettled found (by rw [phase]; rfl)
  | report n decoding fraction =>
      obtain ⟨resource, attempt, present, found, holding, _⟩ := report_ok done
      obtain rfl : resource.attempt = a := by simpa [attemptOf, present] using own
      exact ⟨attempt, found, .inr ⟨resource, List.mem_of_getElem? present, rfl, by rw [holding]; rfl⟩⟩
  | finish n outcome =>
      obtain ⟨resource, attempt, _, present, found, holding, _⟩ := finish_ok done
      obtain rfl : resource.attempt = a := by simpa [attemptOf, present] using own
      exact ⟨attempt, found, .inr ⟨resource, List.mem_of_getElem? present, rfl, by rw [holding]; rfl⟩⟩
  | _ => cases own

theorem Sound.resident_of (sound : Sound options s) (references : References options s) :
    Resident options s where
  owned := fun id ready => by
    obtain ⟨acquisition, member, standing, holds⟩ :=
      references.referenced_iff.mp (sound.owned id ready)
    exact ⟨acquisition, member, by simpa [Acquisition.standing] using standing, holds⟩
  leased := fun acquisition member unreleased =>
    sound.leased acquisition member (by simpa [Acquisition.unreleased] using unreleased)
  shown := sound.shown
  late := fun a b first second left right same less action t own done =>
    absurd (live_of_step own done) (sound.alone a b first second left right same less)

/-- The states that orderly steps lead to. -/
def OrderlyReached (options : Options) : Manager → Prop :=
  Reachable (· = Manager.initial) fun s t =>
    ∃ action, s.orderly action = true ∧ s.step options action = some t

/-- Along every run of orderly steps, resident packages are owned and complete. -/
theorem residency_kept (reached : OrderlyReached options s) : Resident options s := by
  have all : References options s ∧ Permits options s ∧ Sound options s := by
    refine Reachable.invariant
      (fun s => References options s ∧ Permits options s ∧ Sound options s) ?_ ?_ reached
    · rintro _ rfl
      exact ⟨.initial, .initial, .initial⟩
    · rintro s t _ ⟨references, permits, sound⟩ ⟨action, meets, done⟩
      exact ⟨references.step done, permits.step done, sound.step references permits meets done⟩
  exact all.2.2.resident_of all.1

/-! ## Runs that keep it, and runs that lose it -/

/-- A run whose steps are orderly. -/
def orderlyRun (options : Options) (actions : List Action) : Option Manager :=
  actions.foldlM (fun s action => if s.orderly action then s.step options action else none)
    Manager.initial

theorem orderlyRun_reached {actions : List Action} (done : orderlyRun options actions = some s) :
    OrderlyReached options s := by
  have from_here : ∀ (actions : List Action) (start : Manager), OrderlyReached options start →
      actions.foldlM (fun s action => if s.orderly action then s.step options action else none)
        start = some s → OrderlyReached options s := by
    intro actions
    induction actions with
    | nil => intro start reached done; exact Option.some.inj done ▸ reached
    | cons action rest ih =>
        intro start reached done
        rw [List.foldlM_cons] at done
        obtain ⟨next, stepped, done⟩ := Option.bind_eq_some_iff.mp done
        split at stepped
        · next meets => exact ih next (reached.next ⟨action, meets, stepped⟩) done
        · cases stepped
  exact from_here actions _ (.start rfl) done

theorem leasing_resident :
    ∃ s, orderlyRun sampleOptions (leasing.take 11) = some s ∧
      (s.runtimes "base").activeReferences = 1 ∧ Resident sampleOptions s := by
  have ends : (orderlyRun sampleOptions (leasing.take 11)).map
      (fun s => (s.runtimes "base").activeReferences) = some 1 := by decide +kernel
  obtain ⟨s, done, leased⟩ := Option.map_eq_some_iff.mp ends
  exact ⟨s, done, leased, residency_kept (orderlyRun_reached done)⟩

/-- A stage fails on `sound` while `panel` and its dependency are being loaded; they go on. -/
def failedStage : List Action :=
  [.acquireStage .interactionReady none, .loadTarget 0, .advance 0, .advance 1, .loadTarget 0,
    .advance 2, .finish 2 (some (.other "HTTP 404")), .gatherFailure 2, .fail 2 none, .conclude 2,
    .deliver 2, .leave 2, .settleAcquisition 0, .finish 0 none, .finish 1 none, .gather 1,
    .complete 1 none, .conclude 1, .deliver 1, .leave 1, .advance 0, .advance 0, .finish 3 none,
    .gather 0, .complete 0 none, .conclude 0]

/-- The same, where `base` was leased before and is released before `panel` is ready; then
`panel` is acquired. -/
def hollowLease : List Action :=
  leasing.take 11 ++
    [.acquireStage .interactionReady none, .loadTarget 1, .advance 1, .deliver 2, .advance 1,
      .advance 1, .loadTarget 1, .advance 2, .finish 3 (some (.other "HTTP 404")), .gatherFailure 3,
      .fail 2 none, .conclude 2, .deliver 3, .leave 3, .settleAcquisition 1, .release 0,
      .finish 2 none, .gather 1, .complete 1 none, .conclude 1, .acquire "panel" none,
      .loadTarget 2, .deliver 4, .settleAcquisition 2]

/-- An acquisition is aborted while its resource is being decoded, and `sound` acquired again;
the first attempt settles last. -/
def lateAbort : List Action :=
  [.acquire "sound" (some 7), .loadTarget 0, .advance 0, .abort 7, .leave 0, .settleAcquisition 0,
    .acquire "sound" none, .loadTarget 1, .advance 1, .finish 1 none, .gather 1, .complete 1 none,
    .conclude 1, .deliver 1, .leave 1, .settleAcquisition 1, .finish 0 (some .aborted),
    .gatherFailure 0, .fail 0 none]

/-- A package stays resident with no owner; a lease holds a package that is not ready; and a
package that is ready is shown as cancelled. -/
theorem residency_lost :
    (∃ s, Reached sampleOptions s ∧ (s.runtimes "panel").ready ≠ none ∧
      (s.runtimes "panel").inFlight = none ∧
      ∀ acquisition ∈ s.acquisitions,
        ¬ (acquisition.unsettled = true ∨ acquisition.unreleased = true)) ∧
    (∃ s, Reached sampleOptions s ∧ (s.runtimes "base").ready = none ∧
      ∃ acquisition ∈ s.acquisitions, acquisition.unreleased = true ∧
        "base" ∈ acquisition.packageIds) ∧
    (∃ s, Reached sampleOptions s ∧ (s.runtimes "sound").ready ≠ none ∧
      (s.runtimes "sound").state = .cancelled) := by
  refine ⟨?_, ?_, ?_⟩
  · have ends : (run sampleOptions failedStage).map (fun s =>
        decide ((s.runtimes "panel").ready ≠ none ∧ (s.runtimes "panel").inFlight = none ∧
          ∀ acquisition ∈ s.acquisitions,
            ¬ (acquisition.unsettled = true ∨ acquisition.unreleased = true))) = some true := by
      decide +kernel
    obtain ⟨s, done, facts⟩ := Option.map_eq_some_iff.mp ends
    exact ⟨s, run_reached done, of_decide_eq_true facts⟩
  · have ends : (run sampleOptions hollowLease).map (fun s =>
        decide ((s.runtimes "base").ready = none ∧ ∃ acquisition ∈ s.acquisitions,
          acquisition.unreleased = true ∧ "base" ∈ acquisition.packageIds)) = some true := by
      decide +kernel
    obtain ⟨s, done, facts⟩ := Option.map_eq_some_iff.mp ends
    exact ⟨s, run_reached done, of_decide_eq_true facts⟩
  · have ends : (run sampleOptions lateAbort).map (fun s =>
        decide ((s.runtimes "sound").ready ≠ none ∧ (s.runtimes "sound").state = .cancelled)) =
        some true := by
      decide +kernel
    obtain ⟨s, done, facts⟩ := Option.map_eq_some_iff.mp ends
    exact ⟨s, run_reached done, of_decide_eq_true facts⟩

end SlotsGame.Assets.Manager
