/-
# SlotsGame.Assets.Steps -- what each operation of the manager does

One lemma an operation: when it is due, and the state it leaves.  The facts about
ownership are derived from these.
-/
import SlotsGame.Assets.Packages

namespace SlotsGame.Assets.Manager

set_option autoImplicit false

variable {options : Options} {s t : Manager}

/-! ## Updates -/

@[simp] theorem updateRuntime_self (id : String) (change : PackageRuntime → PackageRuntime) :
    (s.updateRuntime id change).runtimes id = change (s.runtimes id) := by
  simp [updateRuntime]

theorem updateRuntime_apply (id other : String) (change : PackageRuntime → PackageRuntime) :
    (s.updateRuntime id change).runtimes other =
      if other = id then change (s.runtimes id) else s.runtimes other := by
  simp [updateRuntime, Function.update_apply]

theorem setPhase_apply (a b : Nat) (phase : AttemptPhase) :
    (s.setPhase a phase).attempts[b]? =
      if a = b then s.attempts[b]?.map fun attempt => { attempt with phase := phase }
      else s.attempts[b]? := by
  simp only [setPhase, List.getElem?_modify]
  split
  · rfl
  · simp

/-- A change of distinct packages, package by package. -/
theorem forEach_eq (change : PackageRuntime → PackageRuntime) {ids : List String}
    (distinct : ids.Nodup) (s : Manager) :
    s.forEach change ids =
      { s with runtimes := fun id => if id ∈ ids then change (s.runtimes id) else s.runtimes id } := by
  unfold forEach
  induction ids generalizing s with
  | nil => simp
  | cons id rest ih =>
      obtain ⟨fresh, distinct⟩ := List.nodup_cons.mp distinct
      rw [List.foldl_cons, ih distinct]
      simp only [updateRuntime, Manager.mk.injEq, and_true]
      funext other
      by_cases same : other = id
      · subst same
        simp [fresh]
      · simp [same]

theorem modify_eq_set {α : Type} {entries : List α} {n : Nat} {entry : α}
    (present : entries[n]? = some entry) (change : α → α) :
    entries.modify n change = entries.set n (change entry) := by
  apply List.ext_getElem?
  intro m
  rw [List.getElem?_modify, List.getElem?_set]
  by_cases same : n = m
  · subst same
    obtain ⟨inside, rfl⟩ := List.getElem?_eq_some_iff.mp present
    simp [inside]
  · simp [same]

/-! ## References -/

theorem reserveReferences_ok {ids : List String} (distinct : ids.Nodup)
    (done : s.reserveReferences options ids = some t) :
    (∀ limit, options.maxRetainedBytes = some limit → requiredBytes options s ids ≤ limit) ∧
      t = { s with runtimes := fun id =>
        if id ∈ ids then
          { s.runtimes id with pendingReferences := (s.runtimes id).pendingReferences + 1 }
        else s.runtimes id } := by
  simp only [reserveReferences, Option.ite_none_right_eq_some, Option.some.injEq] at done
  obtain ⟨fits, rfl⟩ := done
  refine ⟨?_, forEach_eq _ distinct s⟩
  intro limit set
  simpa [set] using fits

/-- No count of the packages is zero: the loop ends, without an error. -/
theorem releaseReferences_eq {ids : List String} (distinct : ids.Nodup)
    (counted : ∀ id ∈ ids, 0 < (s.runtimes id).activeReferences) :
    s.releaseReferences ids =
      ({ s with
        runtimes := fun id => if id ∈ ids then releaseOne (s.runtimes id) else s.runtimes id },
        none) := by
  have each : ∀ (ids : List String) (s : Manager), ids.Nodup →
      (∀ id ∈ ids, 0 < (s.runtimes id).activeReferences) →
      releaseEach ids s = (s.forEach releaseOne ids, none) := by
    intro ids
    induction ids with
    | nil => intro s _ _; rfl
    | cons id rest ih =>
        intro s distinct counted
        obtain ⟨fresh, distinct⟩ := List.nodup_cons.mp distinct
        have here := counted id List.mem_cons_self
        rw [releaseEach, if_neg (by omega), ih _ distinct ?_]
        · rfl
        · intro other member
          have away : other ≠ id := fun same => fresh (same ▸ member)
          rw [updateRuntime_apply, if_neg away]
          exact counted other (List.mem_cons_of_mem _ member)
  have reversed := List.nodup_reverse.mpr distinct
  rw [releaseReferences, each _ _ reversed fun id member => counted id (List.mem_reverse.mp member),
    forEach_eq _ reversed]
  simp

/-! ## Acquisitions -/

theorem beginAcquisition_ok {targetIds : List String} {staged : Bool} {signal : Option Nat}
    (done : s.beginAcquisition options targetIds staged signal = some t) :
    let ids := options.manifest.dependencyClosureIds targetIds
    (∀ limit, options.maxRetainedBytes = some limit → requiredBytes options s ids ≤ limit) ∧
      t = { s with
        runtimes := fun id =>
          if id ∈ ids then
            { s.runtimes id with pendingReferences := (s.runtimes id).pendingReferences + 1 }
          else s.runtimes id
        acquisitions := s.acquisitions ++ [
          { targetIds := targetIds
            packageIds := ids
            signal := signal
            staged := staged
            loads := []
            phase := .pending targetIds }] } := by
  simp only [beginAcquisition, Option.bind_eq_bind, Option.bind_eq_some_iff,
    Option.some.injEq] at done
  obtain ⟨reserved, kept, rfl⟩ := done
  obtain ⟨fits, rfl⟩ := reserveReferences_ok (options.manifest.dependencyClosureIds_nodup _) kept
  exact ⟨fits, rfl⟩

/-- Both kinds of acquisition, with targets of the manifest. -/
theorem acquire_ok {id : String} {signal : Option Nat}
    (done : s.acquire options id signal = some t) :
    [id] ⊆ options.manifest.dependencyOrder ∧
      s.beginAcquisition options [id] false signal = some t := by
  simp only [acquire, Option.ite_none_right_eq_some] at done
  exact ⟨by simpa using done.1, done.2⟩

theorem acquireStage_ok {stage : AssetPackageStage} {signal : Option Nat}
    (done : s.acquireStage options stage signal = some t) :
    ∃ targetIds, targetIds ⊆ options.manifest.dependencyOrder ∧
      s.beginAcquisition options targetIds true signal = some t := by
  simp only [acquireStage, Option.ite_none_left_eq_some] at done
  exact ⟨_, List.filter_subset_self _, done.2⟩

theorem loadTarget_ok {q : Nat} (done : s.loadTarget options q = some t) :
    ∃ acquisition target targets, s.acquisitions[q]? = some acquisition ∧
      acquisition.phase = .pending (target :: targets) ∧
      t = (s.load options target (acquisition.signal.map .application)).setAcquisition q
        { acquisition with
          loads := acquisition.loads ++ [s.loads.length]
          phase := .pending targets } := by
  simp only [loadTarget, Option.bind_eq_bind, Option.bind_eq_some_iff] at done
  obtain ⟨acquisition, found, done⟩ := done
  split at done
  · next target targets phase =>
      exact ⟨acquisition, target, targets, found, phase, (Option.some.inj done).symm⟩
  · cases done

/-- An acquisition is rolled back, or becomes a lease: then all its loads are fulfilled, and
all its packages are ready if it is one of a stage. -/
theorem settleAcquisition_ok {q : Nat} (done : s.settleAcquisition q = some t) :
    ∃ acquisition, s.acquisitions[q]? = some acquisition ∧ acquisition.phase = .pending [] ∧
      ((s.fails acquisition = true ∧ t = s.rollback q acquisition) ∨
        ((∀ l ∈ acquisition.loads, s.loadOutcome l = some none) ∧
          (acquisition.staged = true → ∀ id ∈ acquisition.packageIds, (s.runtimes id).ready ≠ none) ∧
          t = (s.activateReferences acquisition.packageIds).setAcquisition q
            { acquisition with phase := .leased })) := by
  simp only [settleAcquisition, Option.bind_eq_bind, Option.bind_eq_some_iff] at done
  obtain ⟨acquisition, found, done⟩ := done
  split at done
  · cases done
  · next pending =>
      refine ⟨acquisition, found, not_not.mp pending, ?_⟩
      split at done
      · next fails => exact .inl ⟨fails, (Option.some.inj done).symm⟩
      · next passes =>
          split at done
          · next fulfilled =>
              refine .inr ⟨by simpa [Manager.fulfilled] using fulfilled, ?_,
                (Option.some.inj done).symm⟩
              intro staged id member absent
              have unready : acquisition.packageIds.any fun id => (s.runtimes id).ready.isNone :=
                List.any_eq_true.mpr ⟨id, member, by simp [absent]⟩
              exact passes (by simp [fails, fulfilled, staged, unready])
          · cases done

theorem release_ok {q : Nat} {reply : Except String Bool} (done : s.release q = some (t, reply)) :
    ∃ acquisition, s.acquisitions[q]? = some acquisition ∧
      ((acquisition.phase = .leased ∧
        ∃ underflow, (s.setAcquisition q { acquisition with phase := .released }).releaseReferences
            acquisition.packageIds = (t, underflow) ∧
          reply = match underflow with | some id => .error id | none => .ok true) ∨
        (acquisition.phase = .released ∧ t = s ∧ reply = .ok false)) := by
  simp only [release, Option.bind_eq_bind, Option.bind_eq_some_iff] at done
  obtain ⟨acquisition, found, done⟩ := done
  refine ⟨acquisition, found, ?_⟩
  split at done
  · next leased =>
      simp only [Option.some.injEq, Prod.mk.injEq] at done
      obtain ⟨rfl, rfl⟩ := done
      exact .inl ⟨leased, _, rfl, rfl⟩
  · next ended =>
      simp only [Option.some.injEq, Prod.mk.injEq] at done
      obtain ⟨rfl, rfl⟩ := done
      exact .inr ⟨ended, rfl, rfl⟩
  · cases done

/-! ## `load` -/

/-- A call of `load` finds the package ready, joins an attempt in flight, or starts one. -/
theorem load_cases (id : String) (signal : Option AbortSignal) :
    ((s.runtimes id).ready ≠ none ∧
      s.load options id signal = s.pushLoad
        { package := id
          attempt := none
          signal := signal
          phase := if s.signalAborted signal then .settled (some .aborted) else .waiting }) ∨
    (∃ a, (s.runtimes id).ready = none ∧ (s.runtimes id).inFlight = some a ∧
      s.attemptAborted a = false ∧ s.load options id signal = s.joinInFlight id a signal) ∨
    ((s.runtimes id).ready = none ∧
      (∀ a, (s.runtimes id).inFlight = some a → s.attemptAborted a = true) ∧
      s.load options id signal = s.startLoad options id signal) := by
  unfold load
  split
  · next ready => exact .inl ⟨by simpa [Option.isSome_iff_ne_none] using ready, rfl⟩
  · next absent =>
      have absent : (s.runtimes id).ready = none := by simpa using absent
      split
      · next a inFlight =>
          split
          · next aborted =>
              refine .inr (.inr ⟨absent, ?_, rfl⟩)
              intro b here
              rw [inFlight] at here
              exact Option.some.inj here ▸ aborted
          · next live => exact .inr (.inl ⟨a, absent, inFlight, by simpa using live, rfl⟩)
      · next idle =>
          refine .inr (.inr ⟨absent, ?_, rfl⟩)
          intro a here
          rw [idle] at here
          cases here

/-! ## Attempts -/

theorem advance_ok {a : Nat} (done : s.advance options a = some t) :
    ∃ attempt, s.attempts[a]? = some attempt ∧
      ((∃ dependency rest, attempt.phase = .depending (dependency :: rest) none ∧
        t = (s.load options dependency (some (.controller a))).setPhase a
          (.depending (dependency :: rest) (some s.loads.length))) ∨
      (∃ dependency rest l, attempt.phase = .depending (dependency :: rest) (some l) ∧
        ((s.loadOutcome l = some none ∧ t = s.setPhase a (.depending rest none)) ∨
          ∃ error, s.loadOutcome l = some (some error) ∧
            t = s.setPhase a (.returned (some error)))) ∨
      (∃ awaited, attempt.phase = .depending [] awaited ∧
        ((attempt.aborted = true ∧ t = s.setPhase a (.returned (some .aborted))) ∨
          (attempt.aborted = false ∧ t = s.loadResources options a attempt.package)))) := by
  simp only [advance, Option.bind_eq_bind, Option.bind_eq_some_iff] at done
  obtain ⟨attempt, found, done⟩ := done
  refine ⟨attempt, found, ?_⟩
  split at done
  · next dependency rest phase =>
      exact .inl ⟨dependency, rest, phase, (Option.some.inj done).symm⟩
  · next dependency rest l phase =>
      obtain ⟨outcome, settled, done⟩ := Option.bind_eq_some_iff.mp done
      refine .inr (.inl ⟨dependency, rest, l, phase, ?_⟩)
      split at done
      · exact .inl ⟨settled, (Option.some.inj done).symm⟩
      · next error => exact .inr ⟨error, settled, (Option.some.inj done).symm⟩
  · next awaited phase =>
      refine .inr (.inr ⟨awaited, phase, ?_⟩)
      split at done
      · next aborted => exact .inl ⟨aborted, (Option.some.inj done).symm⟩
      · next live => exact .inr ⟨by simpa using live, (Option.some.inj done).symm⟩
  · cases done

theorem gather_ok {a : Nat} (done : s.gather a = some t) :
    ∃ attempt, s.attempts[a]? = some attempt ∧ attempt.phase = .loading ∧
      (∀ resource ∈ s.resources, resource.attempt = a → resource.phase = .finished none) ∧
      t = s.setPhase a (.returned (if attempt.aborted then some .aborted else none)) := by
  simp only [gather, Option.bind_eq_bind, Option.bind_eq_some_iff] at done
  obtain ⟨attempt, found, done⟩ := done
  split at done
  · cases done
  · next loading =>
      split at done
      · next all =>
          refine ⟨attempt, found, not_not.mp loading, ?_, (Option.some.inj done).symm⟩
          intro resource member own
          simpa using List.all_eq_true.mp all resource
            (List.mem_filter.mpr ⟨member, by simpa using own⟩)
      · cases done

theorem gatherFailure_ok {n : Nat} (done : s.gatherFailure n = some t) :
    ∃ resource attempt error, s.resources[n]? = some resource ∧
      s.attempts[resource.attempt]? = some attempt ∧ attempt.phase = .loading ∧
      resource.phase = .finished (some error) ∧
      t = s.setPhase resource.attempt (.returned (some error)) := by
  simp only [gatherFailure, Option.bind_eq_bind, Option.bind_eq_some_iff] at done
  obtain ⟨resource, present, attempt, found, done⟩ := done
  split at done
  · next error loading failed =>
      exact ⟨resource, attempt, error, present, found, loading, failed, (Option.some.inj done).symm⟩
  · cases done

theorem complete_ok {a : Nat} {thrown : Option String} (done : s.complete a thrown = some t) :
    ∃ attempt, s.attempts[a]? = some attempt ∧ attempt.phase = .returned none ∧
      ((attempt.aborted = true ∧ t = s.setPhase a (.returned (some .aborted))) ∨
        (attempt.aborted = false ∧
          t = (s.updateRuntime attempt.package fun runtime =>
            { runtime with ready := some a, state := .ready, progress := 1, error := none }).setPhase a
            (thrown.elim (.handled none) fun message => .returned (some (.other message))))) := by
  simp only [complete, Option.bind_eq_bind, Option.bind_eq_some_iff] at done
  obtain ⟨attempt, found, done⟩ := done
  split at done
  · cases done
  · next returned =>
      refine ⟨attempt, found, not_not.mp returned, ?_⟩
      split at done
      · next aborted => exact .inl ⟨aborted, (Option.some.inj done).symm⟩
      · next live =>
          refine .inr ⟨by simpa using live, ?_⟩
          split at done <;> exact (Option.some.inj done).symm

theorem fail_ok {a : Nat} {thrown : Option String} (done : s.fail a thrown = some t) :
    ∃ attempt cause error outcome, s.attempts[a]? = some attempt ∧
      attempt.phase = .returned (some cause) ∧
      t = (s.updateRuntime attempt.package fun runtime =>
        { runtime with
          state := if error = LoadError.aborted then .cancelled else .failed
          error := some error
          progress := min runtime.progress runningMax }).setPhase a (.handled (some outcome)) := by
  simp only [fail, Option.bind_eq_bind, Option.bind_eq_some_iff] at done
  obtain ⟨attempt, found, done⟩ := done
  split at done
  · next cause returned =>
      exact ⟨attempt, cause, _, _, found, returned, (Option.some.inj done).symm⟩
  · cases done

theorem conclude_ok {a : Nat} (done : s.conclude a = some t) :
    ∃ attempt outcome, s.attempts[a]? = some attempt ∧ attempt.phase = .handled outcome ∧
      t = (s.updateRuntime attempt.package fun runtime =>
        if runtime.inFlight = some a then
          { runtime with inFlight := none, callers := [], cancelWhenUnobserved := false }
        else runtime).setPhase a (.settled outcome) := by
  simp only [conclude, Option.bind_eq_bind, Option.bind_eq_some_iff] at done
  obtain ⟨attempt, found, done⟩ := done
  split at done
  · next outcome handled => exact ⟨attempt, outcome, found, handled, (Option.some.inj done).symm⟩
  · cases done

/-! ## Loads -/

theorem deliver_ok {l : Nat} (done : s.deliver l = some t) :
    ∃ load, s.loads[l]? = some load ∧ load.phase = .waiting ∧
      ((load.attempt = none ∧ t = s.setLoad l (.settled none)) ∨
        ∃ a attempt outcome, load.attempt = some a ∧ s.attempts[a]? = some attempt ∧
          attempt.phase = .settled outcome ∧ t = s.setLoad l (.caught outcome)) := by
  simp only [deliver, Option.bind_eq_bind, Option.bind_eq_some_iff] at done
  obtain ⟨load, found, done⟩ := done
  split at done
  · cases done
  · next waiting =>
      refine ⟨load, found, not_not.mp waiting, ?_⟩
      split at done
      · next ready => exact .inl ⟨ready, (Option.some.inj done).symm⟩
      · next a joined =>
          obtain ⟨attempt, present, done⟩ := Option.bind_eq_some_iff.mp done
          split at done
          · next outcome settled =>
              exact .inr ⟨a, attempt, outcome, joined, present, settled, (Option.some.inj done).symm⟩
          · cases done

/-- The caller leaves; the attempt may be aborted. -/
theorem leave_ok {l : Nat} (done : s.leave l = some t) :
    ∃ load a outcome, s.loads[l]? = some load ∧ load.attempt = some a ∧
      load.phase = .caught outcome ∧
      let left := (s.updateRuntime load.package fun runtime =>
        { runtime with callers := runtime.callers.erase l }).setLoad l (.settled outcome)
      (t = left ∨ (s.attemptAborted a = false ∧ t = left.abortAttempt a)) := by
  simp only [leave, Option.bind_eq_bind, Option.bind_eq_some_iff] at done
  obtain ⟨load, found, done⟩ := done
  split at done
  · next a outcome joined caught =>
      refine ⟨load, a, outcome, found, joined, caught, ?_⟩
      split at done
      · next leaves => exact .inr ⟨leaves.2.2.2.2, (Option.some.inj done).symm⟩
      · exact .inl (Option.some.inj done).symm
  · cases done

/-! ## Resources -/

theorem report_ok {n : Nat} {decoding : Bool} {fraction : ℚ}
    (done : s.report n decoding fraction = some t) :
    ∃ resource attempt, s.resources[n]? = some resource ∧
      s.attempts[resource.attempt]? = some attempt ∧ resource.phase = .holding ∧
      t = s.updateProgress n resource attempt.package
        (if decoding then .decoding else .fetching) fraction := by
  simp only [report, Option.bind_eq_bind, Option.bind_eq_some_iff] at done
  obtain ⟨resource, present, attempt, found, done⟩ := done
  split at done
  · cases done
  · next holding =>
      exact ⟨resource, attempt, present, found, not_not.mp holding, (Option.some.inj done).symm⟩

/-- The state before the permit goes on: the resource is finished, and the progress of the
package may have been written. -/
theorem finish_ok {n : Nat} {outcome : Outcome} (done : s.finish n outcome = some t) :
    ∃ resource attempt before, s.resources[n]? = some resource ∧
      s.attempts[resource.attempt]? = some attempt ∧ resource.phase = .holding ∧
      (before = s ∨
        (attempt.aborted = false ∧
          before = s.updateProgress n resource attempt.package .decoding 1)) ∧
      t = { before with resources := before.resources.modify n fun resource =>
        { resource with phase := .finished outcome } }.releasePermit := by
  simp only [finish, Option.bind_eq_bind, Option.bind_eq_some_iff] at done
  obtain ⟨resource, present, attempt, found, done⟩ := done
  split at done
  · cases done
  · next holding =>
      refine ⟨resource, attempt, ?_⟩
      split at done
      · next error =>
          refine ⟨s, present, found, not_not.mp holding, .inl rfl, ?_⟩
          rw [← Option.some.inj done, modify_eq_set present]
      · split at done
        · cases done
        · next live =>
            exact ⟨_, present, found, not_not.mp holding, .inr ⟨by simpa using live, rfl⟩,
              (Option.some.inj done).symm⟩

end SlotsGame.Assets.Manager
