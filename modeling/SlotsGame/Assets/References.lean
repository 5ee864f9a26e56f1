/-
# SlotsGame.Assets.References -- the reference counts of the packages

`References options s` says what the two counts of a package are: `pendingReferences`
the unsettled acquisitions whose closure holds it, `activeReferences` the unreleased
leases; and that the packages so referenced fit the ceiling.  Only the begin and the
end of an acquisition and the release of a lease move a count; every other operation
stands aside (`Aside`).
-/
import Mathlib.Algebra.Order.BigOperators.Group.List
import Mathlib.Algebra.Order.Group.Nat
import SlotsGame.Assets.Steps
import SlotsGame.Theory.Counting

namespace SlotsGame.Assets

open SlotsGame.Theory

set_option autoImplicit false

def Acquisition.unsettled (acquisition : Acquisition) : Bool :=
  match acquisition.phase with
  | .pending _ => true
  | _ => false

def Acquisition.unreleased (acquisition : Acquisition) : Bool := acquisition.phase = .leased

namespace Manager

/-- How many acquisitions that pass a test hold a package. -/
def owners (s : Manager) (test : Acquisition → Bool) (id : String) : Nat :=
  s.acquisitions.countP fun acquisition => test acquisition && decide (id ∈ acquisition.packageIds)

structure References (options : Options) (s : Manager) : Prop where
  pending : ∀ id, (s.runtimes id).pendingReferences = s.owners Acquisition.unsettled id
  active : ∀ id, (s.runtimes id).activeReferences = s.owners Acquisition.unreleased id
  closures : ∀ acquisition ∈ s.acquisitions,
    acquisition.targetIds ⊆ options.manifest.dependencyOrder ∧
      acquisition.packageIds = options.manifest.dependencyClosureIds acquisition.targetIds
  retained : ∀ limit, options.maxRetainedBytes = some limit →
    s.retainedPayloadBytes options ≤ limit

variable {options : Options} {s t u : Manager}

/-! ## Operations that stand aside -/

/-- No count and no acquisition is written. -/
structure Aside (s t : Manager) : Prop where
  pending : ∀ id, (t.runtimes id).pendingReferences = (s.runtimes id).pendingReferences
  active : ∀ id, (t.runtimes id).activeReferences = (s.runtimes id).activeReferences
  acquisitions : t.acquisitions = s.acquisitions

theorem Aside.refl (s : Manager) : Aside s s := ⟨fun _ => rfl, fun _ => rfl, rfl⟩

theorem Aside.trans (first : Aside s t) (second : Aside t u) : Aside s u :=
  ⟨fun id => (second.pending id).trans (first.pending id),
    fun id => (second.active id).trans (first.active id),
    second.acquisitions.trans first.acquisitions⟩

theorem updateRuntime_aside (id : String) {change : PackageRuntime → PackageRuntime}
    (pending : ∀ runtime, (change runtime).pendingReferences = runtime.pendingReferences)
    (active : ∀ runtime, (change runtime).activeReferences = runtime.activeReferences) :
    Aside s (s.updateRuntime id change) := by
  refine ⟨fun other => ?_, fun other => ?_, rfl⟩
  · rw [updateRuntime_apply]
    split
    · next same => rw [pending, same]
    · rfl
  · rw [updateRuntime_apply]
    split
    · next same => rw [active, same]
    · rfl

theorem setPhase_aside (a : Nat) (phase : AttemptPhase) : Aside s (s.setPhase a phase) :=
  ⟨fun _ => rfl, fun _ => rfl, rfl⟩

theorem setLoad_aside (l : Nat) (phase : LoadPhase) : Aside s (s.setLoad l phase) :=
  ⟨fun _ => rfl, fun _ => rfl, rfl⟩

theorem abortAttempt_aside (a : Nat) : Aside s (s.abortAttempt a) :=
  ⟨fun _ => rfl, fun _ => rfl, rfl⟩

theorem pushLoad_aside (load : Load) : Aside s (s.pushLoad load) :=
  ⟨fun _ => rfl, fun _ => rfl, rfl⟩

theorem joinInFlight_aside (id : String) (a : Nat) (signal : Option AbortSignal) :
    Aside s (s.joinInFlight id a signal) :=
  (updateRuntime_aside id (by intro; rfl) (by intro; rfl)).trans (pushLoad_aside _)

theorem startLoad_aside (id : String) (signal : Option AbortSignal) :
    Aside s (s.startLoad options id signal) := by
  refine Aside.trans ?_ (joinInFlight_aside _ _ _)
  refine Aside.trans ?_ (updateRuntime_aside id (by intro; rfl) (by intro; rfl))
  exact ⟨fun _ => rfl, fun _ => rfl, rfl⟩

theorem load_aside (id : String) (signal : Option AbortSignal) :
    Aside s (s.load options id signal) := by
  rcases load_cases id signal with ⟨_, same⟩ | ⟨a, _, _, _, same⟩ | ⟨_, _, same⟩
  · rw [same]
    exact pushLoad_aside _
  · rw [same]
    exact joinInFlight_aside id a signal
  · rw [same]
    exact startLoad_aside id signal

theorem acquirePermit_aside (limit a bytes : Nat) : Aside s (acquirePermit limit a s bytes) := by
  unfold acquirePermit
  split <;> exact ⟨fun _ => rfl, fun _ => rfl, rfl⟩

theorem loadResources_aside (a : Nat) (id : String) :
    Aside s (s.loadResources options a id) := by
  have fold : ∀ (sizes : List Nat) (u : Manager), Aside s u →
      Aside s (sizes.foldl (acquirePermit options.concurrency a) u) := by
    intro sizes
    induction sizes with
    | nil => intro u aside; exact aside
    | cons bytes rest ih => intro u aside; exact ih _ (aside.trans (acquirePermit_aside _ a bytes))
  exact fold _ _ ((updateRuntime_aside id (by intro; rfl) (by intro; rfl)).trans (setPhase_aside a _))

theorem releasePermit_aside : Aside s s.releasePermit := by
  unfold releasePermit
  split <;> exact ⟨fun _ => rfl, fun _ => rfl, rfl⟩

theorem updateProgress_aside (n : Nat) (resource : ResourceLoad) (package : String)
    (state : AssetPackageState) (fraction : ℚ) :
    Aside s (s.updateProgress n resource package state fraction) := by
  unfold updateProgress
  refine Aside.trans ?_ (updateRuntime_aside package (by intro; rfl) (by intro; rfl))
  exact ⟨fun _ => rfl, fun _ => rfl, rfl⟩

theorem advance_aside {a : Nat} (done : s.advance options a = some t) : Aside s t := by
  obtain ⟨attempt, _, starts | reads | ends⟩ := advance_ok done
  · obtain ⟨dependency, rest, _, rfl⟩ := starts
    exact (load_aside dependency _).trans (setPhase_aside a _)
  · obtain ⟨dependency, rest, l, _, ⟨_, rfl⟩ | ⟨error, _, rfl⟩⟩ := reads
    · exact setPhase_aside a _
    · exact setPhase_aside a _
  · obtain ⟨awaited, _, ⟨_, rfl⟩ | ⟨_, rfl⟩⟩ := ends
    · exact setPhase_aside a _
    · exact loadResources_aside a attempt.package

theorem gather_aside {a : Nat} (done : s.gather a = some t) : Aside s t := by
  obtain ⟨_, _, _, _, rfl⟩ := gather_ok done
  exact setPhase_aside a _

theorem gatherFailure_aside {n : Nat} (done : s.gatherFailure n = some t) : Aside s t := by
  obtain ⟨resource, _, _, _, _, _, _, rfl⟩ := gatherFailure_ok done
  exact setPhase_aside resource.attempt _

theorem complete_aside {a : Nat} {thrown : Option String} (done : s.complete a thrown = some t) :
    Aside s t := by
  obtain ⟨attempt, _, _, ⟨_, rfl⟩ | ⟨_, rfl⟩⟩ := complete_ok done
  · exact setPhase_aside a _
  · exact (updateRuntime_aside attempt.package (by intro; rfl) (by intro; rfl)).trans (setPhase_aside a _)

theorem fail_aside {a : Nat} {thrown : Option String} (done : s.fail a thrown = some t) :
    Aside s t := by
  obtain ⟨attempt, _, _, _, _, _, rfl⟩ := fail_ok done
  exact (updateRuntime_aside attempt.package (by intro; rfl) (by intro; rfl)).trans (setPhase_aside a _)

theorem conclude_aside {a : Nat} (done : s.conclude a = some t) : Aside s t := by
  obtain ⟨attempt, _, _, _, rfl⟩ := conclude_ok done
  refine (updateRuntime_aside attempt.package ?_ ?_).trans (setPhase_aside a _)
  · intro runtime
    split <;> rfl
  · intro runtime
    split <;> rfl

theorem deliver_aside {l : Nat} (done : s.deliver l = some t) : Aside s t := by
  obtain ⟨_, _, _, ⟨_, rfl⟩ | ⟨_, _, _, _, _, _, rfl⟩⟩ := deliver_ok done
  · exact setLoad_aside l _
  · exact setLoad_aside l _

theorem leave_aside {l : Nat} (done : s.leave l = some t) : Aside s t := by
  obtain ⟨load, a, _, _, _, _, rfl | ⟨_, rfl⟩⟩ := leave_ok done
  · exact (updateRuntime_aside load.package (by intro; rfl) (by intro; rfl)).trans (setLoad_aside l _)
  · exact ((updateRuntime_aside load.package (by intro; rfl) (by intro; rfl)).trans
      (setLoad_aside l _)).trans (abortAttempt_aside a)

theorem report_aside {n : Nat} {decoding : Bool} {fraction : ℚ}
    (done : s.report n decoding fraction = some t) : Aside s t := by
  obtain ⟨resource, attempt, _, _, _, rfl⟩ := report_ok done
  exact updateProgress_aside n resource attempt.package _ fraction

theorem finish_aside {n : Nat} {outcome : Outcome} (done : s.finish n outcome = some t) :
    Aside s t := by
  obtain ⟨resource, attempt, before, _, _, _, written, rfl⟩ := finish_ok done
  refine Aside.trans ?_ releasePermit_aside
  suffices aside : Aside s before from aside.trans ⟨fun _ => rfl, fun _ => rfl, rfl⟩
  rcases written with rfl | ⟨_, rfl⟩
  · exact .refl _
  · exact updateProgress_aside n resource attempt.package _ 1

/-! ## The counts -/

theorem owners_pos {test : Acquisition → Bool} {id : String} :
    0 < s.owners test id ↔
      ∃ acquisition ∈ s.acquisitions, test acquisition = true ∧ id ∈ acquisition.packageIds := by
  simp [owners, List.countP_pos_iff]

/-- What a rewritten acquisition adds to a count, and what it takes from it. -/
theorem owners_set {q : Nat} {old new : Acquisition} (found : s.acquisitions[q]? = some old)
    (test : Acquisition → Bool) (id : String) :
    (s.setAcquisition q new).owners test id +
        (if test old && decide (id ∈ old.packageIds) then 1 else 0) =
      s.owners test id + (if test new && decide (id ∈ new.packageIds) then 1 else 0) :=
  countP_set_add _ new found

theorem referenced_iff {id : String} :
    s.referenced id = true ↔
      0 < (s.runtimes id).pendingReferences ∨ 0 < (s.runtimes id).activeReferences := by
  simp [referenced]

/-- Fewer packages, fewer bytes. -/
theorem retained_le (fewer : ∀ id, t.referenced id = true → s.referenced id = true) :
    t.retainedPayloadBytes options ≤ s.retainedPayloadBytes options := by
  have sub : (options.manifest.dependencyOrder.filter t.referenced).Sublist
      (options.manifest.dependencyOrder.filter s.referenced) :=
    List.monotone_filter_right _ fewer
  exact (sub.map _).sum_le_sum fun _ _ => Nat.zero_le _

@[simp] theorem evictIfUnowned_pending (runtime : PackageRuntime) :
    (evictIfUnowned runtime).pendingReferences = runtime.pendingReferences := by
  unfold evictIfUnowned
  split <;> rfl

@[simp] theorem evictIfUnowned_active (runtime : PackageRuntime) :
    (evictIfUnowned runtime).activeReferences = runtime.activeReferences := by
  unfold evictIfUnowned
  split <;> rfl

@[simp] theorem rollbackOne_pending (runtime : PackageRuntime) :
    (rollbackOne runtime).pendingReferences = runtime.pendingReferences - 1 := by
  simp only [rollbackOne]
  split <;> simp

@[simp] theorem rollbackOne_active (runtime : PackageRuntime) :
    (rollbackOne runtime).activeReferences = runtime.activeReferences := by
  simp only [rollbackOne]
  split <;> simp

@[simp] theorem releaseOne_pending (runtime : PackageRuntime) :
    (releaseOne runtime).pendingReferences = runtime.pendingReferences := by
  simp [releaseOne]

@[simp] theorem releaseOne_active (runtime : PackageRuntime) :
    (releaseOne runtime).activeReferences = runtime.activeReferences - 1 := by
  simp [releaseOne]

/-- The packages of an unreleased lease have a positive count. -/
theorem References.active_pos (sound : References options s) {acquisition : Acquisition}
    (member : acquisition ∈ s.acquisitions) (leased : acquisition.phase = .leased) :
    ∀ id ∈ acquisition.packageIds, 0 < (s.runtimes id).activeReferences := by
  intro id holds
  rw [sound.active id, owners_pos]
  exact ⟨acquisition, member, by simp [Acquisition.unreleased, leased], holds⟩

theorem References.nodup (sound : References options s) {acquisition : Acquisition}
    (member : acquisition ∈ s.acquisitions) : acquisition.packageIds.Nodup := by
  rw [(sound.closures acquisition member).2]
  exact options.manifest.dependencyClosureIds_nodup _

theorem rollback_eq (sound : References options s) {q : Nat} {acquisition : Acquisition}
    (found : s.acquisitions[q]? = some acquisition) :
    s.rollback q acquisition =
      { s with
        runtimes := fun id =>
          if id ∈ acquisition.packageIds then rollbackOne (s.runtimes id) else s.runtimes id
        acquisitions := s.acquisitions.set q { acquisition with phase := .failed } } := by
  have reversed := List.nodup_reverse.mpr (sound.nodup (List.mem_of_getElem? found))
  rw [rollback, rollbackPendingReferences, forEach_eq _ reversed]
  simp [setAcquisition]

theorem activate_eq (sound : References options s) {q : Nat} {acquisition new : Acquisition}
    (found : s.acquisitions[q]? = some acquisition) :
    (s.activateReferences acquisition.packageIds).setAcquisition q new =
      { s with
        runtimes := fun id =>
          if id ∈ acquisition.packageIds then
            { s.runtimes id with
              pendingReferences := (s.runtimes id).pendingReferences - 1
              activeReferences := (s.runtimes id).activeReferences + 1 }
          else s.runtimes id
        acquisitions := s.acquisitions.set q new } := by
  rw [activateReferences, forEach_eq _ (sound.nodup (List.mem_of_getElem? found))]
  rfl

/-- A lease is released once, and no count underflows. -/
theorem release_cases (sound : References options s) {q : Nat} {reply : Except String Bool}
    (done : s.release q = some (t, reply)) :
    ∃ acquisition, s.acquisitions[q]? = some acquisition ∧
      ((acquisition.phase = .leased ∧ reply = .ok true ∧
        t = { s with
          runtimes := fun id =>
            if id ∈ acquisition.packageIds then releaseOne (s.runtimes id) else s.runtimes id
          acquisitions := s.acquisitions.set q { acquisition with phase := .released } }) ∨
        (acquisition.phase = .released ∧ t = s ∧ reply = .ok false)) := by
  obtain ⟨acquisition, found, ⟨leased, underflow, released, answer⟩ | ended⟩ := release_ok done
  · refine ⟨acquisition, found, .inl ⟨leased, ?_⟩⟩
    have member := List.mem_of_getElem? found
    rw [releaseReferences_eq (sound.nodup member)] at released
    · obtain ⟨rfl, rfl⟩ := Prod.mk.inj released
      exact ⟨answer, rfl⟩
    · exact sound.active_pos member leased
  · exact ⟨acquisition, found, .inr ended⟩

/-! ## Preservation -/

theorem References.initial : References options Manager.initial where
  pending := fun _ => rfl
  active := fun _ => rfl
  closures := fun _ member => by cases member
  retained := fun limit _ => by
    have none : options.manifest.dependencyOrder.filter Manager.initial.referenced = [] :=
      List.filter_eq_nil_iff.mpr fun _ _ => by simp [referenced, Manager.initial]
    simp [retainedPayloadBytes, none]

theorem References.aside (sound : References options s) (aside : Aside s t) :
    References options t where
  pending := fun id => by
    rw [aside.pending, sound.pending, owners, owners, aside.acquisitions]
  active := fun id => by
    rw [aside.active, sound.active, owners, owners, aside.acquisitions]
  closures := fun acquisition member => sound.closures acquisition (aside.acquisitions ▸ member)
  retained := fun limit set => by
    refine Nat.le_trans (retained_le fun id holds => ?_) (sound.retained limit set)
    rw [referenced_iff, aside.pending, aside.active] at holds
    exact referenced_iff.mpr holds

/-- An acquisition is rewritten, and its closure kept. -/
theorem References.closures_set (sound : References options s) {q : Nat}
    {old new : Acquisition} (found : s.acquisitions[q]? = some old)
    (targets : new.targetIds = old.targetIds) (ids : new.packageIds = old.packageIds) :
    ∀ acquisition ∈ s.acquisitions.set q new,
      acquisition.targetIds ⊆ options.manifest.dependencyOrder ∧
        acquisition.packageIds = options.manifest.dependencyClosureIds acquisition.targetIds := by
  intro acquisition member
  rcases List.mem_or_eq_of_mem_set member with there | rfl
  · exact sound.closures acquisition there
  · rw [targets, ids]
    exact sound.closures old (List.mem_of_getElem? found)

theorem References.begin (sound : References options s) {targetIds : List String} {staged : Bool}
    {signal : Option Nat} (known : targetIds ⊆ options.manifest.dependencyOrder)
    (done : s.beginAcquisition options targetIds staged signal = some t) : References options t := by
  obtain ⟨fits, rfl⟩ := beginAcquisition_ok done
  refine ⟨fun id => ?_, fun id => ?_, ?_, ?_⟩
  · have before := sound.pending id
    simp only [owners, countP_push] at before ⊢
    by_cases member : id ∈ options.manifest.dependencyClosureIds targetIds
    · simp [member, before, Acquisition.unsettled]
    · simp [member, before, Acquisition.unsettled]
  · have before := sound.active id
    simp only [owners, countP_push] at before ⊢
    by_cases member : id ∈ options.manifest.dependencyClosureIds targetIds
    · simp [member, before, Acquisition.unreleased]
    · simp [member, before, Acquisition.unreleased]
  · intro acquisition member
    rcases List.mem_append.mp member with old | new
    · exact sound.closures acquisition old
    · obtain rfl := List.mem_singleton.mp new
      exact ⟨known, rfl⟩
  · intro limit set
    refine Nat.le_trans (Nat.le_of_eq ?_) (fits limit set)
    -- The same packages, in another order.
    refine (List.Perm.map _ ?_).sum_eq
    have distinct := options.manifest.distinct
    have ids := options.manifest.dependencyClosureIds_nodup targetIds
    rw [List.perm_ext_iff_of_nodup (distinct.filter _) ?_]
    · intro id
      have within := @ValidatedManifest.dependencyClosureIds_subset options.manifest targetIds id
      simp only [List.mem_filter, List.mem_append, referenced_iff, Bool.and_eq_true,
        decide_eq_true_eq]
      by_cases member : id ∈ options.manifest.dependencyClosureIds targetIds
      · simp [member, within member]
      · simp [member]
    · rw [List.nodup_append]
      refine ⟨ids, distinct.filter _, ?_⟩
      rintro id member other later rfl
      simp [member] at later

theorem References.loadTarget (sound : References options s) {q : Nat}
    (done : s.loadTarget options q = some t) : References options t := by
  obtain ⟨acquisition, target, targets, found, phase, rfl⟩ := loadTarget_ok done
  have aside := @load_aside options s target (acquisition.signal.map .application)
  have moved := sound.aside aside
  have found' : (s.load options target
      (acquisition.signal.map .application)).acquisitions[q]? = some acquisition := by
    rw [aside.acquisitions, found]
  refine ⟨fun id => ?_, fun id => ?_, moved.closures_set found' rfl rfl, moved.retained⟩
  · have counted := @owners_set (s.load options target _) q acquisition
      { acquisition with
        loads := acquisition.loads ++ [s.loads.length]
        phase := .pending targets } found' Acquisition.unsettled id
    simp only [Acquisition.unsettled, phase, Bool.true_and] at counted
    exact (moved.pending id).trans (Nat.add_right_cancel counted).symm
  · have counted := @owners_set (s.load options target _) q acquisition
      { acquisition with
        loads := acquisition.loads ++ [s.loads.length]
        phase := .pending targets } found' Acquisition.unreleased id
    simp only [Acquisition.unreleased, phase, reduceCtorEq, decide_false, Bool.false_and,
      Bool.false_eq_true, if_false] at counted
    exact (moved.active id).trans counted.symm

theorem References.rolledBack (sound : References options s) {q : Nat} {acquisition : Acquisition}
    (found : s.acquisitions[q]? = some acquisition) (phase : acquisition.phase = .pending []) :
    References options (s.rollback q acquisition) := by
  have counted := fun test id =>
    @owners_set s q acquisition { acquisition with phase := .failed } found test id
  rw [rollback_eq sound found]
  refine ⟨fun id => ?_, fun id => ?_, sound.closures_set found rfl rfl, ?_⟩
  · have here := counted Acquisition.unsettled id
    have before := sound.pending id
    simp only [Acquisition.unsettled, phase, Bool.true_and, Bool.false_and, Bool.false_eq_true,
      if_false, decide_eq_true_eq, owners, setAcquisition] at here before ⊢
    split
    · next member =>
        rw [if_pos member] at here
        rw [rollbackOne_pending, before]
        omega
    · next absent =>
        rw [if_neg absent] at here
        omega
  · have here := counted Acquisition.unreleased id
    have before := sound.active id
    simp only [Acquisition.unreleased, phase, reduceCtorEq, decide_false, Bool.false_and,
      Bool.false_eq_true, if_false, owners, setAcquisition] at here before ⊢
    split
    · rw [rollbackOne_active, before]
      omega
    · omega
  · intro limit set
    refine Nat.le_trans (retained_le fun id holds => ?_) (sound.retained limit set)
    rw [referenced_iff] at holds ⊢
    simp only at holds
    split at holds
    · rw [rollbackOne_pending, rollbackOne_active] at holds
      omega
    · exact holds

theorem References.leased (sound : References options s) {q : Nat} {acquisition : Acquisition}
    (found : s.acquisitions[q]? = some acquisition) (phase : acquisition.phase = .pending []) :
    References options ((s.activateReferences acquisition.packageIds).setAcquisition q
      { acquisition with phase := .leased }) := by
  have counted := fun test id =>
    @owners_set s q acquisition { acquisition with phase := .leased } found test id
  rw [activate_eq sound found]
  refine ⟨fun id => ?_, fun id => ?_, sound.closures_set found rfl rfl, ?_⟩
  · have here := counted Acquisition.unsettled id
    have before := sound.pending id
    simp only [Acquisition.unsettled, phase, Bool.true_and, Bool.false_and, Bool.false_eq_true,
      if_false, decide_eq_true_eq, owners, setAcquisition] at here before ⊢
    split
    · next member =>
        rw [if_pos member] at here
        simp only
        omega
    · next absent =>
        rw [if_neg absent] at here
        omega
  · have here := counted Acquisition.unreleased id
    have before := sound.active id
    simp only [Acquisition.unreleased, phase, reduceCtorEq, decide_false, Bool.false_and,
      Bool.false_eq_true, if_false, decide_true, Bool.true_and, decide_eq_true_eq, owners,
      setAcquisition] at here before ⊢
    split
    · next member =>
        rw [if_pos member] at here
        simp only
        omega
    · next absent =>
        rw [if_neg absent] at here
        omega
  · intro limit set
    refine Nat.le_trans (retained_le fun id holds => ?_) (sound.retained limit set)
    have before := sound.pending id
    rw [referenced_iff] at holds ⊢
    simp only at holds
    split at holds
    · next member =>
        refine .inl ?_
        rw [before, owners_pos]
        exact ⟨acquisition, List.mem_of_getElem? found, by simp [Acquisition.unsettled, phase],
          member⟩
    · exact holds

theorem References.released (sound : References options s) {q : Nat} {reply : Except String Bool}
    (done : s.release q = some (t, reply)) : References options t := by
  obtain ⟨acquisition, found, ⟨phase, _, rfl⟩ | ⟨_, rfl, _⟩⟩ := release_cases sound done
  · have counted := fun test id =>
      @owners_set s q acquisition { acquisition with phase := .released } found test id
    refine ⟨fun id => ?_, fun id => ?_, sound.closures_set found rfl rfl, ?_⟩
    · have here := counted Acquisition.unsettled id
      have before := sound.pending id
      simp only [Acquisition.unsettled, phase, Bool.false_and, Bool.false_eq_true, if_false, owners,
        setAcquisition] at here before ⊢
      split
      · rw [releaseOne_pending, before]
        omega
      · omega
    · have here := counted Acquisition.unreleased id
      have before := sound.active id
      simp only [Acquisition.unreleased, phase, reduceCtorEq, decide_false, Bool.false_and,
        Bool.false_eq_true, if_false, decide_true, Bool.true_and, decide_eq_true_eq, owners,
        setAcquisition] at here before ⊢
      split
      · next member =>
          rw [if_pos member] at here
          rw [releaseOne_active, before]
          omega
      · next absent =>
          rw [if_neg absent] at here
          omega
    · intro limit set
      refine Nat.le_trans (retained_le fun id holds => ?_) (sound.retained limit set)
      rw [referenced_iff] at holds ⊢
      simp only at holds
      split at holds
      · rw [releaseOne_pending, releaseOne_active] at holds
        omega
      · exact holds
  · exact sound

/-- Every step keeps the accounts. -/
theorem References.step (sound : References options s) {action : Action}
    (done : s.step options action = some t) : References options t := by
  cases action with
  | acquire id signal =>
      obtain ⟨known, done⟩ := acquire_ok done
      exact sound.begin known done
  | acquireStage stage signal =>
      obtain ⟨targetIds, known, done⟩ := acquireStage_ok done
      exact sound.begin known done
  | loadTarget q => exact sound.loadTarget done
  | settleAcquisition q =>
      obtain ⟨acquisition, found, phase, ⟨_, rfl⟩ | ⟨_, _, rfl⟩⟩ := settleAcquisition_ok done
      · exact sound.rolledBack found phase
      · exact sound.leased found phase
  | release q =>
      obtain ⟨⟨after, reply⟩, released, rfl⟩ := Option.map_eq_some_iff.mp done
      exact sound.released released
  | abort signal =>
      obtain rfl := Option.some.inj done
      exact sound.aside ⟨fun _ => rfl, fun _ => rfl, rfl⟩
  | advance a => exact sound.aside (advance_aside done)
  | gather a => exact sound.aside (gather_aside done)
  | gatherFailure n => exact sound.aside (gatherFailure_aside done)
  | complete a thrown => exact sound.aside (complete_aside done)
  | fail a thrown => exact sound.aside (fail_aside done)
  | conclude a => exact sound.aside (conclude_aside done)
  | deliver l => exact sound.aside (deliver_aside done)
  | leave l => exact sound.aside (leave_aside done)
  | report n decoding fraction => exact sound.aside (report_aside done)
  | finish n outcome => exact sound.aside (finish_aside done)

end Manager

end SlotsGame.Assets
