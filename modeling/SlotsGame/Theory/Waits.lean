/-
# SlotsGame.Theory.Waits -- promises that timers settle, and the jobs that resume from them

An asynchronous program suspends on a promise.  Here a promise is a `Wait`: a timer settles
it, or the program does so early.  Settling it does not resume the program, it appends a job,
and an event loop takes the jobs in the order in which they came.

A callback of a timer may also return without settling its wait; no timer of its own will
settle it any more.  `Waits.Promised` is what a program relies on, that whoever awaits will
be resumed.
-/
import Mathlib.Algebra.Order.Ring.Rat

namespace SlotsGame.Theory

set_option autoImplicit false

variable {Owner : Type}

/-- A promise that has not settled: its timer does not fire before `due`. -/
structure Wait (Owner : Type) where
  owner : Owner
  due : ℚ
  skippable : Bool
  armed : Bool := true
  deriving DecidableEq

structure Waits (Owner : Type) where
  pending : List (Wait Owner) := []
  jobs : List Owner := []
  deriving DecidableEq

namespace Waits

variable (w : Waits Owner) {o owner : Owner} {due : ℚ} {skippable : Bool} {wait : Wait Owner}

/-- A promise that has settled already. -/
def enqueue (owner : Owner) : Waits Owner := { w with jobs := w.jobs ++ [owner] }

def arm (owner : Owner) (due : ℚ) (skippable : Bool) : Waits Owner :=
  { w with pending := w.pending ++ [{ owner := owner, due := due, skippable := skippable }] }

/-- Settles the waits of one owner. -/
def finish [DecidableEq Owner] (owner : Owner) : Waits Owner where
  pending := w.pending.filter fun wait => wait.owner ≠ owner
  jobs := w.jobs ++ (w.pending.filter fun wait => wait.owner = owner).map Wait.owner

/-- Settles the waits that satisfy a test, in the order in which they began. -/
def release (test : Wait Owner → Bool) : Waits Owner where
  pending := w.pending.filter fun wait => !test wait
  jobs := w.jobs ++ (w.pending.filter test).map Wait.owner

/-- The timer of an owner has fired, and its callback did nothing. -/
def spend [DecidableEq Owner] (owner : Owner) : Waits Owner :=
  { w with pending := w.pending.map fun wait =>
      if wait.owner = owner then { wait with armed := false } else wait }

/-- Takes the first job. -/
def take : Option (Owner × Waits Owner) :=
  match w.jobs with
  | [] => none
  | job :: rest => some (job, { w with jobs := rest })

/-- Whoever awaits on behalf of the owner resumes: a job is queued, or a timer is still armed
that queues one.  `relief` says that a further timer is armed which settles what is
skippable. -/
def Promised (relief : Bool) (o : Owner) : Prop :=
  o ∈ w.jobs ∨ ∃ wait ∈ w.pending, wait.owner = o ∧
    (wait.armed = true ∨ (wait.skippable = true ∧ relief = true))

variable {w} {relief : Bool}

@[simp] theorem enqueue_pending : (w.enqueue owner).pending = w.pending := rfl

@[simp] theorem enqueue_jobs : (w.enqueue owner).jobs = w.jobs ++ [owner] := rfl

@[simp] theorem arm_jobs : (w.arm owner due skippable).jobs = w.jobs := rfl

/-- A wait that is left after a release was there before, and failed the test. -/
theorem mem_release {test : Wait Owner → Bool} :
    wait ∈ (w.release test).pending ↔ wait ∈ w.pending ∧ test wait = false := by
  simp [release]

theorem mem_arm : wait ∈ (w.arm owner due skippable).pending ↔
    wait ∈ w.pending ∨ wait = { owner := owner, due := due, skippable := skippable } := by
  simp [arm]

/-- A wait after a timer fired in vain is a wait from before, up to its timer. -/
theorem mem_spend [DecidableEq Owner] : wait ∈ (w.spend owner).pending ↔
    (∃ old ∈ w.pending, old.owner = owner ∧ wait = { old with armed := false }) ∨
      (wait ∈ w.pending ∧ wait.owner ≠ owner) := by
  simp only [spend, List.mem_map]
  constructor
  · rintro ⟨old, member, same⟩
    split at same
    next here => exact .inl ⟨old, member, here, same.symm⟩
    next away => exact .inr ⟨same ▸ member, same ▸ away⟩
  · rintro (⟨old, member, here, same⟩ | ⟨member, away⟩)
    · exact ⟨old, member, by rw [if_pos here, same]⟩
    · exact ⟨wait, member, if_neg away⟩

theorem finish_eq_release [DecidableEq Owner] :
    w.finish owner = w.release fun wait => wait.owner = owner := by
  simp [finish, release]

theorem take_eq_some {rest : Waits Owner} (taken : w.take = some (owner, rest)) :
    w.jobs = owner :: rest.jobs ∧ rest.pending = w.pending := by
  unfold take at taken
  split at taken
  case h_1 => cases taken
  case h_2 job others jobs =>
    obtain ⟨rfl, rfl⟩ := Prod.mk.inj (Option.some.inj taken)
    exact ⟨jobs, rfl⟩

/-! ## What keeps a promise -/

theorem promised_enqueue : (w.enqueue o).Promised relief o := by
  left
  simp

theorem promised_arm : (w.arm o due skippable).Promised relief o :=
  .inr ⟨_, mem_arm.mpr (.inr rfl), rfl, .inl rfl⟩

theorem Promised.enqueue (promised : w.Promised relief o) : (w.enqueue owner).Promised relief o := by
  rcases promised with job | pending
  · exact .inl (List.mem_append_left _ job)
  · exact .inr pending

theorem Promised.arm (promised : w.Promised relief o) :
    (w.arm owner due skippable).Promised relief o := by
  rcases promised with job | ⟨wait, member, kept⟩
  · exact .inl job
  · exact .inr ⟨wait, mem_arm.mpr (.inl member), kept⟩

theorem Promised.release {test : Wait Owner → Bool} (promised : w.Promised relief o) :
    (w.release test).Promised relief o := by
  rcases promised with job | ⟨wait, member, same, kept⟩
  · exact .inl (List.mem_append_left _ job)
  · cases tested : test wait with
    | true =>
        left
        apply List.mem_append_right
        exact List.mem_map.mpr ⟨wait, List.mem_filter.mpr ⟨member, tested⟩, same⟩
    | false => exact .inr ⟨wait, mem_release.mpr ⟨member, tested⟩, same, kept⟩

theorem Promised.finish [DecidableEq Owner] (promised : w.Promised relief o) :
    (w.finish owner).Promised relief o := by
  rw [finish_eq_release]
  exact promised.release

theorem Promised.with_relief (promised : w.Promised relief o) : w.Promised true o := by
  rcases promised with job | ⟨wait, member, same, armed | ⟨skippable, _⟩⟩
  · exact .inl job
  · exact .inr ⟨wait, member, same, .inl armed⟩
  · exact .inr ⟨wait, member, same, .inr ⟨skippable, rfl⟩⟩

/-- A timer that fires in vain breaks no promise while there is relief. -/
theorem Promised.spend [DecidableEq Owner] (promised : w.Promised true o)
    (skips : ∀ wait ∈ w.pending, wait.owner = owner → wait.skippable = true) :
    (w.spend owner).Promised true o := by
  rcases promised with job | ⟨wait, member, same, kept⟩
  · exact .inl job
  · by_cases here : wait.owner = owner
    · refine .inr ⟨_, mem_spend.mpr (.inl ⟨wait, member, here, rfl⟩), same, .inr ⟨?_, rfl⟩⟩
      exact skips wait member here
    · exact .inr ⟨wait, mem_spend.mpr (.inr ⟨member, here⟩), same, kept⟩

/-- Relief is not needed once everything skippable is settled. -/
theorem Promised.relieved {test : Wait Owner → Bool} (promised : w.Promised relief o)
    (covers : ∀ wait ∈ w.pending, wait.skippable = true → test wait = true) (later : Bool) :
    (w.release test).Promised later o := by
  rcases promised with job | ⟨wait, member, same, kept⟩
  · exact .inl (List.mem_append_left _ job)
  · cases tested : test wait with
    | true =>
        left
        apply List.mem_append_right
        exact List.mem_map.mpr ⟨wait, List.mem_filter.mpr ⟨member, tested⟩, same⟩
    | false =>
        refine .inr ⟨wait, mem_release.mpr ⟨member, tested⟩, same, .inl ?_⟩
        rcases kept with armed | ⟨skippable, _⟩
        · exact armed
        · rw [covers wait member skippable] at tested
          cases tested

/-- Nor is it needed for an owner whose waits are not skippable, or are armed. -/
theorem Promised.unrelieved (promised : w.Promised relief o)
    (steady : ∀ wait ∈ w.pending, wait.owner = o → wait.skippable = true → wait.armed = true)
    (later : Bool) : w.Promised later o := by
  rcases promised with job | ⟨wait, member, same, kept⟩
  · exact .inl job
  · refine .inr ⟨wait, member, same, .inl ?_⟩
    rcases kept with armed | ⟨skippable, _⟩
    · exact armed
    · exact steady wait member same skippable

/-- Taking a job keeps every promise but that to its owner. -/
theorem Promised.take {rest : Waits Owner} (promised : w.Promised relief o)
    (taken : w.take = some (owner, rest)) (other : o ≠ owner) : rest.Promised relief o := by
  obtain ⟨jobs, pending⟩ := take_eq_some taken
  rcases promised with member | kept
  · rw [jobs] at member
    rcases List.mem_cons.mp member with same | later
    · exact absurd same other
    · exact .inl later
  · exact .inr (pending ▸ kept)

/-- A promise is kept sooner or later: not every timer and every job is gone. -/
theorem Promised.unsettled (promised : w.Promised false o) (drained : w.jobs = []) :
    ∃ wait ∈ w.pending, wait.armed = true := by
  rcases promised with job | ⟨wait, member, _, armed | ⟨_, relief⟩⟩
  · rw [drained] at job
    cases job
  · exact ⟨wait, member, armed⟩
  · cases relief

end Waits

end SlotsGame.Theory
