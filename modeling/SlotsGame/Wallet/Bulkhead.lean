/-
# SlotsGame.Wallet.Bulkhead -- what the calls of an isolated wallet hold

A channel holds one token for each call between its `tryAcquire` and its `release`,
and a breaker one unsettled permit for each call between its grant and its
settlement.  `Turn` says how one operation of a call moves both sides of these two
balances, and `Balanced` is what every run keeps.
-/
import Mathlib.Data.List.Induction
import SlotsGame.Wallet.Isolation

namespace SlotsGame.Wallet

open SlotsGame.Rgs SlotsGame.Theory

set_option autoImplicit false

/-! ## The permits of a breaker -/

namespace Circuit

variable {circuit : Circuit} {id permit : Nat} {issued : Issued}

/-- One while the permit is handed out and not settled. -/
def unsettled (circuit : Circuit) (permit : Nat) : Nat :=
  match circuit.permits[permit]? with
  | some issued => if issued.once = 0 then 1 else 0
  | none => 0

/-- What the permit was completed with. -/
def verdict (circuit : Circuit) (permit : Nat) : Option Bool :=
  (circuit.permits[permit]?).bind Issued.verdict

@[simp] theorem become_permits (circuit : Circuit) (breaker : CircuitBreaker) :
    (circuit.become breaker).permits = circuit.permits := by
  unfold become
  split <;> rfl

/-- An acquire hands out the next permit, or none. -/
theorem acquire_permits (circuit : Circuit) (now : Time) :
    ((circuit.acquire now).1 = none ∧ (circuit.acquire now).2.permits = circuit.permits) ∨
      ∃ issued, (circuit.acquire now).1 = some circuit.permits.length ∧
        (circuit.acquire now).2.permits = circuit.permits ++ [issued] ∧ issued.once = 0 ∧
        issued.verdict = none := by
  cases reply : (circuit.breaker.acquire now).1 with
  | none =>
      left
      simp [acquire, reply]
  | some granted =>
      right
      refine ⟨{ permit := granted, once := 0, verdict := none
                epoch := (circuit.become (circuit.breaker.acquire now).2).epoch }, ?_, ?_, rfl, rfl⟩
      · simp [acquire, reply]
      · simp [acquire, reply]

theorem complete_permits (present : circuit.permits[id]? = some issued) (first : issued.once = 0)
    (success : Bool) (now : Time) :
    (circuit.complete id success now).permits =
      circuit.permits.set id { issued with once := 1, verdict := some success } := by
  rw [complete, settle_some present first, become_permits]
  have settled : ∀ other : Circuit,
      (if issued.epoch = other.epoch then { other with outcomes := success :: other.outcomes }
        else other).permits = other.permits := by
    intro other
    split <;> rfl
  rw [settled, mark, first]

theorem cancel_permits (present : circuit.permits[id]? = some issued) (first : issued.once = 0) :
    (circuit.cancel id).permits = circuit.permits.set id { issued with once := 1, verdict := none } := by
  rw [cancel, settle_some present first, become_permits, mark, first]

theorem unsettled_eq_one (held : circuit.unsettled permit ≠ 0) :
    ∃ issued, circuit.permits[permit]? = some issued ∧ issued.once = 0 := by
  unfold unsettled at held
  cases found : circuit.permits[permit]? with
  | none => simp [found] at held
  | some issued =>
      simp only [found, ne_eq, ite_eq_right_iff, Nat.one_ne_zero, imp_false, not_not] at held
      exact ⟨issued, rfl, held⟩

theorem unsettled_acquire (circuit : Circuit) (now : Time) (permit : Nat) :
    (circuit.acquire now).2.unsettled permit =
      circuit.unsettled permit + (if (circuit.acquire now).1 = some permit then 1 else 0) := by
  rcases acquire_permits circuit now with ⟨refused, same⟩ | ⟨issued, granted, grown, first, _⟩
  · simp [unsettled, refused, same]
  · simp only [unsettled, granted, grown, List.getElem?_append, Option.some.injEq]
    by_cases inside : permit < circuit.permits.length
    · have other : ¬ circuit.permits.length = permit := by omega
      simp [inside, other]
    · by_cases last : circuit.permits.length = permit
      · subst last
        simp [first]
      · have beyond : ∃ more, permit - circuit.permits.length = more + 1 :=
          ⟨permit - circuit.permits.length - 1, by omega⟩
        obtain ⟨more, beyond⟩ := beyond
        simp [inside, last, beyond]

theorem verdict_acquire (circuit : Circuit) (now : Time) (permit : Nat) :
    (circuit.acquire now).2.verdict permit = circuit.verdict permit := by
  rcases acquire_permits circuit now with ⟨_, same⟩ | ⟨issued, _, grown, _, blank⟩
  · rw [verdict, same, verdict]
  · rw [verdict, verdict, grown, List.getElem?_append]
    split
    · rfl
    · next beyond =>
      rw [List.getElem?_eq_none (Nat.not_lt.mp beyond)]
      cases more : permit - circuit.permits.length with
      | zero => exact blank
      | succ more => rfl

/-- The first settlement of a permit, for the balance and for the record. -/
theorem unsettled_set (present : circuit.permits[id]? = some issued) (first : issued.once = 0)
    {after : Circuit} {verdict : Option Bool}
    (written : after.permits = circuit.permits.set id { issued with once := 1, verdict := verdict })
    (permit : Nat) :
    after.unsettled permit + (if permit = id then 1 else 0) = circuit.unsettled permit := by
  obtain ⟨inside, rfl⟩ := List.getElem?_eq_some_iff.mp present
  unfold unsettled
  rw [written, List.getElem?_set]
  by_cases same : id = permit
  · subst same
    simp [inside, first]
  · have other : ¬ permit = id := fun here => same here.symm
    simp [same, other]

theorem verdict_set (present : circuit.permits[id]? = some issued) {after : Circuit}
    {verdict : Option Bool}
    (written : after.permits = circuit.permits.set id { issued with once := 1, verdict := verdict })
    (permit : Nat) :
    after.verdict permit = if permit = id then verdict else circuit.verdict permit := by
  obtain ⟨inside, _⟩ := List.getElem?_eq_some_iff.mp present
  unfold Circuit.verdict
  rw [written, List.getElem?_set]
  by_cases same : id = permit
  · subst same
    simp [inside]
  · have other : ¬ permit = id := fun here => same here.symm
    simp [same, other]

end Circuit

/-! ## What a call holds -/

namespace Stage

/-- Between `tryAcquire` and `release` of the backend's slot. -/
def backendSlot : Stage → Bool
  | .backendAdmitted _ _ | .admitted _ _ | .calling _ _ | .replied _ _ _ | .operatorSettled _ _ _
  | .settled _ _ _ | .operatorReleased _ _ _ | .operatorFull _ _ => true
  | _ => false

/-- Between `tryAcquire` and `release` of the operator's slot. -/
def operatorSlot : Stage → Bool
  | .admitted _ _ | .calling _ _ | .replied _ _ _ | .operatorSettled _ _ _ | .settled _ _ _ => true
  | _ => false

/-- The backend's permit, until it is settled. -/
def backendPermit : Stage → Option Nat
  | .backendGranted backend | .granted backend _ | .backendAdmitted backend _ | .admitted backend _
  | .calling backend _ | .replied backend _ _ | .operatorSettled backend _ _
  | .operatorFull backend _ | .withdrawing backend _ _ | .operatorWithdrawn backend _ => some backend
  | _ => none

/-- The operator's permit, until it is settled. -/
def operatorPermit : Stage → Option Nat
  | .granted _ operator | .backendAdmitted _ operator | .admitted _ operator | .calling _ operator
  | .replied _ operator _ | .operatorFull _ operator | .withdrawing _ operator _ => some operator
  | _ => none

/-- The backend's permit and what it was completed with. -/
def backendVerdict : Stage → Option (Nat × Bool)
  | .settled backend _ reply | .operatorReleased backend _ reply | .returned backend _ reply =>
      some (backend, (classify reply).backendHealthy)
  | _ => none

/-- The operator's permit and what it was completed with. -/
def operatorVerdict : Stage → Option (Nat × Bool)
  | .operatorSettled _ operator reply | .settled _ operator reply
  | .operatorReleased _ operator reply | .returned _ operator reply =>
      some (operator, (classify reply).operatorHealthy)
  | _ => none

end Stage

namespace Call

def holdsSlot (compartment : Compartment) (call : Call) : Bool :=
  (call.stage.backendSlot && compartment == call.backend) ||
    (call.stage.operatorSlot && compartment == call.operator)

def holdsPermit (compartment : Compartment) (permit : Nat) (call : Call) : Bool :=
  (call.stage.backendPermit == some permit && compartment == call.backend) ||
    (call.stage.operatorPermit == some permit && compartment == call.operator)

/-- The call completed the permit with this. -/
def completed (compartment : Compartment) (permit : Nat) (success : Bool) (call : Call) : Prop :=
  (call.stage.backendVerdict = some (permit, success) ∧ compartment = call.backend) ∨
    (call.stage.operatorVerdict = some (permit, success) ∧ compartment = call.operator)

/-- The inner wallet is called within the compartment. -/
def inside (compartment : Compartment) (call : Call) : Bool :=
  match call.stage with
  | .calling _ _ => compartment == call.backend || compartment == call.operator
  | _ => false

/-- How often the inner wallet was called, and what it was allowed to answer. -/
def Asked (call : Call) : Prop :=
  match call.stage with
  | .calling _ _ => call.asked = 1
  | .replied _ _ reply | .operatorSettled _ _ reply | .settled _ _ reply
  | .operatorReleased _ _ reply | .returned _ _ reply =>
      (call.asked = 1 ∧ call.method.returns reply = true) ∨
        (call.asked = 0 ∧ call.method.resolves = true ∧ call.wallet.hasResolution = false ∧
          reply = unresolved)
  | _ => call.asked = 0

end Call

/-! ## One operation of a call -/

/-- How one operation of a call moves what it holds and what the compartments count. -/
structure Turn (system : Isolation) (id : Nat) (call next : Call) (after : Isolation) : Prop where
  calls : after.calls = system.calls.set id next
  config : after.config = system.config
  wallet : next.wallet = call.wallet
  method : next.method = call.method
  circuit : ∀ compartment, after.circuits compartment = system.circuits compartment ∨
    ∃ act, after.circuits compartment = (system.circuits compartment).call act
  slots : ∀ compartment,
    after.slots compartment + (if call.holdsSlot compartment then 1 else 0) =
      system.slots compartment + (if next.holdsSlot compartment then 1 else 0)
  capacity : ∀ compartment, after.slots compartment ≤ system.slots compartment ∨
    (after.slots compartment : Int) ≤ system.config.capacity compartment
  permits : ∀ compartment permit,
    (after.circuits compartment).unsettled permit +
        (if call.holdsPermit compartment permit then 1 else 0) =
      (system.circuits compartment).unsettled permit +
        (if next.holdsPermit compartment permit then 1 else 0)
  verdict : ∀ compartment permit success,
    (after.circuits compartment).verdict permit = some success →
      (system.circuits compartment).verdict permit = some success ∨
        next.completed compartment permit success
  kept : ∀ compartment permit success, call.completed compartment permit success →
    next.completed compartment permit success
  once : ∀ compartment, ∀ issued ∈ (after.circuits compartment).permits,
    issued ∈ (system.circuits compartment).permits ∨ issued.once ≤ 1
  asked : call.Asked → next.Asked

namespace Isolation

variable {system : Isolation} {id : Nat} {call : Call} {compartment : Compartment} {now : Time}

/-- The breaker of a compartment is replaced. -/
theorem circuits_setCircuit (circuit : Circuit) (other : Compartment) :
    (system.setCircuit compartment circuit).circuits other =
      if other = compartment then circuit else system.circuits other := by
  simp [setCircuit, Function.update_apply]

theorem slots_setSlots (count : Nat) (other : Compartment) :
    (system.setSlots compartment count).slots other =
      if other = compartment then count else system.slots other := by
  simp [setSlots, Function.update_apply]

/-- A call tries a breaker. -/
theorem turn_acquire {granted : Nat → Stage} {refused : Stage}
    (unslotted : ∀ reply : Option Nat, ∀ other,
      Call.holdsSlot other { call with stage := reply.elim refused granted } = call.holdsSlot other)
    (holds : ∀ reply : Option Nat, ∀ other permit,
      (if Call.holdsPermit other permit { call with stage := reply.elim refused granted } then 1
          else 0) =
        (if call.holdsPermit other permit then 1 else 0) +
          (if other = compartment ∧ reply = some permit then 1 else 0))
    (begun : ∀ other permit success, ¬ call.completed other permit success)
    (asked : ∀ reply : Option Nat, call.Asked →
      Call.Asked { call with stage := reply.elim refused granted }) :
    ∃ next, Turn system id call next (system.acquire compartment now id call granted refused) := by
  refine ⟨_, rfl, rfl, rfl, rfl, ?_, ?_, ?_, ?_, ?_, ?_, ?_, asked _⟩
  · intro other
    by_cases here : other = compartment
    · subst here
      exact .inr ⟨.acquire now, (circuits_setCircuit _ _).trans (if_pos rfl)⟩
    · exact .inl ((circuits_setCircuit _ _).trans (if_neg here))
  · intro other
    rw [unslotted]
    rfl
  · exact fun other => .inl (Nat.le_refl _)
  · intro other permit
    show ((system.setCircuit compartment _).circuits other).unsettled permit + _ = _
    rw [circuits_setCircuit, holds]
    by_cases here : other = compartment
    · subst here
      rw [if_pos rfl, Circuit.unsettled_acquire]
      simp only [true_and]
      omega
    · simp only [here, false_and, if_false]
      omega
  · intro other permit success recorded
    refine .inl ?_
    change ((system.setCircuit compartment _).circuits other).verdict permit = _ at recorded
    rw [circuits_setCircuit] at recorded
    split at recorded
    · next here =>
      subst here
      rwa [Circuit.verdict_acquire] at recorded
    · exact recorded
  · exact fun other permit success done => absurd done (begun other permit success)
  · intro other issued member
    change issued ∈ ((system.setCircuit compartment _).circuits other).permits at member
    rw [circuits_setCircuit] at member
    split at member
    · next here =>
      subst here
      rcases Circuit.acquire_permits (system.circuits other) now with
        ⟨_, same⟩ | ⟨new, _, grown, first, _⟩
      · rw [same] at member
        exact .inl member
      · rw [grown] at member
        rcases List.mem_append.mp member with there | last
        · exact .inl there
        · rw [List.mem_singleton.mp last, first]
          exact .inr (Nat.zero_le 1)
    · exact .inl member

/-- A call settles a permit that it holds. -/
theorem turn_settle {pid : Nat} {issued : Issued} {act : CircuitCall} {verdict : Option Bool}
    {stage : Stage} (present : (system.circuits compartment).permits[pid]? = some issued)
    (first : issued.once = 0)
    (written : ((system.circuits compartment).call act).permits =
      (system.circuits compartment).permits.set pid { issued with once := 1, verdict := verdict })
    (unslotted : ∀ other, Call.holdsSlot other { call with stage := stage } = call.holdsSlot other)
    (holds : ∀ other permit,
      (if Call.holdsPermit other permit { call with stage := stage } then 1 else 0) +
          (if other = compartment ∧ permit = pid then 1 else 0) =
        (if call.holdsPermit other permit then 1 else 0))
    (records : ∀ success, verdict = some success →
      Call.completed compartment pid success { call with stage := stage })
    (kept : ∀ other permit success, call.completed other permit success →
      Call.completed other permit success { call with stage := stage })
    (asked : call.Asked → Call.Asked { call with stage := stage }) :
    Turn system id call { call with stage := stage }
      ((system.setCircuit compartment ((system.circuits compartment).call act)).goto id call stage) := by
  refine ⟨rfl, rfl, rfl, rfl, ?_, ?_, ?_, ?_, ?_, kept, ?_, asked⟩
  · intro other
    by_cases here : other = compartment
    · subst here
      exact .inr ⟨act, (circuits_setCircuit _ _).trans (if_pos rfl)⟩
    · exact .inl ((circuits_setCircuit _ _).trans (if_neg here))
  · intro other
    rw [unslotted]
    rfl
  · exact fun other => .inl (Nat.le_refl _)
  · intro other permit
    show ((system.setCircuit compartment _).circuits other).unsettled permit + _ = _
    rw [circuits_setCircuit, ← holds]
    by_cases here : other = compartment
    · subst here
      have moved := Circuit.unsettled_set present first written permit
      rw [if_pos rfl]
      simp only [true_and]
      omega
    · simp only [here, false_and, if_false]
      omega
  · intro other permit success recorded
    change ((system.setCircuit compartment _).circuits other).verdict permit = _ at recorded
    rw [circuits_setCircuit] at recorded
    split at recorded
    · next here =>
      subst here
      rw [Circuit.verdict_set present written] at recorded
      split at recorded
      · next same =>
        subst same
        exact .inr (records success recorded)
      · exact .inl recorded
    · exact .inl recorded
  · intro other found member
    change found ∈ ((system.setCircuit compartment _).circuits other).permits at member
    rw [circuits_setCircuit] at member
    split at member
    · next here =>
      subst here
      rw [written] at member
      rcases List.mem_or_eq_of_mem_set member with there | rfl
      · exact .inl there
      · exact .inr (Nat.le_refl 1)
    · exact .inl member

/-- A call moves on without touching a compartment. -/
theorem turn_goto {next : Call} (wallet : next.wallet = call.wallet)
    (method : next.method = call.method)
    (unslotted : ∀ other, next.holdsSlot other = call.holdsSlot other)
    (holds : ∀ other permit, next.holdsPermit other permit = call.holdsPermit other permit)
    (kept : ∀ other permit success, call.completed other permit success →
      next.completed other permit success)
    (asked : call.Asked → next.Asked) :
    Turn system id call next { system with calls := system.calls.set id next } where
  calls := rfl
  config := rfl
  wallet := wallet
  method := method
  circuit := fun _ => .inl rfl
  slots := fun other => by rw [unslotted]
  capacity := fun _ => .inl (Nat.le_refl _)
  permits := fun other permit => by rw [holds]
  verdict := fun _ _ _ recorded => .inl recorded
  kept := kept
  once := fun _ _ member => .inl member
  asked := asked

/-- A call tries a channel. -/
theorem turn_take {admitted full : Stage}
    (free : ∀ other, Call.holdsSlot other { call with stage := full } = call.holdsSlot other)
    (takes : ∀ other, (if Call.holdsSlot other { call with stage := admitted } then 1 else 0) =
      (if call.holdsSlot other then 1 else 0) + (if other = compartment then 1 else 0))
    (holds : ∀ stage, stage = admitted ∨ stage = full → ∀ other permit,
      Call.holdsPermit other permit { call with stage := stage } = call.holdsPermit other permit)
    (begun : ∀ other permit success, ¬ call.completed other permit success)
    (asked : ∀ stage, stage = admitted ∨ stage = full → call.Asked →
      Call.Asked { call with stage := stage }) :
    ∃ next, Turn system id call next (system.tryAcquire compartment id call admitted full) := by
  unfold tryAcquire
  split
  · next room =>
    refine ⟨{ call with stage := admitted }, rfl, rfl, rfl, rfl, fun _ => .inl rfl, ?_, ?_, ?_,
      fun _ _ _ recorded => .inl recorded,
      fun other permit success done => absurd done (begun other permit success),
      fun _ _ member => .inl member, asked admitted (.inl rfl)⟩
    · intro other
      show (system.setSlots compartment _).slots other + _ = _
      rw [slots_setSlots, takes]
      split
      · next here =>
        subst here
        omega
      · omega
    · intro other
      show (system.setSlots compartment _).slots other ≤ _ ∨
        ((system.setSlots compartment _).slots other : Int) ≤ _
      rw [slots_setSlots]
      split
      · next here =>
        subst here
        exact .inr (by omega)
      · exact .inl (Nat.le_refl _)
    · intro other permit
      rw [holds admitted (.inl rfl)]
      rfl
  · exact ⟨_, turn_goto rfl rfl free (holds full (.inr rfl))
      (fun other permit success done => absurd done (begun other permit success))
      (asked full (.inr rfl))⟩

/-- A call gives back the slot that it holds. -/
theorem turn_release {stage : Stage} (counted : system.slots compartment ≠ 0)
    (gives : ∀ other, (if Call.holdsSlot other { call with stage := stage } then 1 else 0) +
        (if other = compartment then 1 else 0) = if call.holdsSlot other then 1 else 0)
    (holds : ∀ other permit,
      Call.holdsPermit other permit { call with stage := stage } = call.holdsPermit other permit)
    (kept : ∀ other permit success, call.completed other permit success →
      Call.completed other permit success { call with stage := stage })
    (asked : call.Asked → Call.Asked { call with stage := stage }) :
    ∃ next after, system.release compartment id call stage = some after ∧
      Turn system id call next after := by
  refine ⟨{ call with stage := stage }, _, if_neg counted, rfl, rfl, rfl, rfl, fun _ => .inl rfl, ?_, ?_, ?_,
    fun _ _ _ recorded => .inl recorded, kept, fun _ _ member => .inl member, asked⟩
  · intro other
    show (system.setSlots compartment _).slots other + _ = _
    rw [slots_setSlots, ← gives]
    split
    · next here =>
      subst here
      omega
    · omega
  · intro other
    refine .inl ?_
    show (system.setSlots compartment _).slots other ≤ _
    rw [slots_setSlots]
    split
    · next here =>
      subst here
      omega
    · exact Nat.le_refl _
  · intro other permit
    rw [holds]
    rfl

/-! ## The balance -/

/-- What the channels and the breakers count is what the running calls hold. -/
structure Balanced (settings : IsolationConfig) (system : Isolation) : Prop where
  config : system.config = settings
  slots : ∀ compartment,
    system.slots compartment = system.calls.countP (Call.holdsSlot compartment)
  bounded : ∀ compartment, (system.slots compartment : Int) ≤ settings.capacity compartment
  permits : ∀ compartment permit, (system.circuits compartment).unsettled permit =
    system.calls.countP (Call.holdsPermit compartment permit)
  once : ∀ compartment, ∀ issued ∈ (system.circuits compartment).permits, issued.once ≤ 1
  recorded : ∀ compartment permit success,
    (system.circuits compartment).verdict permit = some success →
      ∃ call ∈ system.calls, call.completed compartment permit success
  asked : ∀ call ∈ system.calls, call.Asked

variable {settings : IsolationConfig}

/-- The permit of a call that has not settled it. -/
theorem Balanced.owned (balanced : Balanced settings system) (present : system.calls[id]? = some call)
    {permit : Nat} (holds : call.holdsPermit compartment permit = true) :
    ∃ issued, (system.circuits compartment).permits[permit]? = some issued ∧ issued.once = 0 := by
  apply Circuit.unsettled_eq_one
  rw [balanced.permits]
  exact Nat.ne_of_gt (List.countP_pos_iff.mpr ⟨call, List.mem_of_getElem? present, holds⟩)

/-- The slot of a call that has not released it. -/
theorem Balanced.counted (balanced : Balanced settings system)
    (present : system.calls[id]? = some call) (holds : call.holdsSlot compartment = true) :
    system.slots compartment ≠ 0 := by
  rw [balanced.slots]
  exact Nat.ne_of_gt (List.countP_pos_iff.mpr ⟨call, List.mem_of_getElem? present, holds⟩)

/-- The call waits for nothing but the inner wallet. -/
def Advances (call : Call) : Prop :=
  match call.stage with
  | .calling _ _ | .returned _ _ _ | .rejected _ => False
  | _ => True

theorem advances_of_some {after : Isolation} (ran : system.advance id call now = some after) :
    Advances call := by
  unfold Advances
  cases stage : call.stage with
  | calling | returned | rejected =>
      rw [Isolation.advance, stage] at ran
      cases ran
  | _ => trivial

section Advancing

attribute [local simp] Call.holdsSlot Call.holdsPermit Call.completed Call.Asked Call.backend
  Call.operator Stage.backendSlot Stage.operatorSlot Stage.backendPermit Stage.operatorPermit
  Stage.backendVerdict Stage.operatorVerdict

theorem Balanced.advance (balanced : Balanced settings system)
    (present : system.calls[id]? = some call) (advances : Advances call) :
    ∃ next after, system.advance id call now = some after ∧ Turn system id call next after := by
  obtain ⟨wallet, method, stage, asked⟩ := call
  cases stage with
  | entered =>
      obtain ⟨next, turn⟩ : ∃ next, Turn system id ⟨wallet, method, .entered, asked⟩ next
          (system.acquire (Call.backend ⟨wallet, method, .entered, asked⟩) now id _ .backendGranted
            (.rejected rejectionCircuit)) := by
        refine turn_acquire ?_ ?_ ?_ ?_
        · rintro (_ | permit) other <;> simp
        · rintro (_ | permit) other wanted <;> simp [and_comm]
        · simp
        · rintro (_ | permit) <;> simp
      exact ⟨next, _, rfl, turn⟩
  | backendGranted backend =>
      obtain ⟨next, turn⟩ : ∃ next,
          Turn system id ⟨wallet, method, .backendGranted backend, asked⟩ next
          (system.acquire (Call.operator ⟨wallet, method, .backendGranted backend, asked⟩) now id _
            (.granted backend) (.operatorWithdrawn backend rejectionCircuit)) := by
        refine turn_acquire ?_ ?_ ?_ ?_
        · rintro (_ | permit) other <;> simp
        · rintro (_ | permit) other wanted
          · simp
          · by_cases here : other = .operator wallet.operatorID method.lane
            · simp [here]
            · simp [here]
        · simp
        · rintro (_ | permit) <;> simp
      exact ⟨next, _, rfl, turn⟩
  | granted backend operator =>
      obtain ⟨next, turn⟩ : ∃ next,
          Turn system id ⟨wallet, method, .granted backend operator, asked⟩ next
          (system.tryAcquire (Call.backend ⟨wallet, method, .granted backend operator, asked⟩) id _
            (.backendAdmitted backend operator)
            (.withdrawing backend operator rejectionBackendBulkhead)) := by
        refine turn_take ?_ ?_ ?_ ?_ ?_
        · simp
        · intro other
          by_cases here : other = .backend wallet.backendKey method.lane
          · simp [here]
          · simp [here]
        · rintro _ (rfl | rfl) <;> simp
        · simp
        · rintro _ (rfl | rfl) <;> simp
      exact ⟨next, _, rfl, turn⟩
  | backendAdmitted backend operator =>
      obtain ⟨next, turn⟩ : ∃ next,
          Turn system id ⟨wallet, method, .backendAdmitted backend operator, asked⟩ next
          (system.tryAcquire (Call.operator ⟨wallet, method, .backendAdmitted backend operator, asked⟩)
            id _ (.admitted backend operator) (.operatorFull backend operator)) := by
        refine turn_take ?_ ?_ ?_ ?_ ?_
        · simp
        · intro other
          by_cases here : other = .operator wallet.operatorID method.lane
          · simp [here]
          · simp [here]
        · rintro _ (rfl | rfl) <;> simp
        · simp
        · rintro _ (rfl | rfl) <;> simp
      exact ⟨next, _, rfl, turn⟩
  | admitted backend operator =>
      by_cases unresolvable : method.resolves = true ∧ wallet.hasResolution = false
      · refine ⟨⟨wallet, method, .replied backend operator unresolved, asked⟩, _,
          if_pos unresolvable, turn_goto rfl rfl ?_ ?_ ?_ ?_⟩
        · simp
        · simp
        · simp
        · intro before
          exact .inr ⟨before, unresolvable.1, unresolvable.2, rfl⟩
      · refine ⟨⟨wallet, method, .calling backend operator, asked + 1⟩, _,
          if_neg unresolvable, turn_goto rfl rfl ?_ ?_ ?_ ?_⟩
        · simp
        · simp
        · simp
        · simp
  | calling backend operator => exact advances.elim
  | replied backend operator reply =>
      have held : Call.holdsPermit (.operator wallet.operatorID method.lane) operator
          ⟨wallet, method, .replied backend operator reply, asked⟩ = true := by simp
      obtain ⟨issued, here, first⟩ := balanced.owned present held
      have written : ((system.circuits (.operator wallet.operatorID method.lane)).call
          (.complete operator (classify reply).operatorHealthy now)).permits = _ :=
        Circuit.complete_permits here first (classify reply).operatorHealthy now
      refine ⟨_, _, rfl, turn_settle here first written ?_ ?_ ?_ ?_ ?_⟩
      · simp
      · intro other permit
        by_cases here : other = .operator wallet.operatorID method.lane
        · by_cases same : permit = operator
          · simp [here, same]
          · simp [here, same, Ne.symm same]
        · simp [here]
      · simp
      · simp
      · simp
  | operatorSettled backend operator reply =>
      have held : Call.holdsPermit (.backend wallet.backendKey method.lane) backend
          ⟨wallet, method, .operatorSettled backend operator reply, asked⟩ = true := by simp
      obtain ⟨issued, here, first⟩ := balanced.owned present held
      have written : ((system.circuits (.backend wallet.backendKey method.lane)).call
          (.complete backend (classify reply).backendHealthy now)).permits = _ :=
        Circuit.complete_permits here first (classify reply).backendHealthy now
      refine ⟨_, _, rfl, turn_settle here first written ?_ ?_ ?_ ?_ ?_⟩
      · simp
      · intro other permit
        by_cases here : other = .backend wallet.backendKey method.lane
        · by_cases same : permit = backend
          · simp [here, same]
          · simp [here, same, Ne.symm same]
        · simp [here]
      · simp
      · intro other permit success done
        exact .inr (by simpa using done)
      · simp
  | settled backend operator reply =>
      have held : Call.holdsSlot (.operator wallet.operatorID method.lane)
          ⟨wallet, method, .settled backend operator reply, asked⟩ = true := by simp
      refine turn_release (balanced.counted present held) ?_ ?_ ?_ ?_
      · intro other
        by_cases here : other = .operator wallet.operatorID method.lane
        · simp [here]
        · simp [here]
      · simp
      · simp
      · simp
  | operatorReleased backend operator reply =>
      have held : Call.holdsSlot (.backend wallet.backendKey method.lane)
          ⟨wallet, method, .operatorReleased backend operator reply, asked⟩ = true := by simp
      refine turn_release (balanced.counted present held) ?_ ?_ ?_ ?_
      · intro other
        by_cases here : other = .backend wallet.backendKey method.lane
        · simp [here]
        · simp [here]
      · simp
      · simp
      · simp
  | returned backend operator reply => exact advances.elim
  | operatorFull backend operator =>
      have held : Call.holdsSlot (.backend wallet.backendKey method.lane)
          ⟨wallet, method, .operatorFull backend operator, asked⟩ = true := by simp
      refine turn_release (balanced.counted present held) ?_ ?_ ?_ ?_
      · intro other
        by_cases here : other = .backend wallet.backendKey method.lane
        · simp [here]
        · simp [here]
      · simp
      · simp
      · simp
  | withdrawing backend operator reason =>
      have held : Call.holdsPermit (.operator wallet.operatorID method.lane) operator
          ⟨wallet, method, .withdrawing backend operator reason, asked⟩ = true := by simp
      obtain ⟨issued, here, first⟩ := balanced.owned present held
      have written : ((system.circuits (.operator wallet.operatorID method.lane)).call
          (.cancel operator)).permits = _ := Circuit.cancel_permits here first
      refine ⟨_, _, rfl, turn_settle here first written ?_ ?_ ?_ ?_ ?_⟩
      · simp
      · intro other permit
        by_cases here : other = .operator wallet.operatorID method.lane
        · by_cases same : permit = operator
          · simp [here, same]
          · simp [here, same, Ne.symm same]
        · simp [here]
      · simp
      · simp
      · simp
  | operatorWithdrawn backend reason =>
      have held : Call.holdsPermit (.backend wallet.backendKey method.lane) backend
          ⟨wallet, method, .operatorWithdrawn backend reason, asked⟩ = true := by simp
      obtain ⟨issued, here, first⟩ := balanced.owned present held
      have written : ((system.circuits (.backend wallet.backendKey method.lane)).call
          (.cancel backend)).permits = _ := Circuit.cancel_permits here first
      refine ⟨_, _, rfl, turn_settle here first written ?_ ?_ ?_ ?_ ?_⟩
      · simp
      · intro other permit
        by_cases here : other = .backend wallet.backendKey method.lane
        · by_cases same : permit = backend
          · simp [here, same]
          · simp [here, same, Ne.symm same]
        · simp [here]
      · simp
      · simp
      · simp
  | rejected reason => exact advances.elim

end Advancing

/-- A turn keeps the balance. -/
theorem Balanced.turn (balanced : Balanced settings system) {next : Call} {after : Isolation}
    (present : system.calls[id]? = some call) (turn : Turn system id call next after) :
    Balanced settings after where
  config := turn.config.trans balanced.config
  slots := by
    intro compartment
    have counted := countP_set_add (Call.holdsSlot compartment) next present
    have moved := turn.slots compartment
    rw [balanced.slots] at moved
    rw [turn.calls]
    omega
  bounded := by
    intro compartment
    have before := balanced.bounded compartment
    rcases turn.capacity compartment with less | room
    · omega
    · rwa [balanced.config] at room
  permits := by
    intro compartment permit
    have counted := countP_set_add (Call.holdsPermit compartment permit) next present
    have moved := turn.permits compartment permit
    rw [balanced.permits] at moved
    rw [turn.calls]
    omega
  once := by
    intro compartment issued member
    rcases turn.once compartment issued member with before | settled
    · exact balanced.once compartment issued before
    · exact settled
  recorded := by
    intro compartment permit success written
    rw [turn.calls]
    obtain ⟨inside, _⟩ := List.getElem?_eq_some_iff.mp present
    have placed : next ∈ system.calls.set id next := List.mem_set inside next
    rcases turn.verdict compartment permit success written with before | done
    · obtain ⟨other, member, completed⟩ := balanced.recorded compartment permit success before
      obtain ⟨index, found⟩ := List.getElem?_of_mem member
      by_cases same : id = index
      · subst same
        rw [present] at found
        cases found
        exact ⟨next, placed, turn.kept compartment permit success completed⟩
      · refine ⟨other, List.mem_of_getElem? (i := index) ?_, completed⟩
        rw [List.getElem?_set_ne same, found]
    · exact ⟨next, placed, done⟩
  asked := by
    intro other member
    rw [turn.calls] at member
    rcases List.mem_or_eq_of_mem_set member with before | rfl
    · exact balanced.asked other before
    · exact turn.asked (balanced.asked call (List.mem_of_getElem? present))

/-- A call begins: it holds nothing. -/
theorem Balanced.begin (balanced : Balanced settings system) (wallet : IsolatedWallet)
    (method : Method) :
    Balanced settings { system with
      calls := system.calls ++
        [{ wallet := wallet, method := method, stage := .entered, asked := 0 }] } :=
  { balanced with
    slots := by
      intro compartment
      rw [countP_push]
      exact balanced.slots compartment
    permits := by
      intro compartment permit
      rw [countP_push]
      exact balanced.permits compartment permit
    recorded := by
      intro compartment permit success written
      obtain ⟨call, member, completed⟩ := balanced.recorded compartment permit success written
      exact ⟨call, List.mem_append_left _ member, completed⟩
    asked := by
      intro call member
      rcases List.mem_append.mp member with before | last
      · exact balanced.asked call before
      · rw [List.mem_singleton.mp last]
        rfl }

/-- The inner wallet answers. -/
theorem turn_answer {backend operator : Nat} {reply : Reply}
    (stage : call.stage = .calling backend operator) (returns : call.method.returns reply = true) :
    Turn system id call { call with stage := .replied backend operator reply }
      (system.goto id call (.replied backend operator reply)) := by
  refine turn_goto rfl rfl ?_ ?_ ?_ ?_
  · intro other
    simp only [Call.holdsSlot, stage, Stage.backendSlot, Stage.operatorSlot]
    rfl
  · intro other permit
    simp only [Call.holdsPermit, stage, Stage.backendPermit, Stage.operatorPermit]
    rfl
  · intro other permit success done
    simp [Call.completed, stage, Stage.backendVerdict, Stage.operatorVerdict] at done
  · intro asked
    simp only [Call.Asked, stage] at asked
    exact .inl ⟨asked, returns⟩

/-- A step is a call that begins, or a turn of one call. -/
theorem Balanced.step (balanced : Balanced settings system) {action : IsolationAction}
    {after : Isolation} (ran : system.perform action = some after) : Balanced settings after := by
  cases action with
  | «begin» wallet method =>
      cases ran
      exact balanced.begin wallet method
  | advance id now =>
      obtain ⟨call, present, ran⟩ := Option.bind_eq_some_iff.mp ran
      obtain ⟨next, _, reached, turn⟩ :
          ∃ next after, system.advance id call now = some after ∧ Turn system id call next after :=
        balanced.advance present (advances_of_some ran)
      cases reached.symm.trans ran
      exact balanced.turn present turn
  | answer id reply =>
      obtain ⟨call, present, ran⟩ := Option.bind_eq_some_iff.mp ran
      split at ran
      · next backend operator stage =>
        split at ran
        · next returns =>
          cases ran
          exact balanced.turn present (turn_answer stage returns)
        · cases ran
      · cases ran

/-- What `IsolationConfig.validate` admits. -/
theorem validate_ok (valid : settings.validate = .ok ()) :
    settings.circuit.Valid ∧ ∀ compartment, 1 ≤ settings.capacity compartment := by
  unfold IsolationConfig.validate at valid
  split at valid
  · cases valid
  · next limits =>
    split at valid
    · cases valid
    · next thresholds =>
      split at valid
      · cases valid
      · next duration =>
        simp only [not_or, Int.not_lt] at limits thresholds duration
        refine ⟨⟨thresholds.1, thresholds.2.2.1, thresholds.2.2.2.2.1, ?_⟩, ?_⟩
        · exact Int.not_le.mp duration.1
        · rintro (⟨_, _ | _⟩ | ⟨_, _ | _⟩)
          · exact limits.1
          · exact limits.2.2.1
          · exact limits.2.2.2.2.1
          · exact limits.2.2.2.2.2.2.1

theorem balanced_new (valid : settings.validate = .ok ()) : Balanced settings (new settings) where
  config := rfl
  slots := fun _ => rfl
  bounded := fun compartment =>
    Int.le_trans Int.one_nonneg ((validate_ok valid).2 compartment)
  permits := fun _ _ => rfl
  once := fun _ _ member => by cases member
  recorded := fun _ _ _ written => by cases written
  asked := fun _ member => by cases member

theorem Run.balanced (valid : settings.validate = .ok ()) (run : Run settings system) :
    Balanced settings system := by
  refine Reachable.invariant (Balanced settings) ?_ ?_ run
  · rintro _ rfl
    exact balanced_new valid
  · rintro state after _ balanced ⟨action, ran⟩
    exact balanced.step ran

/-- In a step, a breaker is left alone or does one thing. -/
theorem perform_circuit (balanced : Balanced settings system) {action : IsolationAction}
    {after : Isolation} (ran : system.perform action = some after) (compartment : Compartment) :
    after.circuits compartment = system.circuits compartment ∨
      ∃ act, after.circuits compartment = (system.circuits compartment).call act := by
  cases action with
  | «begin» wallet method =>
      cases ran
      exact .inl rfl
  | advance id now =>
      obtain ⟨call, present, ran⟩ := Option.bind_eq_some_iff.mp ran
      obtain ⟨next, _, reached, turn⟩ :
          ∃ next after, system.advance id call now = some after ∧ Turn system id call next after :=
        balanced.advance present (advances_of_some ran)
      cases reached.symm.trans ran
      exact turn.circuit compartment
  | answer id reply =>
      obtain ⟨call, present, ran⟩ := Option.bind_eq_some_iff.mp ran
      split at ran
      · split at ran
        · cases ran
          exact .inl rfl
        · cases ran
      · cases ran

theorem FreshRun.run (run : FreshRun settings system) : Run settings system := by
  obtain ⟨start, first, path⟩ := run
  refine ⟨start, first, ?_⟩
  induction path with
  | refl => exact .refl
  | tail _ stepped ih =>
      obtain ⟨action, ran, _⟩ := stepped
      exact ih.tail ⟨action, ran⟩

/-- The breakers of a fresh run take runs of their own. -/
theorem FreshRun.circuits (valid : settings.validate = .ok ()) (run : FreshRun settings system)
    (compartment : Compartment) : Circuit.Run settings.circuit (system.circuits compartment) := by
  refine Reachable.invariant
    (fun system => Circuit.Run settings.circuit (system.circuits compartment)) ?_ ?_ run
  · rintro _ rfl
    exact Reachable.start rfl
  · rintro state after reached circuit ⟨action, ran, fresh⟩
    have balanced : Balanced settings state := (FreshRun.run reached).balanced valid
    rcases perform_circuit balanced ran compartment with same | ⟨act, moved⟩
    · rw [same]
      exact circuit
    · have kept := fresh compartment
      rw [moved] at kept ⊢
      exact circuit.next act kept

/-! ## Balanced runs -/

theorem Balanced.inside_le (balanced : Balanced settings system) (compartment : Compartment) :
    (system.calls.countP (Call.inside compartment) : Int) ≤ settings.capacity compartment := by
  have held : system.calls.countP (Call.inside compartment) ≤
      system.calls.countP (Call.holdsSlot compartment) := by
    apply List.countP_mono_left
    intro call _ within
    unfold Call.inside at within
    split at within
    · next stage =>
      simpa [Call.holdsSlot, stage, Stage.backendSlot, Stage.operatorSlot] using within
    · cases within
  have bounded := balanced.bounded compartment
  rw [balanced.slots] at bounded
  omega

/-- A permit is held by one call that will settle it, or was settled once. -/
theorem Balanced.permit (balanced : Balanced settings system) {permit : Nat} {issued : Issued}
    (present : (system.circuits compartment).permits[permit]? = some issued) :
    (issued.once = 0 ∧ system.calls.countP (Call.holdsPermit compartment permit) = 1) ∨
      (issued.once = 1 ∧ system.calls.countP (Call.holdsPermit compartment permit) = 0) := by
  have counted := balanced.permits compartment permit
  have atMost := balanced.once compartment issued (List.mem_of_getElem? present)
  simp only [Circuit.unsettled, present] at counted
  split at counted
  · next first => exact .inl ⟨first, counted.symm⟩
  · exact .inr ⟨by omega, counted.symm⟩

/-- A call that has returned holds nothing. -/
theorem returned_holds (returned : call.running = false) :
    call.holdsSlot compartment = false ∧ ∀ permit, call.holdsPermit compartment permit = false := by
  unfold Call.running Call.reply at returned
  cases stage : call.stage with
  | returned | rejected =>
      simp [Call.holdsSlot, Call.holdsPermit, stage, Stage.backendSlot, Stage.operatorSlot,
        Stage.backendPermit, Stage.operatorPermit]
  | _ => simp [stage] at returned

/-- When every call has returned, no slot is taken and every permit is settled. -/
theorem Balanced.idle (balanced : Balanced settings system)
    (returned : ∀ call ∈ system.calls, call.running = false) (compartment : Compartment) :
    system.slots compartment = 0 ∧
      ∀ issued ∈ (system.circuits compartment).permits, issued.once = 1 := by
  have unheld (permit : Nat) : system.calls.countP (Call.holdsPermit compartment permit) = 0 := by
    rw [List.countP_eq_zero]
    intro call member holds
    rw [(returned_holds (returned call member)).2 permit] at holds
    cases holds
  constructor
  · rw [balanced.slots, List.countP_eq_zero]
    intro call member holds
    rw [(returned_holds (returned call member)).1] at holds
    cases holds
  · intro issued member
    obtain ⟨permit, present⟩ := List.getElem?_of_mem member
    rcases balanced.permit present with ⟨_, held⟩ | ⟨once, _⟩
    · rw [unheld permit] at held
      cases held
    · exact once

/-- And no probe is counted. -/
theorem FreshRun.no_probe (valid : settings.validate = .ok ()) (run : FreshRun settings system)
    (returned : ∀ call ∈ system.calls, call.running = false) (compartment : Compartment) :
    (system.circuits compartment).breaker.halfOpenInFlight = 0 := by
  have settled := ((run.run.balanced valid).idle returned compartment).2
  have probes := ((run.circuits valid compartment).accounted (validate_ok valid).1).1.probes
  have none : (system.circuits compartment).outstanding = 0 := by
    rw [Circuit.outstanding, List.countP_eq_zero]
    intro issued member
    simp [Issued.outstanding, settled issued member]
  rw [probes, none]
  split <;> rfl

/-- The reply to a call that admission refused. -/
def Refusal : Reply → Prop
  | .resolution result => result.status = .notSent ∧ isError result.cause .isolationRejected = true
  | .receipt _ err | .found _ _ err =>
      isError err .isolationRejected = true ∧ isError err (.rgs .walletUnavailable) = true

theorem refusal_reject (method : Method) (reason : String) : Refusal (method.reject reason) := by
  cases method <;> exact ⟨rfl, rfl⟩

/-- In every interleaving of calls, with any answers of the inner wallet. -/
theorem run_balanced (valid : settings.validate = .ok ()) (run : Run settings system) :
    (∀ compartment,
      (system.calls.countP (Call.inside compartment) : Int) ≤ settings.capacity compartment) ∧
    (∀ compartment,
      system.slots compartment = system.calls.countP (Call.holdsSlot compartment)) ∧
    (∀ compartment permit issued,
      (system.circuits compartment).permits[permit]? = some issued →
        (issued.once = 0 ∧ system.calls.countP (Call.holdsPermit compartment permit) = 1) ∨
          (issued.once = 1 ∧ system.calls.countP (Call.holdsPermit compartment permit) = 0)) ∧
    (∀ call ∈ system.calls, call.running = false → ∀ compartment,
      call.holdsSlot compartment = false ∧ ∀ permit, call.holdsPermit compartment permit = false) ∧
    ((∀ call ∈ system.calls, call.running = false) → ∀ compartment,
      system.slots compartment = 0 ∧
        (∀ issued ∈ (system.circuits compartment).permits, issued.once = 1) ∧
        (FreshRun settings system →
          (system.circuits compartment).breaker.halfOpenInFlight = 0)) ∧
    (∀ call ∈ system.calls, ∀ reason, call.stage = .rejected reason →
      call.asked = 0 ∧ ∃ reply, call.reply = some reply ∧ call.method.returns reply = true ∧
        Refusal reply) ∧
    (∀ id call, system.calls[id]? = some call → Advances call → ∀ now,
      (system.advance id call now).isSome = true) := by
  have balanced := run.balanced valid
  refine ⟨balanced.inside_le, balanced.slots, fun _ _ _ => balanced.permit,
    fun _ _ returned _ => returned_holds returned, ?_, ?_, ?_⟩
  · intro returned compartment
    obtain ⟨free, settled⟩ := balanced.idle returned compartment
    exact ⟨free, settled, fun fresh => fresh.no_probe valid returned compartment⟩
  · intro call member reason stage
    have asked := balanced.asked call member
    simp only [Call.Asked, stage] at asked
    refine ⟨asked, call.method.reject reason, by rw [Call.reply, stage], ?_, refusal_reject _ _⟩
    cases call.method <;> rfl
  · intro id call present advances now
    obtain ⟨_, after, ran, _⟩ :
        ∃ next after, system.advance id call now = some after ∧ Turn system id call next after :=
      balanced.advance present advances
    rw [ran]
    rfl

/-! ## Short runs -/

theorem call_epoch (circuit : Circuit) (act : CircuitCall) :
    (circuit.call act).epoch ≤ circuit.epoch + 1 := by
  have become_epoch (circuit : Circuit) (breaker : CircuitBreaker) :
      (circuit.become breaker).epoch ≤ circuit.epoch + 1 := by
    unfold Circuit.become
    split
    · exact Nat.le_succ _
    · exact Nat.le_refl _
  have settle_epoch (id : Nat) (first : Issued → Circuit)
      (settles : ∀ issued, (first issued).epoch ≤ circuit.epoch + 1) :
      (circuit.settle id first).epoch ≤ circuit.epoch + 1 := by
    unfold Circuit.settle
    split
    · exact Nat.le_succ _
    · split
      · exact settles _
      · exact Nat.le_succ _
  cases act with
  | acquire now =>
      show (circuit.acquire now).2.epoch ≤ _
      unfold Circuit.acquire
      dsimp only
      split <;> exact become_epoch circuit _
  | complete id success now =>
      refine settle_epoch id _ fun issued => ?_
      dsimp only
      refine Nat.le_trans (become_epoch _ _) ?_
      split <;> exact Nat.le_refl _
  | cancel id => exact settle_epoch id _ fun issued => become_epoch _ _

/-- A schedule of fewer than 2^64 steps is a run: no generation has wrapped. -/
theorem FreshRun.of_actions (valid : settings.validate = .ok ()) {actions : List IsolationAction}
    (short : actions.length < 2 ^ 64) (ran : (new settings).performAll actions = some system) :
    FreshRun settings system ∧
      ∀ compartment, (system.circuits compartment).epoch ≤ actions.length := by
  induction actions using List.reverseRecOn generalizing system with
  | nil =>
      cases ran
      exact ⟨Reachable.start rfl, fun _ => Nat.le_refl 0⟩
  | append_singleton actions last ih =>
      rw [List.length_append, List.length_singleton] at short ⊢
      rw [performAll, List.foldlM_append, Option.bind_eq_bind, Option.bind_eq_some_iff] at ran
      obtain ⟨before, led, ran⟩ := ran
      obtain ⟨run, epochs⟩ := ih (by omega) led
      have stepped : before.perform last = some system := by
        simpa using ran
      have bounded (compartment : Compartment) :
          (system.circuits compartment).epoch ≤ actions.length + 1 := by
        have earlier := epochs compartment
        rcases perform_circuit (run.run.balanced valid) stepped compartment with same | ⟨act, moved⟩
        · rw [same]
          omega
        · rw [moved]
          exact Nat.le_trans (call_epoch _ act) (by omega)
      have fresh : system.Fresh := by
        intro compartment issued _ _
        have := bounded compartment
        omega
      exact ⟨Reachable.next run ⟨last, stepped, fresh⟩, bounded⟩

/-! ## A lookup that is refused -/

/-- One call at a time in every compartment; one failure opens and one success closes. -/
def tightConfig : IsolationConfig :=
  { backendApplyMaxInFlight := 1, backendLookupMaxInFlight := 1, operatorApplyMaxInFlight := 1
    operatorLookupMaxInFlight := 1, failureThreshold := 1, successThreshold := 1
    openDuration := 1, halfOpenMaxInFlight := 1 }

def demoWallet : IsolatedWallet :=
  { operatorID := "operator", backendKey := "https://wallet", hasResolution := true }

/-- The steps of a call up to the inner wallet, or up to its refusal. -/
def enters (id : Nat) (method : Method) (now : Time) : List IsolationAction :=
  .begin demoWallet method :: List.replicate 5 (.advance id now)

/-- The answer of the inner wallet, and the steps that return it. -/
def leaves (id : Nat) (reply : Reply) (now : Time) : List IsolationAction :=
  .answer id reply :: List.replicate 4 (.advance id now)

/-- A lookup is under way when another one comes. -/
def secondLookup : List IsolationAction := enters 0 .lookup 0 ++ enters 1 .lookup 0

theorem secondLookup_calls :
    ∃ system, (new tightConfig).performAll secondLookup = some system ∧ system.calls =
      [⟨demoWallet, .lookup, .calling 0 0, 1⟩,
        ⟨demoWallet, .lookup, .rejected rejectionBackendBulkhead, 0⟩] := by
  apply Option.map_eq_some_iff.mp
  decide

theorem secondLookup_balanced :
    ∃ system, (new tightConfig).performAll secondLookup = some system ∧
      system.slots (.operator "operator" .lookup) = 1 ∧
      ∃ call ∈ system.calls, call.stage = .rejected rejectionBackendBulkhead ∧ call.asked = 0 := by
  obtain ⟨system, ran, calls⟩ := secondLookup_calls
  have valid : tightConfig.validate = .ok () := by decide
  obtain ⟨run, _⟩ := FreshRun.of_actions valid (by decide) ran
  obtain ⟨_, slots, _, _, _, refused, _⟩ := run_balanced valid run.run
  have member : ⟨demoWallet, .lookup, .rejected rejectionBackendBulkhead, 0⟩ ∈ system.calls := by
    rw [calls]
    exact List.mem_cons_of_mem _ List.mem_cons_self
  refine ⟨system, ran, ?_, _, member, rfl, (refused _ member _ rfl).1⟩
  rw [slots, calls]
  decide

/-- The refused lookup returns an error, which is no resolution. -/
theorem refused_lookup :
    ∃ system, (new tightConfig).performAll secondLookup = some system ∧
      ∃ call ∈ system.calls, ∃ reason, call.stage = .rejected reason ∧
        ∃ reply, call.reply = some reply ∧ ∀ result, reply ≠ .resolution result := by
  obtain ⟨system, ran, calls⟩ := secondLookup_calls
  refine ⟨system, ran, ⟨demoWallet, .lookup, .rejected rejectionBackendBulkhead, 0⟩, ?_, _, rfl, _,
    rfl, ?_⟩
  · rw [calls]
    exact List.mem_cons_of_mem _ List.mem_cons_self
  · intro result same
    cases same

end Isolation

end SlotsGame.Wallet
