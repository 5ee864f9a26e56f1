/-
# SlotsGame.Wallet.Accounting -- what a circuit breaker counts

`Circuit.Moves` is everything one call can do to a circuit, and `Circuit.Accounted`
what its counters are: the probes in flight are the outstanding permits of the present
epoch, and the two streaks are read off the outcomes of that epoch.  A permit of an
earlier epoch carries another generation as long as the generations do not wrap
(`Circuit.Fresh`), which is all that keeps a late completion from counting.
-/
import SlotsGame.Wallet.Circuit

namespace SlotsGame.Wallet

open SlotsGame.Rgs SlotsGame.Theory

set_option autoImplicit false

/-! ## One operation of the breaker -/

namespace CircuitBreaker

variable {breaker : CircuitBreaker} {permit : CircuitPermit} {now : Time}

theorem acquire_closed (closed : breaker.state = .closed) :
    breaker.acquire now = (some { generation := breaker.generation, state := .closed }, breaker) := by
  simp [acquire, closed]

/-- The first probe: the open period is over. -/
theorem acquire_elapsed (opened : breaker.state = .opened) (elapsed : breaker.Elapsed now)
    (room : 1 ≤ breaker.config.halfOpenMaxInFlight) :
    breaker.acquire now =
      (some { generation := breaker.generation + 1, state := .halfOpen },
        { breaker with
          state := .halfOpen, generation := breaker.generation + 1
          consecutiveFailures := 0, consecutiveSuccess := 0, halfOpenInFlight := 1 }) := by
  have full : ¬ breaker.config.halfOpenMaxInFlight ≤ 0 := by omega
  simp [acquire, opened, elapsed, transition, full]

theorem acquire_opened (opened : breaker.state = .opened) (waits : ¬ breaker.Elapsed now) :
    breaker.acquire now = (none, breaker) := by
  simp [acquire, opened, waits]

theorem acquire_probe (probing : breaker.state = .halfOpen)
    (room : breaker.halfOpenInFlight < breaker.config.halfOpenMaxInFlight) :
    breaker.acquire now =
      (some { generation := breaker.generation, state := .halfOpen },
        { breaker with halfOpenInFlight := breaker.halfOpenInFlight + 1 }) := by
  simp [acquire, probing, room]

theorem acquire_full (probing : breaker.state = .halfOpen)
    (full : breaker.config.halfOpenMaxInFlight ≤ breaker.halfOpenInFlight) :
    breaker.acquire now = (none, breaker) := by
  simp [acquire, probing, full]

/-- A permit of another generation. -/
theorem complete_stale (stale : permit.generation ≠ breaker.generation) (success : Bool) :
    breaker.complete permit success now = breaker := by
  simp [complete, stale]

theorem cancel_stale (stale : permit.generation ≠ breaker.generation) :
    breaker.cancel permit = breaker := by
  simp [cancel, stale]

end CircuitBreaker

/-! ## What one call can do -/

namespace Circuit

/-- Everything a call can do, on a circuit whose permits of earlier epochs are of
another generation. -/
inductive Moves (circuit : Circuit) : CircuitCall → Circuit → Prop
  | refuse (now : Time)
      (shut : (circuit.breaker.state = .opened ∧ ¬ circuit.breaker.Elapsed now) ∨
        (circuit.breaker.state = .halfOpen ∧
          circuit.breaker.config.halfOpenMaxInFlight ≤ circuit.breaker.halfOpenInFlight)) :
      Moves circuit (.acquire now) circuit
  | admitted (now : Time) (closed : circuit.breaker.state = .closed) :
      Moves circuit (.acquire now)
        { circuit with
          permits := circuit.permits ++
            [{ permit := { generation := circuit.breaker.generation, state := .closed }
               once := 0, epoch := circuit.epoch, verdict := none }] }
  | probe (now : Time) (probing : circuit.breaker.state = .halfOpen)
      (room : circuit.breaker.halfOpenInFlight < circuit.breaker.config.halfOpenMaxInFlight) :
      Moves circuit (.acquire now)
        { circuit with
          breaker := { circuit.breaker with
            halfOpenInFlight := circuit.breaker.halfOpenInFlight + 1 }
          permits := circuit.permits ++
            [{ permit := { generation := circuit.breaker.generation, state := .halfOpen }
               once := 0, epoch := circuit.epoch, verdict := none }] }
  | firstProbe (now : Time) (opened : circuit.breaker.state = .opened)
      (elapsed : circuit.breaker.Elapsed now) :
      Moves circuit (.acquire now)
        { breaker := { circuit.breaker with
            state := .halfOpen, generation := circuit.breaker.generation + 1
            consecutiveFailures := 0, consecutiveSuccess := 0, halfOpenInFlight := 1 }
          permits := circuit.permits ++
            [{ permit := { generation := circuit.breaker.generation + 1, state := .halfOpen }
               once := 0, epoch := circuit.epoch + 1, verdict := none }]
          epoch := circuit.epoch + 1, outcomes := [] }
  | absent (call : CircuitCall) (id : Nat) (missing : circuit.permits[id]? = none) :
      Moves circuit call circuit
  | ignored (call : CircuitCall) (id : Nat) (issued : Issued) (verdict : Option Bool)
      (present : circuit.permits[id]? = some issued)
      (late : (issued.once ≠ 0 ∧ verdict = issued.verdict) ∨ issued.epoch ≠ circuit.epoch ∨
        (call = .cancel id ∧ circuit.breaker.state = .closed)) :
      Moves circuit call (circuit.mark id issued verdict)
  | cancelled (id : Nat) (issued : Issued) (present : circuit.permits[id]? = some issued)
      (live : issued.once = 0 ∧ issued.epoch = circuit.epoch)
      (probing : circuit.breaker.state = .halfOpen) :
      Moves circuit (.cancel id)
        { circuit.mark id issued none with
          breaker := { circuit.breaker with
            halfOpenInFlight := circuit.breaker.halfOpenInFlight - 1 } }
  | succeeded (id : Nat) (issued : Issued) (now : Time)
      (present : circuit.permits[id]? = some issued)
      (live : issued.once = 0 ∧ issued.epoch = circuit.epoch)
      (closed : circuit.breaker.state = .closed) :
      Moves circuit (.complete id true now)
        { circuit.mark id issued (some true) with
          breaker := { circuit.breaker with consecutiveFailures := 0 }
          outcomes := true :: circuit.outcomes }
  | failed (id : Nat) (issued : Issued) (now : Time)
      (present : circuit.permits[id]? = some issued)
      (live : issued.once = 0 ∧ issued.epoch = circuit.epoch)
      (closed : circuit.breaker.state = .closed)
      (below : circuit.breaker.consecutiveFailures + 1 < circuit.breaker.config.failureThreshold) :
      Moves circuit (.complete id false now)
        { circuit.mark id issued (some false) with
          breaker := { circuit.breaker with
            consecutiveFailures := circuit.breaker.consecutiveFailures + 1 }
          outcomes := false :: circuit.outcomes }
  | tripped (id : Nat) (issued : Issued) (now : Time)
      (present : circuit.permits[id]? = some issued)
      (live : issued.once = 0 ∧ issued.epoch = circuit.epoch)
      (tripping : circuit.breaker.state = .halfOpen ∨ (circuit.breaker.state = .closed ∧
        circuit.breaker.config.failureThreshold ≤ circuit.breaker.consecutiveFailures + 1)) :
      Moves circuit (.complete id false now)
        { circuit.mark id issued (some false) with
          breaker := { circuit.breaker with
            state := .opened, generation := circuit.breaker.generation + 1, openedAt := now
            consecutiveFailures := 0, consecutiveSuccess := 0, halfOpenInFlight := 0 }
          epoch := circuit.epoch + 1, outcomes := [] }
  | probed (id : Nat) (issued : Issued) (now : Time)
      (present : circuit.permits[id]? = some issued)
      (live : issued.once = 0 ∧ issued.epoch = circuit.epoch)
      (probing : circuit.breaker.state = .halfOpen)
      (below : circuit.breaker.consecutiveSuccess + 1 < circuit.breaker.config.successThreshold) :
      Moves circuit (.complete id true now)
        { circuit.mark id issued (some true) with
          breaker := { circuit.breaker with
            halfOpenInFlight := circuit.breaker.halfOpenInFlight - 1
            consecutiveSuccess := circuit.breaker.consecutiveSuccess + 1 }
          outcomes := true :: circuit.outcomes }
  | recovered (id : Nat) (issued : Issued) (now : Time)
      (present : circuit.permits[id]? = some issued)
      (live : issued.once = 0 ∧ issued.epoch = circuit.epoch)
      (probing : circuit.breaker.state = .halfOpen)
      (reached : circuit.breaker.config.successThreshold ≤ circuit.breaker.consecutiveSuccess + 1) :
      Moves circuit (.complete id true now)
        { circuit.mark id issued (some true) with
          breaker := { circuit.breaker with
            state := .closed, generation := circuit.breaker.generation + 1
            consecutiveFailures := 0, consecutiveSuccess := 0, halfOpenInFlight := 0 }
          epoch := circuit.epoch + 1, outcomes := [] }

/-- A permit that a breaker of this epoch and state has handed out. -/
structure Tagged (epoch : Nat) (state : CircuitState) (issued : Issued) : Prop where
  generation : issued.permit.generation = UInt64.ofNat (issued.epoch + 1)
  earlier : issued.epoch ≤ epoch
  grantable : issued.permit.state ≠ .opened
  held : issued.epoch = epoch → issued.permit.state = state
  blank : issued.once = 0 → issued.verdict = none

/-- What the fields of a circuit are at any point of a run. -/
structure Accounted (circuit : Circuit) : Prop where
  valid : circuit.breaker.config.Valid
  generation : circuit.breaker.generation = UInt64.ofNat (circuit.epoch + 1)
  tagged : ∀ issued ∈ circuit.permits, Tagged circuit.epoch circuit.breaker.state issued
  probes : circuit.breaker.halfOpenInFlight =
    if circuit.breaker.state = .halfOpen then (circuit.outstanding : Int) else 0
  bounded : circuit.breaker.halfOpenInFlight ≤ circuit.breaker.config.halfOpenMaxInFlight
  failing : circuit.breaker.state = .closed →
    circuit.breaker.consecutiveFailures = (circuit.outcomes.takeWhile fun ok => !ok).length ∧
      circuit.breaker.consecutiveFailures < circuit.breaker.config.failureThreshold
  succeeding : circuit.breaker.state = .halfOpen →
    (∀ ok ∈ circuit.outcomes, ok = true) ∧
      circuit.breaker.consecutiveSuccess = circuit.outcomes.length ∧
      circuit.breaker.consecutiveSuccess < circuit.breaker.config.successThreshold ∧
      circuit.breaker.consecutiveSuccess =
        circuit.permits.countP (Issued.succeeded circuit.epoch)

variable {circuit : Circuit} {id : Nat} {issued : Issued} {now : Time}

/-- Two generations less than 2^64 changes apart are equal only if they are one. -/
theorem generation_inj {earlier later : Nat} (ordered : earlier ≤ later)
    (close : later < earlier + 2 ^ 64)
    (same : UInt64.ofNat (earlier + 1) = UInt64.ofNat (later + 1)) : earlier = later := by
  have wrapped := congrArg UInt64.toNat same
  simp only [UInt64.toNat_ofNat'] at wrapped
  omega

/-- An unsettled permit is of the present generation only if it is of the present epoch. -/
theorem Accounted.generation_iff (accounted : circuit.Accounted) (fresh : circuit.Fresh)
    (member : issued ∈ circuit.permits) (unsettled : issued.once = 0) :
    issued.permit.generation = circuit.breaker.generation ↔ issued.epoch = circuit.epoch := by
  have tagged := accounted.tagged issued member
  rw [tagged.generation, accounted.generation]
  constructor
  · intro same
    exact generation_inj tagged.earlier (fresh issued member unsettled) same
  · intro same
    rw [same]

theorem become_same {breaker : CircuitBreaker} (same : breaker.state = circuit.breaker.state) :
    circuit.become breaker = { circuit with breaker := breaker } := by
  rw [become, if_pos same]

theorem become_ne {breaker : CircuitBreaker} (changes : breaker.state ≠ circuit.breaker.state) :
    circuit.become breaker =
      { circuit with breaker := breaker, epoch := circuit.epoch + 1, outcomes := [] } := by
  rw [become, if_neg changes]

theorem moves_acquire (valid : circuit.breaker.config.Valid) :
    circuit.Moves (.acquire now) (circuit.acquire now).2 := by
  cases state : circuit.breaker.state with
  | closed =>
      rw [acquire, CircuitBreaker.acquire_closed state, become_same (by rfl)]
      exact .admitted now state
  | opened =>
      by_cases elapsed : circuit.breaker.Elapsed now
      · rw [acquire, CircuitBreaker.acquire_elapsed state elapsed valid.probes,
          become_ne (by simp [state])]
        exact .firstProbe now state elapsed
      · rw [acquire, CircuitBreaker.acquire_opened state elapsed, become_same (by rfl)]
        exact .refuse now (.inl ⟨state, elapsed⟩)
  | halfOpen =>
      by_cases room : circuit.breaker.halfOpenInFlight < circuit.breaker.config.halfOpenMaxInFlight
      · rw [acquire, CircuitBreaker.acquire_probe state room, become_same (by rfl)]
        exact .probe now state room
      · rw [acquire, CircuitBreaker.acquire_full state (Int.not_lt.mp room), become_same (by rfl)]
        exact .refuse now (.inr ⟨state, Int.not_lt.mp room⟩)

theorem settle_some (present : circuit.permits[id]? = some issued) (unsettled : issued.once = 0)
    (first : Issued → Circuit) : circuit.settle id first = first issued := by
  simp only [settle, present, unsettled, if_true]

theorem settle_again (present : circuit.permits[id]? = some issued) (settled : issued.once ≠ 0)
    (first : Issued → Circuit) :
    circuit.settle id first = circuit.mark id issued issued.verdict := by
  simp only [settle, present, if_neg settled]

theorem settle_none (missing : circuit.permits[id]? = none) (first : Issued → Circuit) :
    circuit.settle id first = circuit := by
  simp only [settle, missing]

/-- The completion of a live permit. -/
theorem moves_live (accounted : circuit.Accounted) (present : circuit.permits[id]? = some issued)
    (live : issued.once = 0 ∧ issued.epoch = circuit.epoch) (success : Bool) :
    circuit.Moves (.complete id success now) (circuit.complete id success now) := by
  have tagged := accounted.tagged issued (List.mem_of_getElem? present)
  have current : issued.permit.generation = circuit.breaker.generation := by
    rw [tagged.generation, live.2, accounted.generation]
  have state := tagged.held live.2
  rw [complete, settle_some present live.1]
  have counted : issued.epoch = (circuit.mark id issued (some success)).epoch := live.2
  simp only [if_pos counted]
  show circuit.Moves _ (become _ (circuit.breaker.complete issued.permit success now))
  cases was : circuit.breaker.state with
  | closed =>
      cases success with
      | true =>
          have done : circuit.breaker.complete issued.permit true now =
              { circuit.breaker with consecutiveFailures := 0 } := by
            simp [CircuitBreaker.complete, current, state, was]
          rw [done, become_same (by rfl)]
          exact .succeeded id issued now present live was
      | false =>
          by_cases below : circuit.breaker.consecutiveFailures + 1 <
              circuit.breaker.config.failureThreshold
          · have done : circuit.breaker.complete issued.permit false now =
                { circuit.breaker with
                  consecutiveFailures := circuit.breaker.consecutiveFailures + 1 } := by
              simp [CircuitBreaker.complete, current, state, was, Int.not_le.mpr below]
            rw [done, become_same (by rfl)]
            exact .failed id issued now present live was below
          · have reached := Int.not_lt.mp below
            have done : circuit.breaker.complete issued.permit false now =
                { circuit.breaker with
                  state := .opened, generation := circuit.breaker.generation + 1, openedAt := now
                  consecutiveFailures := 0, consecutiveSuccess := 0, halfOpenInFlight := 0 } := by
              simp [CircuitBreaker.complete, current, state, was, reached, CircuitBreaker.transition]
            rw [done, become_ne (by simp [mark, was])]
            exact .tripped id issued now present live (.inr ⟨was, reached⟩)
  | opened =>
      rw [was] at state
      exact absurd state tagged.grantable
  | halfOpen =>
      cases success with
      | true =>
          by_cases below : circuit.breaker.consecutiveSuccess + 1 <
              circuit.breaker.config.successThreshold
          · have done : circuit.breaker.complete issued.permit true now =
                { circuit.breaker with
                  halfOpenInFlight := circuit.breaker.halfOpenInFlight - 1
                  consecutiveSuccess := circuit.breaker.consecutiveSuccess + 1 } := by
              simp [CircuitBreaker.complete, current, state, was, Int.not_le.mpr below]
            rw [done, become_same (by rfl)]
            exact .probed id issued now present live was below
          · have reached := Int.not_lt.mp below
            have done : circuit.breaker.complete issued.permit true now =
                { circuit.breaker with
                  state := .closed, generation := circuit.breaker.generation + 1
                  consecutiveFailures := 0, consecutiveSuccess := 0, halfOpenInFlight := 0 } := by
              simp [CircuitBreaker.complete, current, state, was, reached, CircuitBreaker.transition]
            rw [done, become_ne (by simp [mark, was])]
            exact .recovered id issued now present live was reached
      | false =>
          have done : circuit.breaker.complete issued.permit false now =
              { circuit.breaker with
                state := .opened, generation := circuit.breaker.generation + 1, openedAt := now
                consecutiveFailures := 0, consecutiveSuccess := 0, halfOpenInFlight := 0 } := by
            simp [CircuitBreaker.complete, current, state, was, CircuitBreaker.transition]
          rw [done, become_ne (by simp [mark, was])]
          exact .tripped id issued now present live (.inl was)

theorem moves_complete (accounted : circuit.Accounted) (fresh : circuit.Fresh) (success : Bool) :
    circuit.Moves (.complete id success now) (circuit.complete id success now) := by
  cases present : circuit.permits[id]? with
  | none =>
      rw [complete, settle_none present]
      exact .absent _ id present
  | some issued =>
      have member := List.mem_of_getElem? present
      by_cases unsettled : issued.once = 0
      · by_cases current : issued.epoch = circuit.epoch
        · exact moves_live accounted present ⟨unsettled, current⟩ success
        · have stale : issued.permit.generation ≠ circuit.breaker.generation :=
            fun same => current ((accounted.generation_iff fresh member unsettled).mp same)
          have elsewhere : ¬ issued.epoch = (circuit.mark id issued (some success)).epoch := current
          rw [complete, settle_some present unsettled]
          simp only [if_neg elsewhere]
          show circuit.Moves _ (become _ (circuit.breaker.complete issued.permit success now))
          rw [CircuitBreaker.complete_stale stale, become_same (by rfl)]
          exact .ignored _ id issued _ present (.inr (.inl current))
      · rw [complete, settle_again present unsettled]
        exact .ignored _ id issued _ present (.inl ⟨unsettled, rfl⟩)

theorem moves_cancel (accounted : circuit.Accounted) (fresh : circuit.Fresh) :
    circuit.Moves (.cancel id) (circuit.cancel id) := by
  cases present : circuit.permits[id]? with
  | none =>
      rw [cancel, settle_none present]
      exact .absent _ id present
  | some issued =>
      have member := List.mem_of_getElem? present
      by_cases unsettled : issued.once = 0
      · rw [cancel, settle_some present unsettled]
        show circuit.Moves _ (become _ (circuit.breaker.cancel issued.permit))
        by_cases current : issued.epoch = circuit.epoch
        · have tagged := accounted.tagged issued member
          have generation := (accounted.generation_iff fresh member unsettled).mpr current
          have state := tagged.held current
          cases was : circuit.breaker.state with
          | closed =>
              have done : circuit.breaker.cancel issued.permit = circuit.breaker := by
                simp [CircuitBreaker.cancel, was]
              rw [done, become_same (by rfl)]
              exact .ignored _ id issued _ present (.inr (.inr ⟨rfl, was⟩))
          | opened =>
              rw [was] at state
              exact absurd state tagged.grantable
          | halfOpen =>
              have done : circuit.breaker.cancel issued.permit =
                  { circuit.breaker with
                    halfOpenInFlight := circuit.breaker.halfOpenInFlight - 1 } := by
                simp [CircuitBreaker.cancel, generation, state, was]
              rw [done, become_same (by rfl)]
              exact .cancelled id issued present ⟨unsettled, current⟩ was
        · have stale : issued.permit.generation ≠ circuit.breaker.generation :=
            fun same => current ((accounted.generation_iff fresh member unsettled).mp same)
          rw [CircuitBreaker.cancel_stale stale, become_same (by rfl)]
          exact .ignored _ id issued _ present (.inr (.inl current))
      · rw [cancel, settle_again present unsettled]
        exact .ignored _ id issued _ present (.inl ⟨unsettled, rfl⟩)

/-- Every call is one of the moves. -/
theorem moves (accounted : circuit.Accounted) (fresh : circuit.Fresh) (call : CircuitCall) :
    circuit.Moves call (circuit.call call) := by
  cases call with
  | acquire now => exact moves_acquire accounted.valid
  | complete id success now => exact moves_complete accounted fresh success
  | cancel id => exact moves_cancel accounted fresh

/-! ## What every move keeps -/

theorem outstanding_mark (present : circuit.permits[id]? = some issued) (verdict : Option Bool)
    (epoch : Nat) :
    (circuit.mark id issued verdict).permits.countP (Issued.outstanding epoch) +
        (if issued.outstanding epoch then 1 else 0) =
      circuit.permits.countP (Issued.outstanding epoch) := by
  have moved := countP_set_add (Issued.outstanding epoch)
    { issued with once := issued.once + 1, verdict := verdict } present
  have settled : Issued.outstanding epoch
      { issued with once := issued.once + 1, verdict := verdict } = false := by
    simp [Issued.outstanding]
  rw [settled] at moved
  exact moved

/-- The permit that is settled was outstanding. -/
theorem outstanding_live (present : circuit.permits[id]? = some issued)
    (live : issued.once = 0 ∧ issued.epoch = circuit.epoch) (verdict : Option Bool) :
    (circuit.mark id issued verdict).outstanding + 1 = circuit.outstanding := by
  have outstanding : issued.outstanding circuit.epoch = true := by
    simp [Issued.outstanding, live.1, live.2]
  have moved := outstanding_mark present verdict circuit.epoch
  rw [outstanding] at moved
  exact moved

/-- How a settlement moves the successes of an epoch. -/
theorem succeeded_mark (present : circuit.permits[id]? = some issued) (verdict : Option Bool)
    (epoch : Nat) :
    (circuit.mark id issued verdict).permits.countP (Issued.succeeded epoch) +
        (if issued.succeeded epoch then 1 else 0) =
      circuit.permits.countP (Issued.succeeded epoch) +
        (if verdict = some true ∧ issued.epoch = epoch then 1 else 0) := by
  have moved := countP_set_add (Issued.succeeded epoch)
    { issued with once := issued.once + 1, verdict := verdict } present
  simpa [Issued.succeeded, mark] using moved

/-- A permit that was not completed with success was not counted. -/
theorem Accounted.unsucceeded (accounted : circuit.Accounted)
    (present : circuit.permits[id]? = some issued) (unsettled : issued.once = 0) (epoch : Nat) :
    issued.succeeded epoch = false := by
  have blank := (accounted.tagged issued (List.mem_of_getElem? present)).blank unsettled
  simp [Issued.succeeded, blank]

/-- The successes of the present epoch after the first settlement of a live permit. -/
theorem Accounted.succeeded_live (accounted : circuit.Accounted)
    (present : circuit.permits[id]? = some issued)
    (live : issued.once = 0 ∧ issued.epoch = circuit.epoch) (verdict : Option Bool) :
    (circuit.mark id issued verdict).permits.countP (Issued.succeeded circuit.epoch) =
      circuit.permits.countP (Issued.succeeded circuit.epoch) +
        (if verdict = some true then 1 else 0) := by
  have moved := succeeded_mark present verdict circuit.epoch
  rw [accounted.unsucceeded present live.1] at moved
  simpa [live.2] using moved

/-- No permit is of an epoch that has not begun. -/
theorem Accounted.none_ahead (accounted : circuit.Accounted) {later : Nat}
    (ahead : circuit.epoch < later) :
    circuit.permits.countP (Issued.outstanding later) = 0 ∧
      circuit.permits.countP (Issued.succeeded later) = 0 := by
  have other : ∀ issued ∈ circuit.permits, issued.epoch ≠ later := by
    intro issued member
    have earlier := (accounted.tagged issued member).earlier
    omega
  constructor
  · rw [List.countP_eq_zero]
    intro issued member
    simp [Issued.outstanding, other issued member]
  · rw [List.countP_eq_zero]
    intro issued member
    simp [Issued.succeeded, other issued member]

theorem Accounted.tagged_mark (accounted : circuit.Accounted)
    (present : circuit.permits[id]? = some issued) (verdict : Option Bool) :
    ∀ other ∈ (circuit.mark id issued verdict).permits,
      Tagged circuit.epoch circuit.breaker.state other := by
  intro other member
  rcases List.mem_or_eq_of_mem_set member with there | rfl
  · exact accounted.tagged other there
  · have tagged := accounted.tagged issued (List.mem_of_getElem? present)
    exact { tagged with blank := fun unsettled => absurd unsettled (Nat.succ_ne_zero _) }

/-- The tags after a change of state: every permit is of an earlier epoch. -/
theorem Tagged.ahead {epoch : Nat} {state : CircuitState} (tagged : Tagged epoch state issued)
    (next : CircuitState) : Tagged (epoch + 1) next issued :=
  { tagged with
    earlier := Nat.le_succ_of_le tagged.earlier
    held := fun same => absurd tagged.earlier (by omega) }

theorem Accounted.generation_next (accounted : circuit.Accounted) :
    circuit.breaker.generation + 1 = UInt64.ofNat (circuit.epoch + 1 + 1) := by
  rw [accounted.generation]
  simp [UInt64.ofNat_add]

/-- A grant in the present epoch. -/
theorem Accounted.tagged_push (accounted : circuit.Accounted) {state : CircuitState}
    (was : circuit.breaker.state = state) (shut : state ≠ .opened) :
    ∀ other ∈ circuit.permits ++
        [{ permit := { generation := circuit.breaker.generation, state := state }
           once := 0, epoch := circuit.epoch, verdict := none }],
      Tagged circuit.epoch circuit.breaker.state other := by
  intro other member
  rcases List.mem_append.mp member with there | here
  · exact accounted.tagged other there
  · cases List.mem_singleton.mp here
    exact ⟨accounted.generation, Nat.le_refl _, shut, fun _ => was.symm, fun _ => rfl⟩

/-- What a change of state by the settlement of a permit leaves. -/
theorem Accounted.settled (accounted : circuit.Accounted)
    (present : circuit.permits[id]? = some issued) (verdict : Option Bool) {next : CircuitState}
    (settles : next ≠ .halfOpen) (openedAt : Time) :
    Accounted { circuit.mark id issued verdict with
      breaker := { circuit.breaker with
        state := next, generation := circuit.breaker.generation + 1, openedAt := openedAt
        consecutiveFailures := 0, consecutiveSuccess := 0, halfOpenInFlight := 0 }
      epoch := circuit.epoch + 1, outcomes := [] } where
  valid := accounted.valid
  generation := accounted.generation_next
  tagged := fun other member => (accounted.tagged_mark present verdict other member).ahead next
  probes := (if_neg settles).symm
  bounded := Int.le_trans Int.one_nonneg accounted.valid.probes
  failing := fun _ => ⟨rfl, accounted.valid.failures⟩
  succeeding := fun probing => absurd probing settles

theorem Accounted.move (accounted : circuit.Accounted) {call : CircuitCall} {after : Circuit}
    (moved : circuit.Moves call after) : after.Accounted := by
  have probes := accounted.probes
  have bounded := accounted.bounded
  cases moved with
  | refuse now shut => exact accounted
  | absent call id missing => exact accounted
  | admitted now closed =>
      refine
        { accounted with
          tagged := accounted.tagged_push closed CircuitState.noConfusion
          probes := by simpa only [closed, if_false, reduceCtorEq] using probes
          succeeding := fun probing => ?_ }
      rw [show circuit.breaker.state = .halfOpen from probing] at closed
      cases closed
  | probe now probing room =>
      obtain ⟨all, streak, below, counted⟩ := accounted.succeeding probing
      refine
        { accounted with
          tagged := accounted.tagged_push probing CircuitState.noConfusion
          probes := ?_, bounded := room
          succeeding := fun _ => ⟨all, streak, below, ?_⟩ }
      · simp only [probing, if_true] at probes ⊢
        simp only [outstanding, countP_push, Issued.outstanding, beq_self_eq_true, Bool.and_self,
          if_true] at probes ⊢
        omega
      · rw [countP_push]
        exact counted
  | firstProbe now opened elapsed =>
      obtain ⟨none, unsucceeded⟩ := accounted.none_ahead (Nat.lt_succ_self circuit.epoch)
      refine
        { valid := accounted.valid, generation := accounted.generation_next
          tagged := ?_, probes := ?_, bounded := accounted.valid.probes
          failing := fun closed => by cases closed
          succeeding := fun _ => ⟨fun _ member => (by cases member), rfl, accounted.valid.successes, ?_⟩ }
      · intro other member
        rcases List.mem_append.mp member with there | here
        · exact (accounted.tagged other there).ahead .halfOpen
        · cases List.mem_singleton.mp here
          exact ⟨accounted.generation_next, Nat.le_refl _, CircuitState.noConfusion, fun _ => rfl,
            fun _ => rfl⟩
      · simp only [if_true, outstanding, countP_push, none]
        simp [Issued.outstanding]
      · rw [countP_push, unsucceeded]
        rfl
  | ignored call id issued verdict present late =>
      have marked : (circuit.mark id issued verdict).breaker.halfOpenInFlight =
          if circuit.breaker.state = .halfOpen then
            ((circuit.mark id issued verdict).outstanding : Int) else 0 := by
        show circuit.breaker.halfOpenInFlight = _
        rw [probes]
        split
        · next probing =>
          have unchanged : issued.outstanding circuit.epoch = false := by
            rcases late with ⟨settled, _⟩ | elsewhere | ⟨_, closed⟩
            · simp [Issued.outstanding, settled]
            · simp [Issued.outstanding, elsewhere]
            · rw [probing] at closed
              cases closed
          have moved := outstanding_mark present verdict circuit.epoch
          rw [unchanged] at moved
          exact congrArg Int.ofNat moved.symm
        · rfl
      refine
        { accounted with
          tagged := accounted.tagged_mark present verdict, probes := marked
          succeeding := fun probing => ?_ }
      obtain ⟨all, streak, below, counted⟩ := accounted.succeeding probing
      refine ⟨all, streak, below, ?_⟩
      have moved := succeeded_mark present verdict circuit.epoch
      have unchanged : (if issued.succeeded circuit.epoch then 1 else 0) =
          if verdict = some true ∧ issued.epoch = circuit.epoch then 1 else 0 := by
        rcases late with ⟨_, rfl⟩ | elsewhere | ⟨_, closed⟩
        · simp [Issued.succeeded]
        · simp [Issued.succeeded, elsewhere]
        · rw [show circuit.breaker.state = .halfOpen from probing] at closed
          cases closed
      rw [unchanged] at moved
      exact counted.trans (congrArg Int.ofNat (Nat.add_right_cancel moved).symm)
  | cancelled id issued present live probing =>
      have counted := outstanding_live present live none
      simp only [probing, if_true] at probes
      refine
        { accounted with
          tagged := accounted.tagged_mark present none, probes := ?_, bounded := ?_
          succeeding := fun _ => ?_ }
      · show circuit.breaker.halfOpenInFlight - 1 =
          if circuit.breaker.state = .halfOpen then
            ((circuit.mark id issued none).outstanding : Int) else 0
        rw [if_pos probing]
        omega
      · show circuit.breaker.halfOpenInFlight - 1 ≤ circuit.breaker.config.halfOpenMaxInFlight
        omega
      · obtain ⟨all, streak, below, counted⟩ := accounted.succeeding probing
        refine ⟨all, streak, below, ?_⟩
        show circuit.breaker.consecutiveSuccess =
          (circuit.mark id issued none).permits.countP (Issued.succeeded circuit.epoch)
        rw [accounted.succeeded_live present live none]
        exact counted
  | succeeded id issued now present live closed =>
      refine
        { accounted with
          tagged := accounted.tagged_mark present (some true)
          probes := by simpa only [closed, if_false, reduceCtorEq] using probes
          failing := fun _ => ⟨rfl, accounted.valid.failures⟩
          succeeding := fun probing => ?_ }
      rw [show circuit.breaker.state = .halfOpen from probing] at closed
      cases closed
  | failed id issued now present live closed below =>
      refine
        { accounted with
          tagged := accounted.tagged_mark present (some false)
          probes := by simpa only [closed, if_false, reduceCtorEq] using probes
          failing := fun _ => ⟨?_, below⟩
          succeeding := fun probing => ?_ }
      · show circuit.breaker.consecutiveFailures + 1 =
          ((false :: circuit.outcomes).takeWhile fun ok => !ok).length
        rw [List.takeWhile_cons, if_pos (by rfl), (accounted.failing closed).1, List.length_cons,
          Int.natCast_succ]
      · rw [show circuit.breaker.state = .halfOpen from probing] at closed
        cases closed
  | tripped id issued now present live tripping =>
      exact accounted.settled present (some false) CircuitState.noConfusion now
  | probed id issued now present live probing below =>
      have counted := outstanding_live present live (some true)
      simp only [probing, if_true] at probes
      obtain ⟨all, streak, _, succeeded⟩ := accounted.succeeding probing
      refine
        { accounted with
          tagged := accounted.tagged_mark present (some true), probes := ?_, bounded := ?_
          failing := fun closed => ?_
          succeeding := fun _ => ⟨?_, ?_, below, ?_⟩ }
      · show circuit.breaker.halfOpenInFlight - 1 =
          if circuit.breaker.state = .halfOpen then
            ((circuit.mark id issued (some true)).outstanding : Int) else 0
        rw [if_pos probing]
        omega
      · show circuit.breaker.halfOpenInFlight - 1 ≤ circuit.breaker.config.halfOpenMaxInFlight
        omega
      · rw [show circuit.breaker.state = .closed from closed] at probing
        cases probing
      · intro ok member
        rcases List.mem_cons.mp member with rfl | there
        · rfl
        · exact all ok there
      · show circuit.breaker.consecutiveSuccess + 1 = ((true :: circuit.outcomes).length : Int)
        rw [streak, List.length_cons, Int.natCast_succ]
      · show circuit.breaker.consecutiveSuccess + 1 =
          (circuit.mark id issued (some true)).permits.countP (Issued.succeeded circuit.epoch)
        rw [accounted.succeeded_live present live (some true), succeeded]
        rfl
  | recovered id issued now present live probing reached =>
      exact accounted.settled present (some true) CircuitState.noConfusion _

theorem accounted_new {config : CircuitConfig} (valid : config.Valid) : (new config).Accounted where
  valid := valid
  generation := rfl
  tagged := fun _ member => by cases member
  probes := rfl
  bounded := Int.le_trans Int.one_nonneg valid.probes
  failing := fun _ => ⟨rfl, valid.failures⟩
  succeeding := fun probing => by cases probing

theorem fresh_new (config : CircuitConfig) : (new config).Fresh :=
  fun _ member => by cases member

theorem Run.next {config : CircuitConfig} (run : Run config circuit) (call : CircuitCall)
    (fresh : (circuit.call call).Fresh) : Run config (circuit.call call) :=
  Reachable.next run ⟨call, rfl, fresh⟩

theorem Moves.config {call : CircuitCall} {after : Circuit} (moved : circuit.Moves call after) :
    after.breaker.config = circuit.breaker.config := by
  cases moved <;> rfl

/-- Every circuit of a run is accounted for, and keeps the configuration. -/
theorem Run.accounted {config : CircuitConfig} (valid : config.Valid) (run : Run config circuit) :
    circuit.Accounted ∧ circuit.Fresh ∧ circuit.breaker.config = config := by
  refine Reachable.invariant
    (fun circuit => circuit.Accounted ∧ circuit.Fresh ∧ circuit.breaker.config = config) ?_ ?_ run
  · rintro _ rfl
    exact ⟨accounted_new valid, fresh_new config, rfl⟩
  · rintro state _ _ ⟨accounted, fresh, same⟩ ⟨call, rfl, kept⟩
    have moved := moves accounted fresh call
    exact ⟨accounted.move moved, kept, moved.config.trans same⟩

/-! ## The breaker of a run -/

/-- The streak that opens a closed breaker: the last outcomes of its epoch, newest first. -/
theorem replicate_prefix {outcomes : List Bool} {count : Nat}
    (long : count ≤ (outcomes.takeWhile fun ok => !ok).length) :
    List.replicate count false <+: outcomes := by
  induction count generalizing outcomes with
  | zero => exact List.nil_prefix
  | succ count ih =>
      cases outcomes with
      | nil => simp at long
      | cons newest older =>
          cases newest with
          | true => simp at long
          | false =>
              rw [List.replicate_succ]
              have rest : count ≤ (older.takeWhile fun ok => !ok).length := by
                simpa using long
              exact (List.prefix_cons_inj false).mpr (ih rest)

/-- A call that opens the breaker. -/
theorem Accounted.opens (accounted : circuit.Accounted) (fresh : circuit.Fresh)
    {call : CircuitCall} (shut : circuit.breaker.state ≠ .opened)
    (opens : (circuit.call call).breaker.state = .opened) :
    ∃ id issued now, call = .complete id false now ∧ circuit.permits[id]? = some issued ∧
      issued.once = 0 ∧ issued.epoch = circuit.epoch ∧
      (circuit.breaker.state = .halfOpen ∨
        (circuit.breaker.state = .closed ∧
          List.replicate circuit.breaker.config.failureThreshold.toNat false <+:
            false :: circuit.outcomes)) := by
  have moved := moves accounted fresh call
  generalize circuit.call call = after at moved opens
  cases moved with
  | tripped id issued now present live tripping =>
      refine ⟨id, issued, now, rfl, present, live.1, live.2, ?_⟩
      rcases tripping with probing | ⟨closed, reached⟩
      · exact .inl probing
      · refine .inr ⟨closed, replicate_prefix ?_⟩
        have streak := (accounted.failing closed).1
        rw [List.takeWhile_cons, if_pos (by rfl), List.length_cons]
        omega
  | firstProbe => cases opens
  | recovered => cases opens
  | _ => exact absurd opens shut

/-- A call that closes the breaker. -/
theorem Accounted.closing (accounted : circuit.Accounted) (fresh : circuit.Fresh)
    {call : CircuitCall} (away : circuit.breaker.state ≠ .closed)
    (closes : (circuit.call call).breaker.state = .closed) :
    ∃ id issued now, call = .complete id true now ∧ circuit.permits[id]? = some issued ∧
      issued.once = 0 ∧ issued.epoch = circuit.epoch ∧ circuit.breaker.state = .halfOpen ∧
      true :: circuit.outcomes =
        List.replicate circuit.breaker.config.successThreshold.toNat true := by
  have moved := moves accounted fresh call
  generalize circuit.call call = after at moved closes
  cases moved with
  | recovered id issued now present live probing reached =>
      obtain ⟨all, streak, below, _⟩ := accounted.succeeding probing
      refine ⟨id, issued, now, rfl, present, live.1, live.2, probing, ?_⟩
      rw [List.eq_replicate_iff]
      refine ⟨by rw [List.length_cons]; omega, ?_⟩
      intro ok member
      rcases List.mem_cons.mp member with rfl | there
      · rfl
      · exact all ok there
  | firstProbe => cases closes
  | tripped => cases closes
  | _ => exact absurd closes away

/-- A permit of an earlier epoch. -/
theorem Accounted.late (accounted : circuit.Accounted) (fresh : circuit.Fresh)
    {call : CircuitCall} (about : call = .cancel id ∨ ∃ success now, call = .complete id success now)
    (present : circuit.permits[id]? = some issued) (earlier : issued.epoch < circuit.epoch) :
    (circuit.call call).breaker = circuit.breaker := by
  have moved := moves accounted fresh call
  generalize circuit.call call = after at moved
  -- a live move is about the permit that is present, which is not of this epoch
  have foreign {other : Nat} {found : Issued} (same : other = id)
      (there : circuit.permits[other]? = some found) (live : found.epoch = circuit.epoch) :
      after.breaker = circuit.breaker := by
    rw [same, present] at there
    cases there
    omega
  cases moved with
  | refuse | absent | ignored => rfl
  | admitted | probe | firstProbe => rcases about with call | ⟨_, _, call⟩ <;> cases call
  | cancelled other found there live =>
      refine foreign ?_ there live.2
      rcases about with call | ⟨_, _, call⟩ <;> cases call
      rfl
  | succeeded other found _ there live | failed other found _ there live
  | tripped other found _ there live | probed other found _ there live
  | recovered other found _ there live =>
      refine foreign ?_ there live.2
      rcases about with call | ⟨_, _, call⟩ <;> cases call
      rfl

/-- With no probe outstanding and the open period over, a caller is let in. -/
theorem Accounted.lets_in (accounted : circuit.Accounted) (idle : circuit.outstanding = 0)
    (elapsed : circuit.breaker.state = .opened → circuit.breaker.Elapsed now) :
    (circuit.acquire now).1 = some circuit.permits.length := by
  cases state : circuit.breaker.state with
  | closed =>
      rw [acquire, CircuitBreaker.acquire_closed state, become_same (by rfl)]
  | opened =>
      rw [acquire, CircuitBreaker.acquire_elapsed state (elapsed state) accounted.valid.probes,
        become_ne (by simp [state])]
  | halfOpen =>
      have probes := accounted.probes
      rw [if_pos state, idle] at probes
      have room : circuit.breaker.halfOpenInFlight < circuit.breaker.config.halfOpenMaxInFlight := by
        have := accounted.valid.probes
        omega
      rw [acquire, CircuitBreaker.acquire_probe state room, become_same (by rfl)]

/-- In every run of acquires, completions and cancellations, at any readings of the
clock, in which no permit outlasts 2^64 changes of state. -/
theorem run_accounted {config : CircuitConfig} (valid : config.Valid) (run : Run config circuit) :
    (circuit.breaker.halfOpenInFlight =
        if circuit.breaker.state = .halfOpen then (circuit.outstanding : Int) else 0) ∧
      0 ≤ circuit.breaker.halfOpenInFlight ∧
      circuit.breaker.halfOpenInFlight ≤ config.halfOpenMaxInFlight ∧
      (∀ id issued, circuit.permits[id]? = some issued → issued.epoch < circuit.epoch →
        (circuit.cancel id).breaker = circuit.breaker ∧
          ∀ success now, (circuit.complete id success now).breaker = circuit.breaker) ∧
      (∀ call, circuit.breaker.state ≠ .opened → (circuit.call call).breaker.state = .opened →
        ∃ id issued now, call = .complete id false now ∧ circuit.permits[id]? = some issued ∧
          issued.once = 0 ∧ issued.epoch = circuit.epoch ∧
          (circuit.breaker.state = .halfOpen ∨
            (circuit.breaker.state = .closed ∧
              List.replicate config.failureThreshold.toNat false <+: false :: circuit.outcomes))) ∧
      (∀ call, circuit.breaker.state ≠ .closed → (circuit.call call).breaker.state = .closed →
        ∃ id issued now, call = .complete id true now ∧ circuit.permits[id]? = some issued ∧
          issued.once = 0 ∧ issued.epoch = circuit.epoch ∧ circuit.breaker.state = .halfOpen ∧
          true :: circuit.outcomes = List.replicate config.successThreshold.toNat true) ∧
      ∀ now, circuit.outstanding = 0 →
        (circuit.breaker.state = .opened → circuit.breaker.Elapsed now) →
        (circuit.acquire now).1 = some circuit.permits.length := by
  obtain ⟨accounted, fresh, rfl⟩ := run.accounted valid
  refine ⟨accounted.probes, ?_, accounted.bounded, ?_, ?_, ?_, ?_⟩
  · rw [accounted.probes]
    split <;> omega
  · intro id issued present earlier
    exact ⟨accounted.late fresh (.inl rfl) present earlier,
      fun success now => accounted.late fresh (.inr ⟨success, now, rfl⟩) present earlier⟩
  · exact fun call shut opens => accounted.opens fresh shut opens
  · exact fun call away closes => accounted.closing fresh away closes
  · exact fun now idle elapsed => accounted.lets_in idle elapsed

/-- One failure opens, one success closes, and a nanosecond is waited. -/
def promptConfig : CircuitConfig :=
  { failureThreshold := 1, successThreshold := 1, openDuration := 1, halfOpenMaxInFlight := 1 }

theorem promptConfig_valid : promptConfig.Valid where
  failures := Int.le_refl 1
  successes := Int.le_refl 1
  probes := Int.le_refl 1
  duration := Int.one_pos

instance (circuit : Circuit) : Decidable circuit.Fresh :=
  inferInstanceAs (Decidable (∀ issued ∈ circuit.permits, _ → _))

/-- A caller failed, and the probe of the next one is out. -/
def probing : Circuit :=
  (((new promptConfig).call (.acquire 0)).call (.complete 0 false 0)).call (.acquire 1)

theorem probing_run : Run promptConfig probing := by
  have start : Run promptConfig (new promptConfig) := Reachable.start rfl
  exact ((start.next (.acquire 0) (by decide)).next (.complete 0 false 0) (by decide)).next
    (.acquire 1) (by decide)

theorem probing_accounted :
    probing.breaker.halfOpenInFlight = 1 ∧ (probing.complete 0 true 1).breaker = probing.breaker := by
  obtain ⟨counted, _, _, late, _⟩ := run_accounted promptConfig_valid probing_run
  exact ⟨counted.trans (by decide), (late 0 _ rfl (by decide)).2 true 1⟩

/-! ## A run in which the generations wrap -/

/-- A closed circuit of a generation, with nothing counted. -/
def resting (permits : List Issued) (epoch : Nat) (generation : UInt64) : Circuit :=
  { breaker := { CircuitBreaker.new promptConfig with generation := generation }
    permits := permits, epoch := epoch, outcomes := [] }

/-- A caller fails, the next one is the probe and succeeds: three changes of state. -/
def lap (granted : Nat) : List CircuitCall :=
  [.acquire 0, .complete granted false 0, .acquire 1, .complete (granted + 1) true 1]

theorem lap_resting (permits : List Issued) (epoch : Nat) (generation : UInt64) :
    (lap permits.length).foldl call (resting permits epoch generation) =
      resting
        (permits ++
          [{ permit := { generation := generation, state := .closed }, once := 1, epoch := epoch
             verdict := some false },
            { permit := { generation := generation + 1 + 1, state := .halfOpen }
              once := 1, epoch := epoch + 2, verdict := some true }])
        (epoch + 3) (generation + 1 + 1 + 1) := by
  have set_last (permits : List Issued) (entry new : Issued) :
      (permits ++ [entry]).set permits.length new = permits ++ [new] := by
    rw [List.set_append_right _ _ (Nat.le_refl _), Nat.sub_self, List.set_cons_zero]
  let failing : Issued :=
    { permit := { generation := generation, state := .closed }, once := 0, epoch := epoch
      verdict := none }
  let probe : Issued :=
    { permit := { generation := generation + 1 + 1, state := .halfOpen }, once := 0
      epoch := epoch + 1 + 1, verdict := none }
  let opened : CircuitBreaker :=
    { CircuitBreaker.new promptConfig with state := .opened, generation := generation + 1 }
  have granted : (resting permits epoch generation).call (.acquire 0) =
      resting (permits ++ [failing]) epoch generation := by
    simp [call, acquire, resting, CircuitBreaker.acquire, CircuitBreaker.new, become, failing]
  let shut : Circuit :=
    { breaker := opened, permits := permits ++ [{ failing with once := 1, verdict := some false }]
      epoch := epoch + 1, outcomes := [] }
  have tripped : (resting (permits ++ [failing]) epoch generation).call
      (.complete permits.length false 0) = shut := by
    simp [call, complete, settle, mark, resting, set_last, failing, opened, shut, become,
      CircuitBreaker.complete, CircuitBreaker.new, CircuitBreaker.transition, promptConfig]
  have probing : shut.call (.acquire 1) =
      { breaker := { opened with
          state := .halfOpen, generation := generation + 1 + 1, halfOpenInFlight := 1 }
        permits := permits ++ [{ failing with once := 1, verdict := some false }] ++ [probe]
        epoch := epoch + 1 + 1, outcomes := [] } := by
    simp [call, acquire, become, opened, probe, shut, CircuitBreaker.acquire, CircuitBreaker.new,
      CircuitBreaker.transition, CircuitBreaker.Elapsed, promptConfig]
  have length : permits.length + 1 = (permits ++ [{ failing with once := 1, verdict := some false }]).length := by simp
  rw [lap, List.foldl_cons, granted, List.foldl_cons, tripped, List.foldl_cons, probing,
    List.foldl_cons, length, List.foldl_nil]
  simp [call, complete, settle, mark, resting, failing, probe, opened, become,
    CircuitBreaker.complete, CircuitBreaker.new, CircuitBreaker.transition, promptConfig]

/-- The calls of so many laps, while the first permit is held. -/
def laps : Nat → List CircuitCall
  | 0 => [.acquire 0]
  | count + 1 => laps count ++ lap (2 * count + 1)

/-- The first permit, which is never settled. -/
def heldPermit : Issued :=
  { permit := { generation := 1, state := .closed }, once := 0, epoch := 0, verdict := none }

theorem laps_resting (count : Nat) :
    ∃ later, later.length = 2 * count ∧
      (laps count).foldl call (new promptConfig) =
        resting (heldPermit :: later) (3 * count) (UInt64.ofNat (3 * count + 1)) := by
  induction count with
  | zero => exact ⟨[], rfl, by decide⟩
  | succ count ih =>
      obtain ⟨later, length, reached⟩ := ih
      rw [laps, List.foldl_append, reached]
      have granted : 2 * count + 1 = (heldPermit :: later).length := by
        rw [List.length_cons, length]
      rw [granted, lap_resting, List.cons_append]
      have generation : UInt64.ofNat (3 * count + 1) + 1 + 1 + 1 =
          UInt64.ofNat (3 * (count + 1) + 1) := by
        rw [show 3 * (count + 1) + 1 = 3 * count + 1 + 1 + 1 + 1 by omega]
        simp only [UInt64.ofNat_add, UInt64.reduceOfNat]
      rw [generation]
      refine ⟨_, ?_, rfl⟩
      rw [List.length_append, length]
      rfl

/-- The permit of the first epoch is still held when its generation comes round again,
and its failure opens the breaker. -/
theorem wrapped_permit :
    ∃ circuit : Circuit, circuit = (laps (2 ^ 64)).foldl call (new promptConfig) ∧
      ∃ issued, circuit.permits[0]? = some issued ∧ issued.epoch < circuit.epoch ∧
        circuit.breaker.state = .closed ∧ (circuit.complete 0 false 0).breaker.state = .opened := by
  obtain ⟨later, _, reached⟩ := laps_resting (2 ^ 64)
  refine ⟨_, rfl, ?_⟩
  rw [reached]
  have wrapped : UInt64.ofNat (3 * 2 ^ 64 + 1) = 1 := by decide
  rw [wrapped]
  refine ⟨_, rfl, ?_, rfl, ?_⟩
  · show 0 < 3 * 2 ^ 64
    omega
  simp [complete, settle, mark, resting, heldPermit, become, CircuitBreaker.complete,
    CircuitBreaker.new, CircuitBreaker.transition, promptConfig]

end Circuit

end SlotsGame.Wallet
