/-
# SlotsGame.Admission.EconomicRuns -- runs of the economic admission

Over a run every charge of a key is covered by its bucket when it is made
(`Holds.affords`), so the window bound of the ideal bucket holds of what is admitted.
Two stores whose buckets have the same available from an instant on answer alike ever
after (`Alike.evaluateAll`): an entry that has run out and a full one are such stores.
-/
import SlotsGame.Admission.Charges

namespace SlotsGame.Admission

open SlotsGame.Theory

set_option autoImplicit false

theorem ServerTime.millis_eq (time : ServerTime) : time.millis = time.micros / 1000 := by
  unfold ServerTime.millis ServerTime.micros
  omega

/-- Requests at instants of the server that do not fall, from one on. -/
def SpendingOrdered (now : Nat) (requests : List Spending) : Prop :=
  (∀ spending ∈ requests, now ≤ spending.time.micros) ∧
    requests.Pairwise fun earlier later => earlier.time.micros ≤ later.time.micros

theorem SpendingOrdered.cons {now : Nat} {spending : Spending} {rest : List Spending}
    (ordered : SpendingOrdered now (spending :: rest)) :
    now ≤ spending.time.micros ∧ SpendingOrdered spending.time.micros rest := by
  obtain ⟨past, sorted⟩ := ordered
  rw [List.pairwise_cons] at sorted
  exact ⟨past spending List.mem_cons_self, sorted.1, sorted.2⟩

namespace EconomicAdmission

variable {admission : EconomicAdmission} (configured : admission.Configured)
variable {keys : Keyspace} {levels : String → TokenLevel ℚ} {spending : Spending}
variable {route : EconomicRouteKeys} {now later : Nat}

/-- The levels at an instant in microseconds. -/
theorem Holds.at_request (holds : admission.Holds keys (now / 1000) levels)
    (past : now ≤ spending.time.micros) : admission.Holds keys spending.time.millis levels := by
  rw [ServerTime.millis_eq]
  exact holds.at_later (Nat.div_le_div_right past)

/-- The three ends of a request. -/
inductive Evaluated (keys : Keyspace) (levels : String → TokenLevel ℚ) (spending : Spending) : Prop
  | uncalled (same : ∃ reply, (∀ keys, admission.evaluate exactly keys spending = (reply, keys)) ∧
      ∀ answer, reply ≠ some (.ok answer))
  | refused (route : EconomicRouteKeys) (called : admission.Called spending route)
      (short : ¬ Covers configured levels route spending)
      (evaluated : admission.evaluate exactly keys spending =
        (some (.ok (refusal configured levels route spending)), keys))
  | admitted (route : EconomicRouteKeys) (called : admission.Called spending route)
      (covers : Covers configured levels route spending)
      (evaluated : admission.evaluate exactly keys spending =
        (some (.ok (1, 0, 0)), chargedKeys configured keys levels route spending))

theorem Holds.evaluated (holds : admission.Holds keys spending.time.millis levels) :
    Evaluated configured keys levels spending := by
  by_cases called : ∃ route, admission.Called spending route
  · obtain ⟨route, called⟩ := called
    have stored := holds spending.operatorID route called.found
    by_cases covers : Covers configured levels route spending
    · exact .admitted route called covers (evaluate_covered configured called stored covers)
    · exact .refused route called covers (evaluate_uncovered configured called stored covers)
  · exact .uncalled (evaluate_not_called (not_exists.mp called))

include configured in
/-- A request leaves buckets. -/
theorem Holds.after_request (holds : admission.Holds keys spending.time.millis levels) :
    ∃ levels, admission.Holds (admission.evaluate exactly keys spending).2 spending.time.millis
      levels := by
  cases holds.evaluated configured with
  | uncalled same =>
      obtain ⟨reply, same, _⟩ := same
      exact ⟨levels, by rw [same]; exact holds⟩
  | refused route called short evaluated => exact ⟨levels, by rw [evaluated]; exact holds⟩
  | admitted route called covers evaluated =>
      exact ⟨_, by rw [evaluated]; exact holds.charged configured called covers⟩

include configured in
/-- A run leaves buckets. -/
theorem Holds.after {requests : List Spending} (holds : admission.Holds keys (now / 1000) levels)
    (ordered : SpendingOrdered now requests) (past : now ≤ later)
    (last : ∀ spending ∈ requests, spending.time.micros ≤ later) :
    ∃ levels, admission.Holds (admission.evaluateAll exactly keys requests).2 (later / 1000)
      levels := by
  induction requests generalizing keys now levels with
  | nil => exact ⟨levels, holds.at_later (Nat.div_le_div_right past)⟩
  | cons spending rest ih =>
      obtain ⟨before, ordered⟩ := ordered.cons
      obtain ⟨levels, holds⟩ := (holds.at_request before).after_request configured
      rw [ServerTime.millis_eq] at holds
      exact ih holds ordered (last spending List.mem_cons_self)
        fun later held => last later (List.mem_cons_of_mem _ held)

/-! ## The window bound -/

/-- What a run charges to a key: the microsecond and the cost of each admission. -/
def charges (admission : EconomicAdmission) (side : Side) (key : String) :
    Keyspace → List Spending → List (Nat × ℚ)
  | _, [] => []
  | keys, spending :: rest =>
      let reply := admission.evaluate exactly keys spending
      let later := charges admission side key reply.2 rest
      if reply.1 = some (.ok (1, 0, 0)) ∧
          (admission.routes spending.operatorID).map (keyOf · side) = some key then
        (spending.time.micros, (spending.cost : ℚ)) :: later
      else later

/-- What is charged from one microsecond to another, both included. -/
def spent (first last : Nat) (charges : List (Nat × ℚ)) : ℚ :=
  (charges.map fun charge => if first ≤ charge.1 ∧ charge.1 ≤ last then charge.2 else 0).sum

/-- A charge at the millisecond at which the script sees it. -/
def inMillis (charge : Nat × ℚ) : ℚ × ℚ := ((charge.1 / 1000 : ℕ), charge.2)

/-- Every charge of a run is covered when it is made. -/
theorem Holds.affords {requests : List Spending} (holds : admission.Holds keys (now / 1000) levels)
    (ordered : SpendingOrdered now requests) {operatorID : String}
    (found : admission.routes operatorID = some route) (side : Side) :
    (bucketOf configured side).Affords (levels (keyOf route side))
      ((charges admission side (keyOf route side) keys requests).map inMillis) := by
  induction requests generalizing keys now levels with
  | nil => trivial
  | cons spending rest ih =>
      obtain ⟨past, ordered⟩ := ordered.cons
      have holds := holds.at_request past
      have here := ServerTime.millis_eq spending.time
      simp only [charges]
      cases holds.evaluated configured with
      | uncalled same =>
          obtain ⟨reply, same, unanswered⟩ := same
          rw [same, if_neg fun charged => unanswered _ charged.1]
          exact ih (by rw [← here]; exact holds) ordered
      | refused charging called short evaluated =>
          have denied : some (Except.ok (refusal configured levels charging spending)) ≠
              some (Except.ok (ε := String) (1, 0, 0)) := by
            intro same
            cases congrArg Prod.fst (Except.ok.inj (Option.some.inj same))
          rw [evaluated, if_neg fun charged => denied charged.1]
          exact ih (by rw [← here]; exact holds) ordered
      | admitted charging called covers evaluated =>
          have left := holds.charged configured called covers
          have later := ih (by rw [← here]; exact left) ordered
          rw [evaluated, called.found]
          by_cases same : keyOf charging side = keyOf route side
          · have least := called.cost_bounds
            obtain ⟨_, _, before⟩ := (holds.stored found side).level (configured.valid side)
            rw [if_pos ⟨rfl, congrArg some same⟩, List.map_cons]
            rw [← same, chargeLevels_charged configured called.found, same] at later
            refine ⟨?_, ?_, ?_, ?_⟩
            · show (levels (keyOf route side)).last ≤ ((spending.time.micros / 1000 : ℕ) : ℚ)
              rw [← here]
              exact before
            · show (0 : ℚ) ≤ spending.cost
              linarith
            · show (spending.cost : ℚ) ≤ (bucketOf configured side).available
                (levels (keyOf route side)) ((spending.time.micros / 1000 : ℕ) : ℚ)
              rw [← here, ← same]
              cases side with
              | operator => exact covers.1
              | backend => exact covers.2
            · show (bucketOf configured side).Affords ((bucketOf configured side).charge
                (levels (keyOf route side)) ((spending.time.micros / 1000 : ℕ) : ℚ)
                spending.cost) _
              rw [← here]
              exact later
          · rw [if_neg fun charged => same (Option.some.inj charged.2)]
            rw [chargeLevels_other configured called.found found side fun other => same other.symm]
              at later
            exact later

theorem spent_le_charged {charges : List (Nat × ℚ)} (positive : ∀ charge ∈ charges, 0 ≤ charge.2)
    (first span : Nat) :
    spent first (first + span * 1000) charges ≤
      TokenBucket.charged ((first / 1000 : ℕ) : ℚ) ((first / 1000 + span : ℕ) : ℚ)
        (charges.map inMillis) := by
  induction charges with
  | nil => exact le_refl _
  | cons charge rest ih =>
      obtain ⟨time, cost⟩ := charge
      have rest := ih fun charge held => positive charge (List.mem_cons_of_mem _ held)
      have costs := positive (time, cost) List.mem_cons_self
      rw [List.map_cons, inMillis, TokenBucket.charged_cons]
      refine add_le_add ?_ rest
      dsimp only at costs ⊢
      by_cases inside : first ≤ time ∧ time ≤ first + span * 1000
      · have covered : ((first / 1000 : ℕ) : ℚ) ≤ ((time / 1000 : ℕ) : ℚ) ∧
            ((time / 1000 : ℕ) : ℚ) ≤ ((first / 1000 + span : ℕ) : ℚ) := by
          have least : first / 1000 ≤ time / 1000 := by omega
          have most : time / 1000 ≤ first / 1000 + span := by omega
          exact ⟨by exact_mod_cast least, by exact_mod_cast most⟩
        rw [if_pos inside, if_pos covered]
      · rw [if_neg inside]
        split
        · exact costs
        · exact le_refl _

include configured in
/-- What is charged to a key within a window of milliseconds. -/
theorem Holds.window {requests : List Spending} (holds : admission.Holds keys (now / 1000) levels)
    (ordered : SpendingOrdered now requests) {operatorID : String}
    (found : admission.routes operatorID = some route) (side : Side) (first span : Nat) :
    spent first (first + span * 1000) (charges admission side (keyOf route side) keys requests) ≤
      (admission.policy side).capacityMilli + (admission.policy side).rateMilli * span / 1000 := by
  have affords := holds.affords configured ordered found side
  have positive : ∀ charge ∈ charges admission side (keyOf route side) keys requests,
      0 ≤ charge.2 := by
    clear holds affords ordered
    intro charge listed
    induction requests generalizing keys with
    | nil => cases listed
    | cons spending rest ih =>
        simp only [charges] at listed
        split at listed
        · next charged =>
          rcases List.mem_cons.mp listed with rfl | listed
          · by_cases called : ∃ route, admission.Called spending route
            · have least := called.choose_spec.cost_bounds
              show (0 : ℚ) ≤ spending.cost
              linarith
            · obtain ⟨reply, same, unanswered⟩ := evaluate_not_called (not_exists.mp called)
              rw [same] at charged
              exact absurd charged.1 (unanswered _)
          · exact ih listed
        · exact ih listed
  have ordered : ((first / 1000 : ℕ) : ℚ) ≤ ((first / 1000 + span : ℕ) : ℚ) := by
    exact_mod_cast Nat.le_add_right _ span
  refine le_trans (spent_le_charged positive first span) (le_trans (affords.window ordered) ?_)
  refine le_of_eq ?_
  show ((admission.policy side).capacityMilli : ℚ) +
    (((first / 1000 + span : ℕ) : ℚ) - ((first / 1000 : ℕ) : ℚ)) *
      ((admission.policy side).rateMilli / 1000) = _
  push_cast
  ring

/-! ## Stores that answer alike -/

/-- The buckets of two stores have the same available from an instant on. -/
structure Alike (left right : Keyspace) (now : Nat) : Prop where
  levels : ∃ first second, admission.Holds left now first ∧ admission.Holds right now second ∧
    ∀ operatorID route, admission.routes operatorID = some route → ∀ side, ∀ later : ℚ,
      now ≤ later →
        (bucketOf configured side).available (first (keyOf route side)) later =
          (bucketOf configured side).available (second (keyOf route side)) later

variable {left right : Keyspace}

theorem Alike.at_later (alike : Alike configured left right now) (ordered : now ≤ later) :
    Alike configured left right later := by
  obtain ⟨first, second, holdsLeft, holdsRight, same⟩ := alike.levels
  refine ⟨first, second, holdsLeft.at_later ordered, holdsRight.at_later ordered, ?_⟩
  intro operatorID route found side instant past
  exact same operatorID route found side instant (le_trans (by exact_mod_cast ordered) past)

/-- Two stores that are alike give one reply, and are alike after it. -/
theorem Alike.evaluate (alike : Alike configured left right spending.time.millis) :
    (admission.evaluate exactly left spending).1 = (admission.evaluate exactly right spending).1 ∧
      Alike configured (admission.evaluate exactly left spending).2
        (admission.evaluate exactly right spending).2 spending.time.millis := by
  obtain ⟨first, second, holdsLeft, holdsRight, same⟩ := alike.levels
  by_cases called : ∃ route, admission.Called spending route
  · obtain ⟨route, called⟩ := called
    have storedLeft := holdsLeft spending.operatorID route called.found
    have storedRight := holdsRight spending.operatorID route called.found
    have operator : operatorAvailable configured first route spending.time.millis =
        operatorAvailable configured second route spending.time.millis :=
      same spending.operatorID route called.found .operator _ (le_refl _)
    have backend : backendAvailable configured first route spending.time.millis =
        backendAvailable configured second route spending.time.millis :=
      same spending.operatorID route called.found .backend _ (le_refl _)
    have decided : Covers configured first route spending ↔
        Covers configured second route spending := by
      rw [Covers, Covers, operator, backend]
    by_cases covers : Covers configured first route spending
    · rw [evaluate_covered configured called storedLeft covers,
        evaluate_covered configured called storedRight (decided.mp covers)]
      refine ⟨rfl, _, _, holdsLeft.charged configured called covers,
        holdsRight.charged configured called (decided.mp covers), ?_⟩
      intro operatorID other found side instant past
      by_cases here : keyOf other side = keyOf route side
      · have level := same spending.operatorID route called.found side spending.time.millis
          (le_refl _)
        rw [here, chargeLevels_charged configured called.found,
          chargeLevels_charged configured called.found, TokenBucket.charge, TokenBucket.charge,
          level]
      · rw [chargeLevels_other configured called.found found side here,
          chargeLevels_other configured called.found found side here]
        exact same operatorID other found side instant past
    · rw [evaluate_uncovered configured called storedLeft covers,
        evaluate_uncovered configured called storedRight (mt decided.mpr covers)]
      refine ⟨?_, alike⟩
      dsimp only
      rw [refusal, refusal, operator, backend]
  · obtain ⟨reply, replies, _⟩ := evaluate_not_called (not_exists.mp called)
    rw [replies, replies]
    exact ⟨rfl, alike⟩

/-- Two stores that are alike answer every run alike. -/
theorem Alike.evaluateAll {requests : List Spending} (alike : Alike configured left right (now / 1000))
    (ordered : SpendingOrdered now requests) :
    (admission.evaluateAll exactly left requests).1 =
      (admission.evaluateAll exactly right requests).1 := by
  induction requests generalizing left right now with
  | nil => rfl
  | cons spending rest ih =>
      obtain ⟨past, ordered⟩ := ordered.cons
      have alike : Alike configured left right spending.time.millis := by
        rw [ServerTime.millis_eq]
        exact alike.at_later configured (Nat.div_le_div_right past)
      obtain ⟨reply, alike⟩ := alike.evaluate configured
      rw [ServerTime.millis_eq] at alike
      exact congrArg₂ List.cons reply (ih alike ordered)

/-- A store in which an entry that has run out is replaced by a full one. -/
def refilled (admission : EconomicAdmission) (keys : Keyspace) (now : Nat)
    (side : Side) (key : String) : Keyspace :=
  keys.set now key (timed (admission.policy side).capacityMilli now)
    (ttlBase ((admission.policy side).fillTime exactly)).toNat

/-- A key is the key of one side. -/
theorem Configured.side_eq (configured : admission.Configured) {first second : String}
    {other : EconomicRouteKeys} (found : admission.routes first = some route)
    (foundOther : admission.routes second = some other) {side place : Side}
    (same : keyOf route side = keyOf other place) : side = place := by
  cases side <;> cases place
  · rfl
  · exact absurd same (configured.apart first second route other found foundOther)
  · exact absurd same.symm (configured.apart second first other route foundOther found)
  · rfl

/-- An entry that has run out is alike a full one. -/
theorem Holds.alike_refilled (holds : admission.Holds keys now levels) {operatorID : String}
    (found : admission.routes operatorID = some route) (side : Side)
    (gone : keys.get now (keyOf route side) = none) :
    Alike configured keys (refilled admission keys now side (keyOf route side)) now := by
  have valid := configured.valid side
  have stored := holds.stored found side
  -- the bucket of a key that is gone is full
  have emptied : (bucketOf configured side).available (levels (keyOf route side)) now =
      (admission.policy side).capacityMilli := by
    rcases stored.read valid with ⟨_, emptied⟩ | ⟨entry, _, there, _⟩
    · exact emptied
    · rw [gone] at there
      cases there
  have step : ∀ second other, admission.routes second = some other → ∀ place,
      (admission.policy place).Stored timed
        (refilled admission keys now side (keyOf route side)) (keyOf other place) now
        (Function.update levels (keyOf route side)
          ⟨(admission.policy side).capacityMilli, now⟩ (keyOf other place)) := by
    intro second other foundOther place
    by_cases here : keyOf other place = keyOf route side
    · have same := configured.side_eq foundOther found here
      subst same
      rw [here, Function.update_self]
      have positive := ((admission.policy place).bucket valid).capacity_nonneg
      exact .held _ now (Function.update_self _ _ _) (le_refl now) positive (le_refl _)
    · rw [Function.update_of_ne here]
      exact (holds.stored foundOther place).of_other (Function.update_of_ne here _ _)
  refine ⟨levels, _, holds, fun second other foundOther =>
    ⟨step second other foundOther .operator, step second other foundOther .backend⟩, ?_⟩
  intro second other foundOther place instant past
  by_cases here : keyOf other place = keyOf route side
  · have same := configured.side_eq foundOther found here
    subst same
    rw [here, Function.update_self, ← emptied]
    exact ((bucketOf configured place).available_later past).symm
  · rw [Function.update_of_ne here]

/-! ## The admission -/

/-- What one request does to a store: both buckets have the cost and are charged, or the
store is as it was. -/
def BothOrNeither (admission : EconomicAdmission) (keys : Keyspace) (spending : Spending) : Prop :=
  ((admission.evaluate exactly keys spending).1 = some (.ok (1, 0, 0)) ∧
    ∃ route operator backend, admission.routes spending.operatorID = some route ∧
      loadBucket exactly keys route.operator admission.operator.capacityMilli
        admission.operator.rateMilli spending.time.millis = .ok operator ∧
      loadBucket exactly keys route.backend admission.backend.capacityMilli
        admission.backend.rateMilli spending.time.millis = .ok backend ∧
      spending.cost ≤ operator.1 ∧ spending.cost ≤ backend.1 ∧
      (admission.evaluate exactly keys spending).2 =
        chargeBoth exactly keys route spending.time.millis operator backend spending.cost) ∨
  ((admission.evaluate exactly keys spending).1 ≠ some (.ok (1, 0, 0)) ∧
    (admission.evaluate exactly keys spending).2 = keys)

theorem refusal_ne_admitted :
    some (Except.ok (refusal configured levels route spending)) ≠
      some (Except.ok (ε := String) (1, 0, 0)) := by
  intro same
  cases congrArg Prod.fst (Except.ok.inj (Option.some.inj same))

include configured in
theorem Holds.bothOrNeither (holds : admission.Holds keys spending.time.millis levels) :
    BothOrNeither admission keys spending := by
  cases holds.evaluated configured with
  | uncalled same =>
      obtain ⟨reply, same, unanswered⟩ := same
      exact .inr ⟨by rw [same]; exact unanswered _, by rw [same]⟩
  | refused route called short evaluated =>
      exact .inr ⟨by rw [evaluated]; exact refusal_ne_admitted configured, by rw [evaluated]⟩
  | admitted route called covers evaluated =>
      have stored := holds spending.operatorID route called.found
      exact .inl ⟨by rw [evaluated], route, _, _, called.found,
        loadBucket_exact configured.operator stored.operator called.sane.2,
        loadBucket_exact configured.backend stored.backend called.sane.2, covers.1, covers.2,
        by rw [evaluated]; rfl⟩

include configured in
/-- Every answer is in the range that `admitCost` takes. -/
theorem Holds.accepted (holds : admission.Holds keys spending.time.millis levels)
    {allowed limited retry : Int}
    (answered : (admission.evaluate exactly keys spending).1 = some (.ok (allowed, limited, retry))) :
    acceptsEconomicReply [allowed, limited, retry] = true := by
  cases holds.evaluated configured with
  | uncalled same =>
      obtain ⟨reply, same, unanswered⟩ := same
      rw [same] at answered
      exact absurd answered (unanswered _)
  | refused route called short evaluated =>
      have stored := holds spending.operatorID route called.found
      have accepted := refusal_accepted configured called stored short
      rw [evaluated] at answered
      rw [Except.ok.inj (Option.some.inj answered)] at accepted
      exact accepted
  | admitted route called covers evaluated =>
      rw [evaluated] at answered
      cases answered
      decide

include configured in
/-- The same request is admitted once the wait of its refusal is over. -/
theorem Holds.after_wait (holds : admission.Holds keys spending.time.millis levels)
    {limited retry : Int} {again : Spending}
    (refused : (admission.evaluate exactly keys spending).1 = some (.ok (0, limited, retry)))
    (operator : again.operatorID = spending.operatorID) (units : again.costUnits = spending.costUnits)
    (sane : again.time.Sane)
    (waited : spending.time.micros + 1000 * retry ≤ (again.time.micros : ℤ)) :
    (admission.evaluate exactly (admission.evaluate exactly keys spending).2 again).1 =
      some (.ok (1, 0, 0)) := by
  cases holds.evaluated configured with
  | uncalled same =>
      obtain ⟨reply, same, unanswered⟩ := same
      rw [same] at refused
      exact absurd refused (unanswered _)
  | admitted route called covers evaluated =>
      rw [evaluated] at refused
      cases refused
  | refused route called short evaluated =>
      rw [evaluated] at refused ⊢
      have reported : (refusal configured levels route spending).2.2 = retry :=
        congrArg (fun answer : Int × Int × Int => answer.2.2)
          (Except.ok.inj (Option.some.inj refused))
      rw [← reported] at waited
      have cost : again.cost = spending.cost := by rw [Spending.cost, Spending.cost, units]
      have called : admission.Called again route :=
        ⟨by rw [units]; exact called.units, by rw [operator]; exact called.found,
          by rw [cost]; exact called.fitsOperator, by rw [cost]; exact called.fitsBackend, sane⟩
      -- the wait of each bucket is over, in milliseconds
      have wait : ∀ side, spending.time.millis + waitOf (admission.policy side) spending.cost
          ((bucketOf configured side).available (levels (keyOf route side))
            spending.time.millis) ≤ (again.time.millis : ℤ) := by
        intro side
        have longest : waitOf (admission.policy side) spending.cost
            ((bucketOf configured side).available (levels (keyOf route side))
              spending.time.millis) ≤ (refusal configured levels route spending).2.2 := by
          refine le_trans ?_ (le_max_right _ _)
          cases side with
          | operator => exact le_max_left _ _
          | backend => exact le_max_right _ _
        have := ServerTime.millis_eq spending.time
        have := ServerTime.millis_eq again.time
        omega
      have ordered : spending.time.millis ≤ again.time.millis := by
        have least : 1 ≤ (refusal configured levels route spending).2.2 := le_max_left _ _
        have := ServerTime.millis_eq spending.time
        have := ServerTime.millis_eq again.time
        omega
      have covered : ∀ side, (spending.cost : ℚ) ≤ (admission.policy side).capacityMilli →
          spending.cost ≤
            (bucketOf configured side).available (levels (keyOf route side)) again.time.millis :=
        fun side fits => covered_after_wait (configured.valid side) fits (wait side) ordered
      have covers : Covers configured levels route again := by
        have operatorFits := called.fitsOperator
        have backendFits := called.fitsBackend
        rw [cost] at operatorFits backendFits
        rw [Covers, cost]
        exact ⟨covered .operator (by exact_mod_cast operatorFits),
          covered .backend (by exact_mod_cast backendFits)⟩
      rw [evaluate_covered configured called
        ((holds.at_later ordered) again.operatorID route called.found) covers]

/-- The admission of two buckets, over every run of requests: what is admitted within a
window of milliseconds is bounded for each bucket; the next request charges both buckets
or neither, and only an admission stores anything; its reply is in the range that
`admitCost` takes, and the wait it reports is enough; and an entry that has run out
answers every later run as a full one does. -/
theorem two_buckets {mac : Mac} {operator backend : Policy} {routes : List EconomicRoute}
    (ok : newEconomicAdmission mac operator backend routes = .ok admission)
    (requests : List Spending)
    (sorted : requests.Pairwise fun earlier later => earlier.time.micros ≤ later.time.micros) :
    (∀ operatorID route, admission.routes operatorID = some route → ∀ side first span,
      spent first (first + span * 1000)
          (charges admission side (keyOf route side) (fun _ => none) requests) ≤
        (admission.policy side).capacityMilli +
          (admission.policy side).rateMilli * span / 1000) ∧
    (∀ spending, (∀ earlier ∈ requests, earlier.time.micros ≤ spending.time.micros) →
      BothOrNeither admission (admission.evaluateAll exactly (fun _ => none) requests).2 spending ∧
      (∀ allowed limited retry,
        (admission.evaluate exactly (admission.evaluateAll exactly (fun _ => none) requests).2
          spending).1 = some (.ok (allowed, limited, retry)) →
        acceptsEconomicReply [allowed, limited, retry] = true) ∧
      ∀ limited retry again,
        (admission.evaluate exactly (admission.evaluateAll exactly (fun _ => none) requests).2
          spending).1 = some (.ok (0, limited, retry)) →
        again.operatorID = spending.operatorID → again.costUnits = spending.costUnits →
        again.time.Sane → spending.time.micros + 1000 * retry ≤ (again.time.micros : ℤ) →
        (admission.evaluate exactly (admission.evaluate exactly
          (admission.evaluateAll exactly (fun _ => none) requests).2 spending).2 again).1 =
            some (.ok (1, 0, 0))) ∧
    ∀ now rest operatorID route side, (∀ earlier ∈ requests, earlier.time.micros ≤ now) →
      SpendingOrdered now rest → admission.routes operatorID = some route →
      (admission.evaluateAll exactly (fun _ => none) requests).2.get (now / 1000)
        (keyOf route side) = none →
      (admission.evaluateAll exactly (admission.evaluateAll exactly (fun _ => none) requests).2
          rest).1 =
        (admission.evaluateAll exactly
          (refilled admission (admission.evaluateAll exactly (fun _ => none) requests).2
            (now / 1000) side (keyOf route side)) rest).1 := by
  obtain ⟨operatorValid, backendValid, apart⟩ := newEconomicAdmission_ok ok
  have configured : admission.Configured := ⟨operatorValid, backendValid, apart⟩
  obtain ⟨levels, start⟩ : ∃ levels, admission.Holds (fun _ => none) (0 / 1000) levels :=
    holds_empty configured
  have ordered : SpendingOrdered 0 requests := ⟨fun _ _ => Nat.zero_le _, sorted⟩
  refine ⟨?_, ?_, ?_⟩
  · intro operatorID route found side first span
    exact start.window configured ordered found side first span
  · intro spending last
    obtain ⟨levels, holds⟩ := start.after configured ordered (Nat.zero_le _) last
    rw [← ServerTime.millis_eq] at holds
    exact ⟨holds.bothOrNeither configured, fun _ _ _ => holds.accepted configured,
      fun _ _ _ => holds.after_wait configured⟩
  · intro now rest operatorID route side last later found gone
    obtain ⟨levels, holds⟩ := start.after configured ordered (Nat.zero_le now) last
    exact (holds.alike_refilled configured found side gone).evaluateAll configured later

end EconomicAdmission

/-! ## Two operators of one backend -/

/-- A digest of an identity, for the example. -/
def lengthMac : Mac := fun identity place => ⟨(identity.length + place.val) % 256, by omega⟩

def sharedRoutes : List EconomicRoute := [⟨"first", "wallet"⟩, ⟨"second", "wallet"⟩]

/-- Two units for each operator, three for the backend. -/
def sharedAdmission : EconomicAdmission where
  operator := ⟨1000, 2⟩
  backend := ⟨500, 3⟩
  routes := Function.update
    (Function.update (fun _ => none) "first" (some (economicRouteKeys lengthMac ⟨"first", "wallet"⟩)))
    "second" (some (economicRouteKeys lengthMac ⟨"second", "wallet"⟩))

theorem sharedAdmission_ok :
    newEconomicAdmission lengthMac ⟨1000, 2⟩ ⟨500, 3⟩ sharedRoutes = .ok sharedAdmission := by
  unfold newEconomicAdmission
  rw [if_neg (by decide +kernel), if_neg (by decide +kernel), if_neg (by decide)]
  unfold sharedRoutes compileRoutes
  rw [if_neg (by decide), if_neg (by decide)]
  unfold compileRoutes
  rw [if_neg (by decide), if_neg (by decide)]
  rfl

/-- The operators spend two units each, and the backend has three. -/
def sharedRequests : List Spending :=
  [⟨⟨10, 0⟩, "first", 2⟩, ⟨⟨10, 400⟩, "second", 2⟩, ⟨⟨12, 400⟩, "second", 2⟩]

theorem sharedAdmission_bounded :
    (sharedAdmission.evaluateAll exactly (fun _ => none) sharedRequests).1 =
        [some (.ok (1, 0, 0)), some (.ok (0, 2, 2000)), some (.ok (1, 0, 0))] ∧
      EconomicAdmission.spent 10000000 (10000000 + 2001 * 1000)
          (EconomicAdmission.charges sharedAdmission .backend
            (economicRouteKeys lengthMac ⟨"first", "wallet"⟩).backend (fun _ => none)
            sharedRequests) ≤
        ((3000 : ℤ) : ℚ) + ((500 : ℤ) : ℚ) * (2001 : ℕ) / 1000 :=
  ⟨by decide +kernel,
    (EconomicAdmission.two_buckets sharedAdmission_ok sharedRequests (by decide)).1 "first"
      (economicRouteKeys lengthMac ⟨"first", "wallet"⟩)
      (by decide +kernel) .backend 10000000 2001⟩

end SlotsGame.Admission
