/-
# SlotsGame.Game.Payment -- what an accepted outcome pays

The validator accepts any outcome value, not only a generated one.  Here is what
acceptance fixes about money: the wins are those of the grid, every payment is
the greedy one of the nominal awards from what the cap has left
(`PaysProjection`), and nothing else carries an amount.
-/
import SlotsGame.Game.Engine

namespace SlotsGame.Game

open SlotsGame.Theory FeatureState Budget

set_option autoImplicit false

/-! ## Nominal awards -/

/-- A vault award, or the award of an instant wheel. -/
def carriesAward (event : Event) : Bool :=
  event.type = .vaultAwarded || (event.type = .wheelAwarded && event.outcome = some .instant)

def monetaryEvents (events : List Event) : List Event := events.filter carriesAward

/-- The awards of the monetary events before the cap, in order. -/
def nominalAwards (betMinor : Int) (events : List Event) : List Int :=
  (monetaryEvents events).map fun event => betMinor * event.multiplier

/-- What the monetary events pay, in order. -/
def eventPayments (events : List Event) : List Int :=
  (monetaryEvents events).map (·.amountMinor)

def winPayments (wins : List Win) : List Int := wins.map (·.paidAmountMinor)

/-- What the cap of the whole game has left for this spin. -/
def budgetLeft (config : Config) (input : SpinInput) : Int :=
  input.betMinor * config.maxWinMultiplier - priorWinMinor (canonicalFeatureState input.feature)

theorem monetaryEvents_append (before after : List Event) :
    monetaryEvents (before ++ after) = monetaryEvents before ++ monetaryEvents after :=
  List.filter_append ..

theorem nominalAwards_append (betMinor : Int) (before after : List Event) :
    nominalAwards betMinor (before ++ after) =
      nominalAwards betMinor before ++ nominalAwards betMinor after := by
  simp [nominalAwards, monetaryEvents_append]

theorem nominalEventAward_eq (betMinor : Int) (event : Event) :
    nominalEventAward betMinor event =
      if carriesAward event then some <$> safeMul betMinor event.multiplier else pure none := by
  unfold nominalEventAward carriesAward
  cases event.type with
  | wheelAwarded => by_cases instant : event.outcome = some .instant <;> simp [instant]
  | _ => simp

/-! ## The walk over the events -/

theorem checkCappedEvent_ok {betMinor : Int} {scan next : CappedScan} {event : Event}
    (stepped : checkCappedEvent betMinor scan event = .ok next) :
    if carriesAward event then
      0 ≤ betMinor * event.multiplier ∧
        event.amountMinor = min (betMinor * event.multiplier) scan.remaining ∧
        next.remaining = scan.remaining - event.amountMinor ∧
        next.expectedTotal = scan.expectedTotal + event.amountMinor ∧
        next.rawTotal = scan.rawTotal + betMinor * event.multiplier
    else next = scan := by
  simp only [checkCappedEvent, nominalEventAward_eq] at stepped
  split
  · rename_i carries
    simp only [carries, ite_true, bind_ok, map_ok] at stepped
    obtain ⟨_, ⟨nominal, multiplied, rfl⟩, rest⟩ := stepped
    obtain ⟨_, _, _, rfl⟩ := safeMul_ok.mp multiplied
    simp only [bind_ok, refuse_ok, exists_unit, pure_ok, not_not] at rest
    obtain ⟨paid, expected, expectedAdded, raw, rawAdded, rfl⟩ := rest
    obtain ⟨_, _, _, rfl⟩ := safeAdd_ok.mp expectedAdded
    obtain ⟨_, nominalNonneg, _, rfl⟩ := safeAdd_ok.mp rawAdded
    exact ⟨nominalNonneg, paid, by rw [paid], by rw [paid], rfl⟩
  · rename_i plain
    simp only [plain, Bool.false_eq_true, ite_false, bind_ok, pure_ok] at stepped
    obtain ⟨_, rfl, same⟩ := stepped
    exact (pure_ok.mp same).symm

/-- An accepted walk has paid the nominal awards greedily. -/
theorem checkCappedEvents_ok {betMinor : Int} {events : List Event} {scan final : CappedScan}
    (run : events.foldlM (checkCappedEvent betMinor) scan = .ok final) :
    (∀ award ∈ nominalAwards betMinor events, 0 ≤ award) ∧
      eventPayments events = spend scan.remaining (nominalAwards betMinor events) ∧
      final.expectedTotal = scan.expectedTotal + (eventPayments events).sum ∧
      final.rawTotal = scan.rawTotal + (nominalAwards betMinor events).sum := by
  induction events generalizing scan with
  | nil =>
      simp only [List.foldlM_nil, pure_ok] at run
      subst run
      simp [nominalAwards, eventPayments, monetaryEvents]
  | cons event rest ih =>
      rw [List.foldlM_cons, bind_ok] at run
      obtain ⟨next, stepped, run⟩ := run
      have step := checkCappedEvent_ok stepped
      obtain ⟨nonneg, payments, expected, raw⟩ := ih run
      by_cases carries : carriesAward event = true
      · simp only [carries, ite_true] at step
        obtain ⟨awardNonneg, paid, remaining, total, rawTotal⟩ := step
        simp only [nominalAwards, eventPayments, monetaryEvents, List.filter_cons, carries,
          ite_true, List.map_cons, List.sum_cons, List.forall_mem_cons] at *
        refine ⟨⟨awardNonneg, nonneg⟩, ?_, ?_, ?_⟩
        · rw [spend_cons, payments, remaining, paid]
        · rw [expected, total, add_assoc]
        · rw [raw, rawTotal, add_assoc]
      · simp only [carries] at step
        obtain rfl : next = scan := by simpa using step
        have skipped : monetaryEvents (event :: rest) = monetaryEvents rest := by
          simp [monetaryEvents, carries]
        simp only [nominalAwards, eventPayments, skipped] at *
        exact ⟨nonneg, payments, expected, raw⟩

/-! ## Soundness -/

/-- The capped check with its intermediate values named. -/
theorem validateCapped_ok {config : Config} {input : SpinInput} {outcome : SpinOutcome}
    {raw : WaysResult}
    (accepted : validateCappedAwardsAgainstConfig config input outcome raw = .ok ()) :
    0 ≤ budgetLeft config input ∧
      0 ≤ priorWinMinor (canonicalFeatureState input.feature) ∧
      outcome.wins = (projectWinsToBudget raw.wins (budgetLeft config input)).1 ∧
      ∃ scan, outcome.events.foldlM (checkCappedEvent input.betMinor)
          { remaining := budgetLeft config input -
              (projectWinsToBudget raw.wins (budgetLeft config input)).2
            expectedTotal := (projectWinsToBudget raw.wins (budgetLeft config input)).2
            rawTotal := raw.total } = .ok scan ∧
        outcome.totalWinMinor = scan.expectedTotal ∧
        ((eventIndexes outcome.events .winCapReached).length = 1 ↔
          0 < scan.rawTotal ∧ budgetLeft config input ≤ scan.rawTotal) := by
  simp only [validateCappedAwardsAgainstConfig, bind_ok, wrap_ok, refuse_ok, exists_unit,
    not_or, not_lt, not_not, Bool.not_eq_false] at accepted
  obtain ⟨cap, multiplied, ⟨priorNonneg, priorLe⟩, wins, scan, run, total, capEvent, _⟩ := accepted
  obtain ⟨_, _, _, rfl⟩ := safeMul_ok.mp multiplied
  refine ⟨sub_nonneg.mpr priorLe, priorNonneg, (of_decide_eq_true wins).symm, scan, run, total, capEvent.symm⟩

/-- The payments of an outcome are the greedy ones of the nominal awards that
the grid and the event multipliers give. -/
structure PaysProjection (config : Config) (input : SpinInput) (outcome : SpinOutcome)
    (raw : WaysResult) : Prop where
  total : outcome.totalWinMinor =
    min (raw.total + (nominalAwards input.betMinor outcome.events).sum) (budgetLeft config input)
  payments : winPayments outcome.wins ++ eventPayments outcome.events =
    spend (budgetLeft config input)
      (raw.wins.map (·.amountMinor) ++ nominalAwards input.betMinor outcome.events)
  pathPayments : ∀ win ∈ outcome.wins, win.pathAwards.map (·.paidAmountMinor) =
    spend win.paidAmountMinor (win.pathAwards.map (·.amountMinor))
  nominal : outcome.wins.map (fun win => (win.amountMinor, win.pathAwards.map (·.amountMinor))) =
    raw.wins.map fun win => (win.amountMinor, win.pathAwards.map (·.amountMinor))
  wins : outcome.wins = payAll Win.amountMinor projectWinToAmount (budgetLeft config input) raw.wins
  others : ∀ event ∈ outcome.events, carriesAward event = false → event.amountMinor = 0

theorem accepted_paysProjection {config : Config} {input : SpinInput} {outcome : SpinOutcome}
    (accepted : validateOutcomeAgainstValidatedConfig config input outcome = .ok ()) :
    ∃ raw, evaluateWaysForBet outcome.grid config.paytable input.betMinor
        config.bet.payUnitMinor = .ok raw ∧ PaysProjection config input outcome raw := by
  obtain ⟨_, structured, raw, evaluated, capped⟩ :=
    validateOutcomeAgainstValidatedConfig_ok.mp accepted
  obtain ⟨_, _, _, _, _, _, _, ordered⟩ := validateOutcomeStructure_ok.mp structured
  obtain ⟨_, _, _, rageAndWheel, _⟩ := validateFeatureEventOrder_ok.mp ordered
  obtain ⟨solvent, _, wins, scan, run, total, _⟩ := validateCapped_ok capped
  have totalled := evaluateWaysForBet_totalled evaluated
  have amountsNonneg : ∀ amount ∈ raw.wins.map (·.amountMinor), 0 ≤ amount := by
    simpa using totalled.nonneg
  rw [projectWinsToBudget_eq] at wins run
  obtain ⟨nominalNonneg, eventsPaid, expected, _⟩ := checkCappedEvents_ok run
  have winsPaid : winPayments outcome.wins =
      spend (budgetLeft config input) (raw.wins.map (·.amountMinor)) := by
    rw [wins]
    exact payAll_map_paid Win.paidAmountMinor (fun _ _ => rfl) _ _
  have payments : winPayments outcome.wins ++ eventPayments outcome.events =
      spend (budgetLeft config input)
        (raw.wins.map (·.amountMinor) ++ nominalAwards input.betMinor outcome.events) := by
    rw [spend_append solvent amountsNonneg, winsPaid, eventsPaid,
      spend_sum solvent amountsNonneg]
  refine ⟨raw, evaluated, ?_, payments, ?_, ?_, wins, ?_⟩
  · have nonneg : ∀ amount ∈ raw.wins.map (·.amountMinor) ++
        nominalAwards input.betMinor outcome.events, 0 ≤ amount := fun amount member =>
      (List.mem_append.mp member).elim (amountsNonneg amount) (nominalNonneg amount)
    calc outcome.totalWinMinor
        = (winPayments outcome.wins).sum + (eventPayments outcome.events).sum := by
          rw [total, expected, winsPaid]
      _ = (winPayments outcome.wins ++ eventPayments outcome.events).sum :=
          (List.sum_append ..).symm
      _ = min (raw.total + (nominalAwards input.betMinor outcome.events).sum)
            (budgetLeft config input) := by
          rw [payments, spend_sum solvent nonneg, List.sum_append, totalled.total]
  · intro win member
    rw [wins] at member
    obtain ⟨rawWin, _, amount, rfl⟩ := payAll_mem member
    rw [projectWinToAmount_paid, projectWinToAmount_nominal]
    rfl
  · rw [wins]
    refine payAll_map_kept _ _ (fun win amount => ?_) _ _
    rw [projectWinToAmount_nominal]
    rfl
  · intro event member plain
    by_cases monetary : isMonetaryAwardEvent event.type = true
    · simp only [isMonetaryAwardEvent, Bool.or_eq_true, decide_eq_true_eq] at monetary
      simp only [carriesAward, Bool.or_eq_false_iff, decide_eq_false_iff_not,
        Bool.and_eq_false_iff] at plain
      have wheel : event.type = .wheelAwarded := monetary.resolve_right plain.1
      exact validateRageAndWheelEvents_plain rageAndWheel member wheel
        (plain.2.resolve_left (not_not.mpr wheel))
    · exact structure_amount_zero structured member (by simpa using monetary)

theorem PaysProjection.same_payment {config : Config} {input : SpinInput}
    {outcome other : SpinOutcome} {raw : WaysResult}
    (pays : PaysProjection config input outcome raw)
    (otherPays : PaysProjection config input other raw)
    (same : nominalAwards input.betMinor other.events = nominalAwards input.betMinor outcome.events) :
    other.wins = outcome.wins ∧ eventPayments other.events = eventPayments outcome.events ∧
      other.totalWinMinor = outcome.totalWinMinor := by
  have wins : other.wins = outcome.wins := otherPays.wins.trans pays.wins.symm
  refine ⟨wins, ?_, by rw [otherPays.total, pays.total, same]⟩
  have payments := otherPays.payments.trans (by rw [same])
  rw [← pays.payments, wins] at payments
  exact List.append_cancel_left payments

/-- **An accepted outcome pays the greedy projection of the nominal awards, and
its grid with the ordered multipliers of its monetary events decides what it pays.** -/
theorem validateOutcomeAgainstConfig_pays {config : Config} {input : SpinInput}
    {outcome : SpinOutcome}
    (accepted : validateOutcomeAgainstConfig config input outcome = .ok ()) :
    (∃ raw, evaluateWaysForBet outcome.grid config.paytable input.betMinor
        config.bet.payUnitMinor = .ok raw ∧ PaysProjection config input outcome raw) ∧
      ∀ other, validateOutcomeAgainstConfig config input other = .ok () →
        other.grid = outcome.grid →
        (monetaryEvents other.events).map (·.multiplier) =
          (monetaryEvents outcome.events).map (·.multiplier) →
        other.wins = outcome.wins ∧ eventPayments other.events = eventPayments outcome.events ∧
          other.totalWinMinor = outcome.totalWinMinor := by
  obtain ⟨raw, evaluated, pays⟩ :=
    accepted_paysProjection (validateOutcomeAgainstConfig_ok.mp accepted).2
  refine ⟨⟨raw, evaluated, pays⟩, fun other otherAccepted sameGrid sameMultipliers => ?_⟩
  obtain ⟨otherRaw, otherEvaluated, otherPays⟩ :=
    accepted_paysProjection (validateOutcomeAgainstConfig_ok.mp otherAccepted).2
  rw [sameGrid, evaluated] at otherEvaluated
  cases otherEvaluated
  refine pays.same_payment otherPays ?_
  have scaled := congrArg (List.map (input.betMinor * ·)) sameMultipliers
  simpa only [nominalAwards, List.map_map, Function.comp_def] using scaled

/-- A free spin that starts two units under the cap. -/
def nearCapInput : SpinInput :=
  { betMinor := 10
    feature :=
      { mode := .overdrive, remaining := 2, awarded := 8, betMinor := 10, winMinor := 24998,
        rageLevel := 1 } }

/-- Its one win of three units is paid two, and the cap is reached. -/
def nearCapOutcome : SpinOutcome :=
  { grid :=
      [[⟨.orbit, 0, .empty⟩, ⟨.prism, 0, .empty⟩, ⟨.prism, 0, .empty⟩],
        [⟨.orbit, 0, .empty⟩, ⟨.nova, 0, .empty⟩, ⟨.nova, 0, .empty⟩],
        [⟨.orbit, 0, .empty⟩, ⟨.prism, 0, .empty⟩, ⟨.pulse, 0, .empty⟩]]
    wins :=
      [{ id := "orbit-3", symbol := .orbit, ways := 1, amountMinor := 3, paidAmountMinor := 2
         cells := pathCells 0 0 0
         pathAwards :=
          [{ cells := pathCells 0 0 0, multiplier := 1, baseAmountMinor := 3, amountMinor := 3
             paidAmountMinor := 2 }] }]
    events := [winCapEvent demoConfig 25000]
    totalWinMinor := 2
    nextFeature :=
      { mode := .overdrive, remaining := 1, awarded := 8, betMinor := 10, winMinor := 25000,
        rageLevel := 1 } }

theorem nearCapOutcome_pays :
    ∃ raw, evaluateWaysForBet nearCapOutcome.grid demoConfig.paytable nearCapInput.betMinor
        demoConfig.bet.payUnitMinor = .ok raw ∧
      PaysProjection demoConfig nearCapInput nearCapOutcome raw :=
  (validateOutcomeAgainstConfig_pays
    (show validateOutcomeAgainstConfig demoConfig nearCapInput nearCapOutcome = .ok () by
      decide +kernel)).1

end SlotsGame.Game
