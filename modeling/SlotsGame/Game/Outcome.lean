/-
# SlotsGame.Game.Outcome -- the independent validator of a spin

`validateOutcomeAgainstConfig` accepts an outcome when its structure is right
(`validateOutcomeStructure`) and its payments are the ones the grid and the
definition give.  It is what an engine runs on its own result before returning it.
-/
import SlotsGame.Game.EventOrder

namespace SlotsGame.Game

open SlotsGame.Theory FeatureState

set_option autoImplicit false

def outcomeGridErrors : GridErrors where
  reelRows _ _ _ := "outcome: every reel must have the same row count"
  unknownSymbol _ _ := "outcome: grid contains an unknown symbol"
  misplaced _ _ _ := "outcome: wild and vault symbols are restricted to the middle reel"
  modifier reel row := s!"outcome: grid cell {reel},{row}: "

def validateOutcomeGrid (grid : Grid) : Except String Nat := do
  refuse (grid.length ≠ 3) "outcome: grid must contain exactly three reels"
  let rows := grid.rowCount
  refuse (rows < 3 ∨ rows > 8) "outcome: grid row count must be in [3,8]"
  checkCells outcomeGridErrors rows grid
  pure rows

def validateOutcomeWin (grid : Grid) (rows : Nat) (accounted : Int) (entry : Win × Nat) :
    Except String Int := do
  let (win, index) := entry
  refuse (Text.identifierPattern win.id = false ∨ isPayingSymbol win.symbol = false ∨
      win.ways < 1 ∨ win.amountMinor ≤ 0 ∨ win.paidAmountMinor < 0 ∨
      win.paidAmountMinor > win.amountMinor ∨ win.cells = [])
    s!"outcome: invalid win {index}"
  wrap s!"outcome: win {index}: " (validatePositions win.cells rows)
  wrap s!"outcome: win {index} path awards: " (validatePathAwards win grid)
  addOutcomeMoney accounted win.paidAmountMinor

def validateOutcomeEvent (rows : Nat) (accounted : Int) (entry : Event × Nat) :
    Except String Int := do
  let (event, index) := entry
  refuse (Text.identifierPattern event.type.name = false ∨ event.count < 0 ∨
      event.multiplier < 0 ∨ event.amountMinor < 0 ∨ event.cumulativeWinMinor < 0 ∨
      event.awarded < 0 ∨ event.rows < 0 ∨ event.ways < 0 ∨ event.level < 0 ∨
      event.total < 0 ∨ event.step < 0 ∨ event.fromMultiplier < 0 ∨ event.toMultiplier < 0)
    s!"outcome: invalid event {index}"
  refuse (event.amountMinor ≠ 0 ∧ isMonetaryAwardEvent event.type = false)
    s!"outcome: event {index} cannot carry a monetary award"
  refuse (∃ kind ∈ event.outcome, Text.identifierPattern kind.name = false)
    s!"outcome: invalid event {index} outcome"
  refuse (event.prize ≠ .empty ∧ Text.identifierPattern event.prize.label = false)
    s!"outcome: invalid event {index} prize"
  wrap s!"outcome: event {index}: " (validatePositions event.cells rows)
  refuse (isVaultCellEvent event.type = true ∧
      (event.reel ≠ 1 ∨ event.row < 0 ∨ event.row ≥ rows))
    s!"outcome: event {index} has an invalid Vault coordinate"
  addOutcomeMoney accounted event.amountMinor

def validateOutcomeFeature (state : FeatureState) (betMinor : Int) : Except String Unit := do
  let state := canonicalFeatureState state
  refuse (state.rageLevel < defaultRageLevel ∨ state.rageLevel > maxRageCollected ∨
      state.rageCollected < 0 ∨ state.rageCollected > maxRageCollected ∨
      (state.rageCollected = 0 ∧ state.rageLevel ≠ defaultRageLevel))
    "outcome: Rage meter state is invalid"
  if state.active = false then
    refuse (state.mode ≠ .none ∨ state.remaining ≠ 0 ∨ state.awarded ≠ 0 ∨
        state.betMinor ≠ 0 ∨ state.winMinor ≠ 0)
      "outcome: inactive feature state is not canonical"
  else do
    refuse (state.mode ≠ .expansion ∧ state.mode ≠ .overdrive)
      "outcome: active feature mode is invalid"
    refuse (state.remaining < 1 ∨ state.awarded < state.remaining ∨
        state.remaining > maxFeatureSpins ∨ state.awarded > maxFeatureSpins ∨
        state.betMinor ≠ betMinor ∨ betMinor ≤ 0 ∨ state.winMinor < 0)
      "outcome: active feature counters or bet are invalid"

def validateOutcomeStructure (input : SpinInput) (outcome : SpinOutcome) :
    Except String Unit := do
  let rows ← validateOutcomeGrid outcome.grid
  let accounted ← outcome.wins.zipIdx.foldlM (validateOutcomeWin outcome.grid rows) 0
  let accounted ← outcome.events.zipIdx.foldlM (validateOutcomeEvent rows) accounted
  refuse (outcome.totalWinMinor < 0 ∨ accounted ≠ outcome.totalWinMinor)
    "outcome: total win does not match visible awards"
  validateOutcomeFeature outcome.nextFeature input.betMinor
  validateFeatureEventOrder input outcome

def validateOutcomeAgainstValidatedConfig (config : Config) (input : SpinInput)
    (outcome : SpinOutcome) : Except String Unit := do
  wrap "outcome: invalid bet: " (config.validateBet input.betMinor)
  validateOutcomeStructure input outcome
  let raw ← wrap "outcome: recompute Ways: "
    (evaluateWaysForBet outcome.grid config.paytable input.betMinor config.bet.payUnitMinor)
  validateCappedAwardsAgainstConfig config input outcome raw

def validateOutcomeAgainstConfig (config : Config) (input : SpinInput) (outcome : SpinOutcome) :
    Except String Unit := do
  wrap "outcome: invalid game definition: " config.validate
  validateOutcomeAgainstValidatedConfig config input outcome

/-! ## Acceptance, part by part -/

section Acceptance

variable {config : Config} {input : SpinInput} {outcome : SpinOutcome}

theorem validateOutcomeAgainstConfig_ok :
    validateOutcomeAgainstConfig config input outcome = .ok () ↔
      config.Valid ∧ validateOutcomeAgainstValidatedConfig config input outcome = .ok () := by
  simp only [validateOutcomeAgainstConfig, bind_ok, wrap_ok, exists_unit, Config.Valid]

theorem validateOutcomeAgainstValidatedConfig_ok :
    validateOutcomeAgainstValidatedConfig config input outcome = .ok () ↔
      config.validateBet input.betMinor = .ok () ∧
      validateOutcomeStructure input outcome = .ok () ∧
      ∃ raw, evaluateWaysForBet outcome.grid config.paytable input.betMinor
          config.bet.payUnitMinor = .ok raw ∧
        validateCappedAwardsAgainstConfig config input outcome raw = .ok () := by
  simp only [validateOutcomeAgainstValidatedConfig, bind_ok, wrap_ok, exists_unit]

theorem validateOutcomeStructure_ok :
    validateOutcomeStructure input outcome = .ok () ↔
      ∃ rows, validateOutcomeGrid outcome.grid = .ok rows ∧
        ∃ won, outcome.wins.zipIdx.foldlM (validateOutcomeWin outcome.grid rows) 0 = .ok won ∧
        outcome.events.zipIdx.foldlM (validateOutcomeEvent rows) won =
          .ok outcome.totalWinMinor ∧
        0 ≤ outcome.totalWinMinor ∧
        validateOutcomeFeature outcome.nextFeature input.betMinor = .ok () ∧
        validateFeatureEventOrder input outcome = .ok () := by
  simp only [validateOutcomeStructure, bind_ok, refuse_ok, exists_unit, not_or, not_lt, not_not]
  constructor
  · rintro ⟨rows, grid, won, wins, accounted, events, ⟨nonneg, same⟩, rest⟩
    exact ⟨rows, grid, won, wins, same ▸ events, nonneg, rest⟩
  · rintro ⟨rows, grid, won, wins, events, nonneg, rest⟩
    exact ⟨rows, grid, won, wins, _, events, ⟨nonneg, rfl⟩, rest⟩

theorem validateFeatureEventOrder_ok :
    validateFeatureEventOrder input outcome = .ok () ↔
      validateWinCapEvent input.betMinor (canonicalFeatureState input.feature) outcome = .ok () ∧
      validateExpansionEvents (canonicalFeatureState input.feature) outcome = .ok () ∧
      validateVaultEvents input.betMinor (canonicalFeatureState input.feature) outcome = .ok () ∧
      validateRageAndWheelEvents input.betMinor (canonicalFeatureState input.feature) outcome =
        .ok () ∧
      validateFeatureCompletion (canonicalFeatureState input.feature) outcome = .ok () := by
  simp only [validateFeatureEventOrder, bind_ok, exists_unit]

/-- Only a vault award and a wheel award carry an amount. -/
theorem structure_amount_zero (accepted : validateOutcomeStructure input outcome = .ok ())
    {event : Event} (member : event ∈ outcome.events)
    (plain : isMonetaryAwardEvent event.type = false) : event.amountMinor = 0 := by
  obtain ⟨rows, _, won, _, events, _⟩ := validateOutcomeStructure_ok.mp accepted
  have each := foldlM_ok_forall
    (fun entry : Event × Nat =>
      isMonetaryAwardEvent entry.1.type = false → entry.1.amountMinor = 0)
    events (by
      rintro state ⟨event, index⟩ next stepped plain
      simp only [validateOutcomeEvent, bind_ok, refuse_ok, exists_unit] at stepped
      obtain ⟨_, carries, _⟩ := stepped
      by_contra nonzero
      exact carries ⟨nonzero, plain⟩)
  obtain ⟨index, found⟩ := List.getElem?_of_mem member
  exact each (event, index) (List.mk_mem_zipIdx_iff_getElem?.mpr found) plain

end Acceptance

end SlotsGame.Game
