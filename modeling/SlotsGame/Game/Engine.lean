/-
# SlotsGame.Game.Engine -- one spin

`Engine.spin` checks its input, settles a grid and its features, applies the cap
of the whole game, and returns only what the independent validator accepts.  The
source's one function is cut where its own blocks are: the opening
(`openSpin`), the grid, the vaults, the rage meter with its wheel.
-/
import SlotsGame.Game.Random

namespace SlotsGame.Game

open SlotsGame.Theory FeatureState

set_option autoImplicit false

/-- An engine holds an accepted definition and its source of randomness. -/
structure Engine (σ : Type) where
  config : Config
  random : Source σ
  valid : config.Valid

def newEngine {σ : Type} (config : Config) (random : Option (Source σ)) :
    Except String (Engine σ) :=
  if valid : config.Valid then
    match random with
    | some random => .ok { config := config, random := random, valid := valid }
    | none => .error "game engine requires a random source"
  else
    match config.validate with
    | .error text => .error ("game config: " ++ text)
    | .ok () => .error "game config: "

/-! ## The rage meter -/

/-- `rageLevelFor`: the number of the last threshold reached. -/
def rageLevelFor (collected : Int) (thresholds : List Int) : Int :=
  if collected ≤ 0 then defaultRageLevel
  else thresholds.zipIdx.foldl
    (fun level entry => if collected ≥ entry.1 then (entry.2 : Int) + 1 else level) 1

/-- The feature state a spin of this definition and bet may start from. -/
def validateFeatureState (state : FeatureState) (bet : Int) (config : Config) :
    Except String Unit := do
  let state := canonicalFeatureState state
  let feature := config.feature
  refuse (state.rageCollected < 0 ∨ state.rageCollected > maxRageCollected ∨
      state.rageLevel < defaultRageLevel ∨
      state.rageLevel > feature.rageLevelThresholds.length)
    "invalid Rage meter state"
  refuse (state.rageCollected = 0 ∧ state.rageLevel ≠ defaultRageLevel)
    "empty Rage meter must be at the default level"
  refuse (state.rageCollected > 0 ∧
      state.rageLevel ≠ rageLevelFor state.rageCollected feature.rageLevelThresholds)
    "Rage meter level does not match its collected count"
  if state.active = false then do
    refuse (state.mode ≠ .unset ∧ state.mode ≠ .none) "inactive feature has invalid mode"
    refuse (state.remaining ≠ 0 ∨ state.awarded ≠ 0 ∨ state.betMinor ≠ 0 ∨ state.winMinor ≠ 0)
      "inactive feature has non-zero free-spin counters"
  else do
    refuse (state.mode ≠ .expansion ∧ state.mode ≠ .overdrive)
      ("unknown active feature mode " ++ state.mode.name.quote)
    refuse (state.betMinor ≠ bet) "feature bet does not match spin bet"
    refuse (state.winMinor < 0) "feature win cannot be negative"
    let capMinor ← relabel "feature win exceeds the definition max win"
      (safeMul bet config.maxWinMultiplier)
    refuse (state.winMinor > capMinor) "feature win exceeds the definition max win"
    refuse (state.awarded < state.remaining ∨ state.awarded ≤ 0) "invalid feature counters"
    refuse (state.remaining > maxFeatureSpins ∨ state.awarded > maxFeatureSpins)
      "feature counters exceed the protocol limit"
    refuse (state.mode = .expansion ∧ state.awarded > feature.maxExpansionSpins)
      "expansion spin cap exceeded"
    refuse (state.mode = .overdrive ∧ state.awarded ≠ feature.initialFreeSpins)
      "overdrive cannot be extended"

namespace Engine

variable {σ : Type} (engine : Engine σ)

/-! ## The grid -/

def withoutSymbol (items : List WeightedSymbol) (excluded : Symbol) : List WeightedSymbol :=
  items.filter fun item => item.value ≠ excluded

structure ReelScan where
  cells : List Cell := []
  settledRage : Int

/-- One cell; a base game grid stops drawing rage symbols after the third. -/
def generateCell (weighted : List WeightedSymbol) (mode : FeatureMode) (scan : ReelScan) :
    Random σ ReelScan := do
  let cellWeights :=
    if mode = .none ∧ scan.settledRage = 3 then withoutSymbol weighted .surge else weighted
  let symbol ← pickWeightedSymbol engine.random cellWeights
  let settledRage := if symbol = .surge then scan.settledRage + 1 else scan.settledRage
  let multiplier ←
    (if symbol = .wild then pickWeightedInt engine.random engine.config.wildMultipliers
    else pure 0)
  pure { cells := scan.cells ++ [{ symbol := symbol, multiplier := multiplier }]
         settledRage := settledRage }

structure GridScan where
  grid : Grid := []
  settledRage : Int := 0

def generateReel (rows : Nat) (mode : FeatureMode) (scan : GridScan)
    (reel : List WeightedSymbol) : Random σ GridScan := do
  let weighted :=
    if mode = .expansion ∨ mode = .overdrive then withoutSymbol reel .surge else reel
  let settled ← (List.range rows).foldlM
    (fun state _ => engine.generateCell weighted mode state) { settledRage := scan.settledRage }
  pure { grid := scan.grid ++ [settled.cells], settledRage := settled.settledRage }

def generateGrid (rows : Int) (mode : FeatureMode) : Random σ Grid := do
  refuse (rows < 3 ∨ rows > 8) s!"row count {rows} is outside [3,8]"
  let scan ← engine.config.reels.toList.foldlM (engine.generateReel rows.toNat mode) {}
  pure scan.grid

/-! ## Vaults -/

structure VaultResolution where
  grid : Grid
  events : List Event := []
  total : Int := 0
  next : FeatureState

def setVault (grid : Grid) (position : Position) (multiplier : Int) (prize : Prize) : Grid :=
  grid.modifyCell position fun cell => { cell with multiplier := multiplier, prize := prize }

/-- A vault outside King Spin: its reward, then a payment or a free spin. -/
def unlockVault (input : SpinInput) (state : VaultResolution) (position : Position) :
    Random σ VaultResolution := do
  let reward ← pickVaultReward engine.random engine.config (input.feature.mode = .expansion)
  match reward with
  | .freeSpin =>
      let grid := state.grid.modifyCell position fun cell => { cell with prize := .freeSpin }
      let reveal : Event :=
        { type := .vaultUnlocked, reel := position.reel, row := position.row, prize := .freeSpin }
      if state.next.awarded < engine.config.feature.maxExpansionSpins then
        pure { grid := grid
               events := state.events ++ [reveal,
                 { type := .freeSpinAwarded, count := 1, reel := position.reel,
                   row := position.row }]
               total := state.total
               next := { state.next with
                         remaining := state.next.remaining + 1
                         awarded := state.next.awarded + 1 } }
      else
        pure { grid := grid
               events := state.events ++ [reveal,
                 { type := .freeSpinCapReached, reel := position.reel, row := position.row }]
               total := state.total
               next := state.next }
  | .multiplier multiplier => do
      let prize := vaultPrizeName multiplier false
      let award ← safeMul input.betMinor multiplier
      let total ← safeAdd state.total award
      pure { grid := setVault state.grid position multiplier prize
             events := state.events ++ [
               { type := .vaultUnlocked, reel := position.reel, row := position.row,
                 prize := prize, multiplier := multiplier },
               { type := .vaultAwarded, reel := position.reel, row := position.row,
                 prize := prize, multiplier := multiplier, amountMinor := award }]
             total := total
             next := state.next }

/-- An event about all the vaults of the grid. -/
def vaultGroupEvent (type : EventType) (positions : List Position) : Event :=
  { type := type, count := positions.length, cells := positions }

structure ResolvedVault where
  row : Int
  multiplier : Int

structure KingReveal where
  resolved : List ResolvedVault := []
  events : List Event := []

def revealKingVault (state : KingReveal) (position : Position) : Random σ KingReveal := do
  let multiplier ← pickWeightedInt engine.random engine.config.vaultMultipliers
  pure { resolved := state.resolved ++ [{ row := position.row, multiplier := multiplier }]
         events := state.events ++ [
           { type := .vaultUnlocked, reel := position.reel, row := position.row,
             prize := vaultPrizeName multiplier true, multiplier := multiplier }] }

structure KingUpgrade where
  resolved : List ResolvedVault := []
  events : List Event := []

/-- A base jackpot is doubled by chance. -/
def doubleJackpot (multiplier : Int) : Random σ Int :=
  if isBaseJackpotMultiplier multiplier then do
    let doubled ← chance engine.random engine.config.feature.overdriveDoubleChanceBP
    if doubled then safeMul multiplier 2 else pure multiplier
  else pure multiplier

def upgradeKingVault (step : Int) (state : KingUpgrade) (vault : ResolvedVault) :
    Random σ KingUpgrade := do
  let picked ← pickGreaterWeightedInt engine.random engine.config.overdriveMultipliers
    vault.multiplier
  match picked with
  | none => pure { state with resolved := state.resolved ++ [vault] }
  | some picked => do
      let upgraded ← engine.doubleJackpot picked
      pure { resolved := state.resolved ++ [{ row := vault.row, multiplier := upgraded }]
             events := state.events ++ [
               { type := .vaultUpgraded, reel := 1, row := vault.row, step := step,
                 prize := vaultPrizeName upgraded true, fromMultiplier := vault.multiplier,
                 toMultiplier := upgraded }] }

/-- The upgrade rounds left, from `step` on; a round without an upgrade is the last. -/
def upgradeRounds : Nat → Int → KingUpgrade → Random σ KingUpgrade
  | 0, _, state => pure state
  | rounds + 1, step, state => do
      let upgrade ← chance engine.random engine.config.feature.kingSpinUpgradeChanceBP
      if upgrade = false then pure state
      else do
        let upgraded ← state.resolved.foldlM (engine.upgradeKingVault step) {}
        if upgraded.events = [] then pure state
        else
          upgradeRounds rounds (step + 1)
            { resolved := upgraded.resolved
              events := state.events ++
                { type := .vaultsUpgradeStarted, count := upgraded.events.length, step := step } ::
                  upgraded.events }

structure KingPayout where
  grid : Grid
  events : List Event := []
  total : Int := 0

def payKingVault (betMinor : Int) (state : KingPayout) (vault : ResolvedVault) :
    Except String KingPayout := do
  let prize := vaultPrizeName vault.multiplier true
  let award ← safeMul betMinor vault.multiplier
  let total ← safeAdd state.total award
  pure { grid := setVault state.grid { reel := 1, row := vault.row } vault.multiplier prize
         events := state.events ++ [
           { type := .vaultAwarded, reel := 1, row := vault.row, prize := prize,
             multiplier := vault.multiplier, amountMinor := award }]
         total := total }

def payKingVaults (betMinor : Int) (grid : Grid) (resolved : List ResolvedVault) :
    Except String KingPayout :=
  resolved.foldlM (payKingVault betMinor) { grid := grid }

/-- King Spin reveals every vault, upgrades them in rounds, and pays them last. -/
def resolveKingSpinVaults (grid : Grid) (positions : List Position) (betMinor : Int) :
    Random σ KingPayout := do
  let reveal ← positions.foldlM engine.revealKingVault {}
  let upgraded ← engine.upgradeRounds engine.config.feature.kingSpinMaxUpgradeRounds.toNat 1
    { resolved := reveal.resolved }
  let payout ← payKingVaults betMinor grid upgraded.resolved
  pure { payout with
         events := vaultGroupEvent .vaultsUnlockStarted positions :: reveal.events ++
           vaultGroupEvent .vaultsUnlockCompleted positions :: upgraded.events ++ payout.events }

def resolveVaults (grid : Grid) (input : SpinInput) (next : FeatureState) :
    Random σ VaultResolution := do
  let positions := positionsForSymbol grid .vault
  let landed := vaultGroupEvent .vaultsLanded positions
  if positions = [] then pure { grid := grid, next := next }
  else if input.feature.mode = .overdrive then do
    let payout ← engine.resolveKingSpinVaults grid positions input.betMinor
    pure { grid := payout.grid, events := landed :: payout.events, total := payout.total
           next := next }
  else do
    let unlocked ← chance engine.random engine.config.feature.vaultUnlockChanceBP
    if unlocked = false then
      pure { grid := grid, events := [landed, vaultGroupEvent .vaultsLocked positions]
             next := next }
    else do
      let resolved ← positions.foldlM (engine.unlockVault input) { grid := grid, next := next }
      pure { resolved with
             events := landed :: vaultGroupEvent .vaultsUnlockStarted positions ::
               resolved.events ++ [vaultGroupEvent .vaultsUnlockCompleted positions] }

/-! ## The rage meter and the wheel -/

structure RageResolution where
  events : List Event := []
  total : Int
  next : FeatureState

/-- Credit the surges to the meter; three of them trigger without it. -/
def creditRage (surgeCount : Nat) (next : FeatureState) : Except String FeatureState := do
  refuse (next.rageCollected > maxRageCollected - surgeCount)
    "Rage meter count exceeds the protocol limit"
  let collected := next.rageCollected + surgeCount
  pure { next with
         rageCollected := collected
         rageLevel := rageLevelFor collected engine.config.feature.rageLevelThresholds }

def surgeCollectedEvent (surgeCells : List Position) (triggered : Bool) (next : FeatureState) :
    Event :=
  let reset := triggered && decide (surgeCells.length < 3)
  { type := .surgeCollected, count := surgeCells.length, cells := surgeCells,
    triggered := triggered, guaranteed := surgeCells.length = 3,
    level := if reset then defaultRageLevel else next.rageLevel,
    total := if reset then 0 else next.rageCollected }

/-- The wheel's award: a payment, or a feature that starts with the next spin. -/
def awardWheel (input : SpinInput) (wheel : WeightedWheel) (state : RageResolution) :
    Except String RageResolution := do
  let spins := engine.config.feature.initialFreeSpins
  match wheel.kind with
  | .instant => do
      let award ← safeMul input.betMinor wheel.multiplier
      let total ← safeAdd state.total award
      pure { events := state.events ++ [
               { type := .wheelAwarded, outcome := some .instant,
                 prize := vaultPrizeName wheel.multiplier false, multiplier := wheel.multiplier,
                 amountMinor := award }]
             total := total
             next := state.next }
  | .expansion | .overdrive =>
      let mode := wheel.kind.toMode
      pure { events := state.events ++ [
               { type := .wheelAwarded, outcome := some wheel.kind },
               { type := .freeSpinsStarted, mode := mode, awarded := spins }]
             total := state.total
             next :=
               { mode := mode, remaining := spins, awarded := spins, betMinor := input.betMinor
                 rageLevel := state.next.rageLevel, rageCollected := state.next.rageCollected } }
  | .other name => throw ("unsupported wheel result " ++ name.quote)

def transformRage (grid : Grid) (surgeCount : Nat) (state : RageResolution) :
    Random σ RageResolution := do
  let transformed ← pickRageTransformCells engine.random grid (3 - surgeCount)
  pure { events := state.events ++ [
           { type := .rageTransformed, count := transformed.length, cells := transformed,
             level := defaultRageLevel, total := 0 }]
         total := state.total
         next := { state.next with rageLevel := defaultRageLevel, rageCollected := 0 } }

/-- The base game after its vaults. -/
def resolveRage (grid : Grid) (input : SpinInput) (total : Int) (next : FeatureState) :
    Random σ RageResolution := do
  let surgeCells := positionsForSymbol grid .surge
  let surgeCount := surgeCells.length
  let triggered ← surgeTriggers engine.random engine.config surgeCount
  let next ←
    (if 0 < surgeCount ∧ surgeCount < 3 then engine.creditRage surgeCount next else pure next)
  let collected :=
    if 0 < surgeCount then [surgeCollectedEvent surgeCells triggered next] else []
  let state : RageResolution := { events := collected, total := total, next := next }
  if triggered = false then pure state
  else do
    let state ←
      (if surgeCount < 3 then engine.transformRage grid surgeCount state else pure state)
    let wheel ← pickWheel engine.random engine.config.feature.wheel
    engine.awardWheel input wheel
      { state with events := state.events ++ [{ type := .wheelStarted }] }

/-! ## The spin -/

structure Opening where
  rows : Int
  events : List Event
  next : FeatureState

/-- Use up one free spin and draw the height of an expanded grid. -/
def openSpin (feature : FeatureState) : Random σ Opening :=
  if feature.active = false then
    pure { rows := 3, events := [], next := feature.withoutFreeSpins }
  else do
    let next := { feature with remaining := feature.remaining - 1 }
    if feature.mode = .expansion then do
      let rows ← pickWeightedInt engine.random engine.config.feature.expansionRows
      pure { rows := rows
             events := [{ type := .gridExpanded, rows := rows, ways := rows * rows * rows }]
             next := next }
    else pure { rows := 3, events := [], next := next }

/-- The outcome before the cap, from an accepted input. -/
def settle (input : SpinInput) : Random σ SpinOutcome := do
  let opening ← engine.openSpin input.feature
  let grid ← engine.generateGrid opening.rows input.feature.mode
  let ways ← evaluateWaysForBet grid engine.config.paytable input.betMinor
    engine.config.bet.payUnitMinor
  let vaults ← engine.resolveVaults grid input opening.next
  let total ← safeAdd ways.total vaults.total
  let rage ←
    (if input.feature.active then pure { total := total, next := vaults.next }
    else engine.resolveRage vaults.grid input total vaults.next)
  pure { grid := vaults.grid
         wins := ways.wins
         events := opening.events ++ vaults.events ++ rage.events
         totalWinMinor := rage.total
         nextFeature := rage.next }

/-- The outcome of an input after `canonicalFeatureState`, before validation. -/
def produce (input : SpinInput) : Random σ SpinOutcome := do
  let canonical := { input with feature := canonicalFeatureState input.feature }
  let outcome ← engine.settle canonical
  applyWinCap engine.config canonical outcome

def spin (input : SpinInput) : Random σ SpinOutcome := do
  engine.config.validateBet input.betMinor
  validateFeatureState input.feature input.betMinor engine.config
  let outcome ← engine.produce input
  let canonical := { input with feature := canonicalFeatureState input.feature }
  wrap "game engine produced an invalid outcome: "
    (validateOutcomeAgainstValidatedConfig engine.config canonical outcome)
  pure outcome

/-! ## What a returned outcome has passed -/

variable {engine} in
theorem spin_ok {input : SpinInput} {outcome : SpinOutcome} {s s' : σ} :
    engine.spin input s = .ok (outcome, s') ↔
      engine.config.validateBet input.betMinor = .ok () ∧
      validateFeatureState input.feature input.betMinor engine.config = .ok () ∧
      engine.produce input s = .ok (outcome, s') ∧
      validateOutcomeAgainstValidatedConfig engine.config
        { input with feature := canonicalFeatureState input.feature } outcome = .ok () := by
  simp only [spin, run_bind_ok, run_lift_ok, run_pure_ok, wrap_ok, exists_unit]
  constructor
  · rintro ⟨_, ⟨bet, rfl⟩, _, ⟨feature, rfl⟩, _, _, produced, _, ⟨accepted, rfl⟩, same⟩
    cases same
    exact ⟨bet, feature, produced, accepted⟩
  · rintro ⟨bet, feature, produced, accepted⟩
    exact ⟨_, ⟨bet, rfl⟩, _, ⟨feature, rfl⟩, _, _, produced, _, ⟨accepted, rfl⟩, rfl⟩

end Engine

end SlotsGame.Game
