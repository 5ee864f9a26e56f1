/-
# SlotsGame.Game.Config -- the game definition and its validation

`Config.validate` is the only gate a definition passes before an engine is built
from it.  Each block of the source's one function is a definition of its own, in
the source's order and with its error texts; `Config.Valid` is acceptance.
-/
import Mathlib.Data.List.Dedup
import SlotsGame.Game.Money
import SlotsGame.Game.Types

namespace SlotsGame.Game

open SlotsGame.Theory

set_option autoImplicit false

def engineRulesVersion : String := "slots-game-ways3-features-win-cap-paid-facts-v6"

def primalMaxWinMultiplier : Int := 2500

structure WeightedSymbol where
  value : Symbol
  weight : Int
  deriving DecidableEq, Repr

structure WeightedInt where
  value : Int
  weight : Int
  deriving DecidableEq, Repr

structure WeightedWheel where
  kind : WheelKind
  multiplier : Int := 0
  weight : Int
  deriving DecidableEq, Repr

structure BetConfig where
  minMinor : Int
  maxMinor : Int
  stepMinor : Int
  payUnitMinor : Int
  defaultMinor : Int
  optionsMinor : List Int
  deriving DecidableEq, Repr

structure FeatureConfig where
  surgeOneChanceBP : Int
  surgeTwoChanceBP : Int
  initialFreeSpins : Int
  maxExpansionSpins : Int
  vaultUnlockChanceBP : Int
  vaultFreeSpinWeight : Int
  kingSpinUpgradeChanceBP : Int
  kingSpinMaxUpgradeRounds : Int
  overdriveDoubleChanceBP : Int
  expansionRows : List WeightedInt
  rageLevelThresholds : List Int
  wheel : List WeightedWheel
  deriving DecidableEq, Repr

/-- `map[Symbol]int64`: no symbol has two values. -/
structure Paytable where
  entries : List (Symbol × Int)
  distinct : (entries.map Prod.fst).Nodup
  deriving DecidableEq, Repr

/-- The value of a symbol; zero for one the map does not hold. -/
def Paytable.value (paytable : Paytable) (symbol : Symbol) : Int :=
  (paytable.entries.lookup symbol).getD 0

structure Config where
  gameID : String
  definitionVersion : String
  engineRulesVersion : String
  maxWinMultiplier : Int
  bet : BetConfig
  reels : Vector (List WeightedSymbol) 3
  paytable : Paytable
  wildMultipliers : List WeightedInt
  vaultMultipliers : List WeightedInt
  overdriveMultipliers : List WeightedInt
  feature : FeatureConfig
  deriving DecidableEq, Repr

/-! ## Supported multipliers and their prize names -/

def isSupportedWildMultiplier (multiplier : Int) : Bool :=
  [0, 1, 2, 3, 5, 10, 25, 50, 100].contains multiplier

def isSupportedWheelMultiplier (multiplier : Int) : Bool :=
  [10, 30, 75, 250, 1000].contains multiplier

def isSupportedBaseVaultMultiplier (multiplier : Int) : Bool :=
  (1 ≤ multiplier && multiplier ≤ 10) || isSupportedWheelMultiplier multiplier

def isSupportedKingVaultMultiplier (multiplier : Int) : Bool :=
  isSupportedBaseVaultMultiplier multiplier || [20, 60, 150, 500].contains multiplier

def isBaseJackpotMultiplier (multiplier : Int) : Bool :=
  multiplier = 10 || multiplier = 30 || multiplier = 75 || multiplier = 250

/-- The prize a multiplier is shown as; `Prize.empty` is the empty string. -/
def vaultPrizeName (multiplier : Int) (kingSpin : Bool) : Prize :=
  if kingSpin && multiplier = 20 then .mini2x
  else if kingSpin && multiplier = 60 then .minor2x
  else if kingSpin && multiplier = 150 then .major2x
  else if kingSpin && multiplier = 500 then .mega2x
  else if 1 ≤ multiplier && multiplier ≤ 9 then .times multiplier.toNat
  else if multiplier = 10 then .mini
  else if multiplier = 30 then .minor
  else if multiplier = 75 then .major
  else if multiplier = 250 then .mega
  else if multiplier = 1000 then .grand
  else .empty

/-! ## Bets -/

namespace Config

def validateBetBounds (config : Config) (bet : Int) : Except String Unit := do
  let low := config.bet.minMinor
  let high := config.bet.maxMinor
  let step := config.bet.stepMinor
  refuse (bet < low ∨ bet > high) s!"bet must be between {low} and {high} minor units"
  refuse (bet % step ≠ 0) s!"bet must be a multiple of {step} minor units"

def validateBet (config : Config) (bet : Int) : Except String Unit := do
  config.validateBetBounds bet
  refuse (bet ∉ config.bet.optionsMinor) s!"bet {bet} is not a configured bet option"

/-- One option against the options in front of it. -/
def validateBetOption (config : Config) (seen : List Int) (option : Int) :
    Except String (List Int) := do
  wrap s!"bet option {option}: " (config.validateBetBounds option)
  refuse (option ∈ seen) s!"duplicate bet option {option}"
  refuse (∃ previous ∈ seen.getLast?, option ≤ previous)
    "bet options must be in strictly ascending order"
  pure (seen ++ [option])

def validateBetConfig (config : Config) : Except String Unit := do
  let bet := config.bet
  refuse (bet.minMinor ≤ 0 ∨ bet.maxMinor < bet.minMinor ∨ bet.stepMinor ≤ 0 ∨
    bet.payUnitMinor ≤ 0) "invalid bet limits"
  refuse (config.maxWinMultiplier ≠ primalMaxWinMultiplier)
    s!"max win multiplier must equal {primalMaxWinMultiplier} for engine rules {Game.engineRulesVersion}"
  refuse (bet.maxMinor > maxInt64 / config.maxWinMultiplier) "invalid max win multiplier"
  refuse (bet.optionsMinor = []) "at least one bet option is required"
  let seenBetOptions ← bet.optionsMinor.foldlM config.validateBetOption []
  refuse (bet.defaultMinor ∉ seenBetOptions) "default bet must be a configured bet option"

end Config

/-! ## Reels and weight tables -/

structure ReelScan where
  seenSymbols : List Symbol := []
  totalWeight : Int := 0
  nonSurgeWeight : Int := 0

def validateReelItem (index : Nat) (scan : ReelScan) (item : WeightedSymbol) :
    Except String ReelScan := do
  refuse (item.weight ≤ 0 ∨ isKnownSymbol item.value = false)
    s!"reel {index} has invalid weighted symbol"
  refuse (item.value ∈ scan.seenSymbols)
    (s!"reel {index} has duplicate symbol " ++ item.value.name)
  refuse (item.weight > maxInt64 - scan.totalWeight) s!"reel {index} weights overflow"
  refuse (index ≠ 1 ∧ (item.value = .wild ∨ item.value = .vault))
    (item.value.name ++ " may only appear on middle reel")
  pure { seenSymbols := item.value :: scan.seenSymbols
         totalWeight := scan.totalWeight + item.weight
         nonSurgeWeight :=
           if item.value ≠ .surge then scan.nonSurgeWeight + item.weight
           else scan.nonSurgeWeight }

def validateReel (index : Nat) (reel : List WeightedSymbol) : Except String Unit := do
  refuse (reel = []) s!"reel {index} has no symbols"
  let scan ← reel.foldlM (validateReelItem index) {}
  refuse (scan.nonSurgeWeight = 0)
    s!"reel {index} must contain a non-Rage symbol for Free Spins"

structure WeightScan where
  seen : List Int := []
  totalWeight : Int := 0

def validateWeightedItem (name rule : String) (least : Int) (scan : WeightScan)
    (item : WeightedInt) : Except String WeightScan := do
  let value := item.value
  refuse (value < least ∨ item.weight ≤ 0) (name ++ " must have " ++ rule)
  refuse (value ∈ scan.seen) (name ++ s!" contain duplicate value {value}")
  refuse (item.weight > maxInt64 - scan.totalWeight) (name ++ " weights overflow")
  pure { seen := value :: scan.seen, totalWeight := scan.totalWeight + item.weight }

/-- `validateWeightedInts` and `validateWildMultipliers` are this check with their
own least value and rule. -/
def validateWeightedItems (name rule : String) (least : Int) (items : List WeightedInt) :
    Except String Unit := do
  refuse (items = []) (name ++ " are required")
  let _ ← items.foldlM (validateWeightedItem name rule least) {}

def validateWeightedInts (name : String) (items : List WeightedInt) : Except String Unit :=
  validateWeightedItems name "positive values and weights" 1 items

def validateWildMultipliers (items : List WeightedInt) : Except String Unit :=
  validateWeightedItems "wild multipliers" "non-negative values and positive weights" 0 items

/-- Every value of a table is one the protocol names. -/
def validateSupported (described : String) (supported : Int → Bool) (items : List WeightedInt) :
    Except String Unit :=
  items.forM fun item =>
    let value := item.value
    refuse (supported value = false) (s!"unsupported " ++ described ++ s!" multiplier {value}")

def validatePaytable (paytable : Paytable) : Except String Unit := do
  payingSymbols.forM fun symbol =>
    refuse (paytable.value symbol ≤ 0) ("missing positive paytable value for " ++ symbol.name)
  refuse (paytable.entries.length ≠ payingSymbols.length)
    "paytable must contain exactly the paying symbols"

/-! ## Features -/

def validateExpansionRows (items : List WeightedInt) : Except String Unit := do
  validateWeightedInts "expansion rows" items
  items.forM fun row =>
    refuse (row.value < 3 ∨ row.value > 8) "expansion row values must be in [3,8]"
  refuse ((items.map (·.value)).dedup.length ≠ 6)
    "expansion rows must define every height from 3 through 8"

/-- One threshold after the one in front of it. -/
def validateRageThreshold (previous : Option Int) (threshold : Int) :
    Except String (Option Int) := do
  refuse (threshold < 0 ∨ threshold > maxRageCollected ∨ ∃ p ∈ previous, threshold ≤ p)
    "rage level thresholds must be non-negative and strictly ascending"
  pure (some threshold)

def validateRageThresholds (thresholds : List Int) : Except String Unit := do
  refuse (thresholds = [] ∨ thresholds.length > maxRageCollected ∨ thresholds.head? ≠ some 0)
    "rage level thresholds must start at zero"
  let _ ← thresholds.foldlM validateRageThreshold none

structure WheelScan where
  seenWheel : List String := []
  totalWheelWeight : Int := 0

def validateWheelItem (scan : WheelScan) (item : WeightedWheel) : Except String WheelScan := do
  let multiplier := item.multiplier
  refuse (item.weight ≤ 0) "wheel weight must be positive"
  refuse (item.weight > maxInt64 - scan.totalWheelWeight) "wheel weights overflow"
  refuse (item.kind ≠ .instant ∧ item.kind ≠ .expansion ∧ item.kind ≠ .overdrive)
    ("unknown wheel kind " ++ item.kind.name.quote)
  refuse (item.kind = .instant ∧ multiplier ≤ 0) "instant wheel multiplier must be positive"
  refuse (item.kind = .instant ∧ isSupportedWheelMultiplier multiplier = false)
    s!"unsupported instant wheel multiplier {multiplier}"
  refuse (item.kind ≠ .instant ∧ multiplier ≠ 0)
    "feature wheel outcomes cannot have a multiplier"
  let key := item.kind.name ++ s!":{multiplier}"
  refuse (key ∈ scan.seenWheel) ("duplicate wheel outcome " ++ key)
  pure { seenWheel := key :: scan.seenWheel
         totalWheelWeight := scan.totalWheelWeight + item.weight }

def validateFeatureConfig (feature : FeatureConfig) : Except String Unit := do
  refuse (feature.wheel = [] ∨ feature.initialFreeSpins ≠ 8 ∨
      feature.maxExpansionSpins < feature.initialFreeSpins ∨
      feature.maxExpansionSpins > maxFeatureSpins ∨
      feature.vaultFreeSpinWeight < 0 ∨ feature.kingSpinMaxUpgradeRounds < 0 ∨
      feature.kingSpinMaxUpgradeRounds > 16)
    "invalid feature configuration"
  [feature.surgeOneChanceBP, feature.surgeTwoChanceBP, feature.vaultUnlockChanceBP,
    feature.kingSpinUpgradeChanceBP, feature.overdriveDoubleChanceBP].forM fun chance =>
      refuse (chance < 0 ∨ chance > 10000) "feature chance must be in [0,10000]"
  validateExpansionRows feature.expansionRows
  validateRageThresholds feature.rageLevelThresholds
  let _ ← feature.wheel.foldlM validateWheelItem {}

/-! ## Arithmetic bounds

The largest Ways result, eight vault awards and one instant wheel award together
stay inside 64 bits, so no spin of an accepted definition can overflow. -/

/-- A plain wild pays as one. -/
def wildFactor (multiplier : Int) : Int := if multiplier = 0 then 1 else multiplier

def maxWildMultiplier (items : List WeightedInt) : Int :=
  items.foldl (fun most item => max most (wildFactor item.value)) 1

def maximumWaysPerSymbol : Int := 8 * 8 * 8

def maximumVaultsPerSpin : Int := 8

structure LiabilityScan where
  rawTotal : Int := 0
  scaledTotal : Int := 0

def addWaysLiability (config : Config) (scan : LiabilityScan) (symbol : Symbol) :
    Except String LiabilityScan := do
  let overflow := "Ways liability overflows int64 before the win cap"
  let scaledOverflow := "scaled Ways liability overflows int64 before the win cap"
  let pay := config.paytable.value symbol
  let raw ← relabel overflow (safeMul pay (maxWildMultiplier config.wildMultipliers))
  let raw ← relabel overflow (safeMul raw maximumWaysPerSymbol)
  let rawTotal ← relabel overflow (safeAdd scan.rawTotal raw)
  let scaled ← relabel scaledOverflow
    (scaleWaysAward raw config.bet.maxMinor config.bet.payUnitMinor)
  let scaledTotal ← relabel scaledOverflow (safeAdd scan.scaledTotal scaled)
  pure { rawTotal := rawTotal, scaledTotal := scaledTotal }

def addKingVaultLiability (most : Int) (item : WeightedInt) : Except String Int := do
  let value ←
    (if isBaseJackpotMultiplier item.value then
      relabel "Vault liability overflows int64 before the win cap" (safeMul item.value 2)
    else pure item.value)
  pure (max most value)

def maxWheelMultiplier (items : List WeightedWheel) : Int :=
  items.foldl (fun most item => if item.kind = .instant then max most item.multiplier else most) 0

namespace Config

def validateSpinArithmeticBounds (config : Config) : Except String Unit := do
  let ways ← payingSymbols.foldlM (addWaysLiability config) {}
  refuse (ways.rawTotal ≤ 0 ∨ ways.scaledTotal ≤ 0) "invalid Ways liability bound"
  let maxVaultMultiplier := config.vaultMultipliers.foldl (fun most item => max most item.value) 0
  let maxVaultMultiplier ←
    config.overdriveMultipliers.foldlM addKingVaultLiability maxVaultMultiplier
  let vaultOverflow := "Vault liability overflows int64 before the win cap"
  let vaultLiability ← relabel vaultOverflow (safeMul config.bet.maxMinor maxVaultMultiplier)
  let vaultLiability ← relabel vaultOverflow (safeMul vaultLiability maximumVaultsPerSpin)
  let wheelLiability ← relabel "Wheel liability overflows int64 before the win cap"
    (safeMul config.bet.maxMinor (maxWheelMultiplier config.feature.wheel))
  let combinedOverflow := "combined raw spin liability overflows int64 before the win cap"
  let combined ← relabel combinedOverflow (safeAdd ways.scaledTotal vaultLiability)
  let _ ← relabel combinedOverflow (safeAdd combined wheelLiability)

def validate (config : Config) : Except String Unit := do
  refuse (Text.identifierPattern config.gameID = false) "invalid game id"
  refuse (Text.definitionVersionPattern config.definitionVersion = false)
    "invalid game definition version"
  refuse (config.engineRulesVersion ≠ Game.engineRulesVersion)
    "game definition engine rules version does not match this binary"
  config.validateBetConfig
  config.reels.toList.zipIdx.forM fun (reel, index) => validateReel index reel
  validatePaytable config.paytable
  validateWildMultipliers config.wildMultipliers
  validateSupported "wild" isSupportedWildMultiplier config.wildMultipliers
  validateWeightedInts "vault multipliers" config.vaultMultipliers
  validateSupported "base Vault" isSupportedBaseVaultMultiplier config.vaultMultipliers
  validateWeightedInts "overdrive multipliers" config.overdriveMultipliers
  validateSupported "King Spin Vault" isSupportedKingVaultMultiplier config.overdriveMultipliers
  validateFeatureConfig config.feature
  config.validateSpinArithmeticBounds

/-- The definitions an engine is built from. -/
def Valid (config : Config) : Prop := config.validate = .ok ()

instance (config : Config) : Decidable config.Valid :=
  inferInstanceAs (Decidable (config.validate = .ok ()))

end Config

/-! ## The demonstration definition -/

def demoConfig : Config where
  gameID := "iron-colossus-demo"
  definitionVersion := "demo-2026-07-29.5"
  engineRulesVersion := engineRulesVersion
  maxWinMultiplier := primalMaxWinMultiplier
  bet :=
    { minMinor := 10
      maxMinor := 10000
      stepMinor := 10
      payUnitMinor := 100
      defaultMinor := 100
      optionsMinor := [10, 20, 50, 100, 200, 300, 400, 600, 1000, 2000, 5000, 10000] }
  reels := #v[
    [⟨.orbit, 22⟩, ⟨.prism, 21⟩, ⟨.pulse, 19⟩, ⟨.nova, 17⟩, ⟨.circuit, 9⟩, ⟨.tank, 6⟩,
      ⟨.surge, 6⟩],
    [⟨.orbit, 19⟩, ⟨.prism, 18⟩, ⟨.pulse, 17⟩, ⟨.nova, 15⟩, ⟨.circuit, 9⟩, ⟨.tank, 5⟩,
      ⟨.wild, 7⟩, ⟨.vault, 5⟩, ⟨.surge, 5⟩],
    [⟨.orbit, 22⟩, ⟨.prism, 20⟩, ⟨.pulse, 19⟩, ⟨.nova, 17⟩, ⟨.circuit, 10⟩, ⟨.tank, 6⟩,
      ⟨.surge, 6⟩]]
  paytable :=
    { entries := [(.prism, 10), (.orbit, 30), (.pulse, 80), (.nova, 100), (.tank, 150),
        (.circuit, 200)]
      distinct := by decide }
  wildMultipliers :=
    [⟨0, 30⟩, ⟨1, 25⟩, ⟨2, 24⟩, ⟨3, 10⟩, ⟨5, 6⟩, ⟨10, 3⟩, ⟨25, 1⟩, ⟨50, 1⟩, ⟨100, 1⟩]
  vaultMultipliers :=
    [⟨1, 22⟩, ⟨2, 18⟩, ⟨3, 15⟩, ⟨4, 12⟩, ⟨5, 9⟩, ⟨6, 7⟩, ⟨7, 5⟩, ⟨8, 4⟩, ⟨9, 3⟩, ⟨10, 3⟩,
      ⟨30, 1⟩, ⟨75, 1⟩, ⟨250, 1⟩, ⟨1000, 1⟩]
  overdriveMultipliers :=
    [⟨2, 18⟩, ⟨3, 16⟩, ⟨4, 14⟩, ⟨5, 12⟩, ⟨6, 10⟩, ⟨7, 8⟩, ⟨8, 7⟩, ⟨9, 6⟩, ⟨10, 5⟩, ⟨20, 3⟩,
      ⟨30, 4⟩, ⟨60, 2⟩, ⟨75, 3⟩, ⟨150, 2⟩, ⟨250, 2⟩, ⟨500, 1⟩, ⟨1000, 1⟩]
  feature :=
    { surgeOneChanceBP := 800
      surgeTwoChanceBP := 2400
      initialFreeSpins := 8
      maxExpansionSpins := 30
      vaultUnlockChanceBP := 2500
      vaultFreeSpinWeight := 8
      kingSpinUpgradeChanceBP := 2800
      kingSpinMaxUpgradeRounds := 3
      overdriveDoubleChanceBP := 1500
      expansionRows := [⟨3, 1⟩, ⟨4, 1⟩, ⟨5, 1⟩, ⟨6, 1⟩, ⟨7, 1⟩, ⟨8, 1⟩]
      rageLevelThresholds := [0, 12, 24, 36, 48, 60]
      wheel :=
        [{ kind := .instant, multiplier := 10, weight := 35 },
          { kind := .instant, multiplier := 30, weight := 25 },
          { kind := .instant, multiplier := 75, weight := 15 },
          { kind := .instant, multiplier := 250, weight := 8 },
          { kind := .instant, multiplier := 1000, weight := 2 },
          { kind := .expansion, weight := 9 },
          { kind := .overdrive, weight := 6 }] }

theorem demoConfig_valid : demoConfig.Valid := by decide +kernel

end SlotsGame.Game
