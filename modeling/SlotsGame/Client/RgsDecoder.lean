/-
# SlotsGame.Client.RgsDecoder -- the server's result in the client's types

`makeEventResponse`, `makeWinResponse` and `makeFeatureStateResponse` write a
committed result for the wire, where every amount is a decimal string; the
client's decoder refuses what is not such a string of a signed 64-bit amount and
projects the rest.  What the decoder of the message then checks of the grid and
of the order of the events can only refuse, and leaves every field as it is.
-/
import SlotsGame.Client.Decoder

namespace SlotsGame.Client

open SlotsGame.Theory
open SlotsGame.Game (maxInt64 Position WheelKind)

set_option autoImplicit false

/-! ## Fields -/

def integer (value : Int) (path : String) (minimum maximum : Int) : Except String Int := do
  refuse (value < minimum ∨ value > maximum)
    s!"{path} must be an integer from {minimum} to {maximum}"
  pure value

def decimal (value : Int) (path : String) : Except String Int := do
  refuse (value < 0 ∨ value > maxInt64) s!"{path} must be a canonical signed-int64 decimal string"
  pure value

/-- `decimal` with `positive`. -/
def positiveDecimal (value : Int) (path : String) : Except String Int := do
  refuse (value < 1 ∨ value > maxInt64) s!"{path} must be a canonical signed-int64 decimal string"
  pure value

def positivePresentationInteger (value : Int) (path : String) : Except String Int := do
  let decoded ← positiveDecimal value path
  refuse (decoded > 1000000) s!"{path} exceeds the presentation integer domain"
  pure decoded

def text (value path : String) (minimum : Nat) : Except String String := do
  refuse (value.length < minimum ∨ value.length > 128)
    s!"{path} must be a string with length {minimum}-128"
  pure value

def identifier (value path : String) : Except String String := do
  let decoded ← text value path 1
  refuse (Text.identifierPattern decoded = false) s!"{path} must be an identifier"
  pure decoded

def position (value : Position) (path : String) : Except String Position := do
  let reel ← integer value.reel s!"{path}.reel" 0 2
  let row ← integer value.row s!"{path}.row" 0 7
  pure { reel := reel, row := row }

def positions (value : List Position) (path : String) (minimum maximum : Nat) :
    Except String (List Position) := do
  refuse (value.length < minimum ∨ value.length > maximum)
    s!"{path} must contain {minimum}-{maximum} positions"
  value.zipIdx.mapM fun (item, index) => position item s!"{path}[{index}]"

theorem integer_ok {value decoded minimum maximum : Int} {path : String} :
    integer value path minimum maximum = .ok decoded ↔
      (minimum ≤ value ∧ value ≤ maximum) ∧ value = decoded := by
  simp only [integer, bind_ok, refuse_ok, exists_unit, pure_ok, not_or, not_lt, gt_iff_lt]

theorem decimal_ok {value decoded : Int} {path : String} :
    decimal value path = .ok decoded ↔ (0 ≤ value ∧ value ≤ maxInt64) ∧ value = decoded := by
  simp only [decimal, bind_ok, refuse_ok, exists_unit, pure_ok, not_or, not_lt, gt_iff_lt]

theorem positivePresentationInteger_ok {value decoded : Int} {path : String}
    (accepted : positivePresentationInteger value path = .ok decoded) :
    decoded = value ∧ 1 ≤ value := by
  simp only [positivePresentationInteger, positiveDecimal, bind_ok, refuse_ok, exists_unit,
    pure_ok, not_or, not_lt] at accepted
  obtain ⟨_, ⟨⟨least, _⟩, rfl⟩, _, rfl⟩ := accepted
  exact ⟨rfl, least⟩

/-! ## The feature state -/

/-- The wire has one spelling of the base game. -/
def makeFeatureStateResponse (feature : Game.FeatureState) : Game.FeatureState :=
  { feature with mode := if feature.mode = .unset then .none else feature.mode }

/-- The mode of an active feature; `none` on the wire is the base game. -/
def decodeMode (mode : Game.FeatureMode) (path : String) : Except String FeatureMode := do
  match mode with
  | .none => pure .base
  | .expansion => pure .expansion
  | .overdrive => pure .overdrive
  | _ => throw s!"{path} is unsupported"

def featureState (decoded : Game.FeatureState) (path : String) : Except String FeatureState := do
  let mode ← decodeMode decoded.mode s!"{path}.mode"
  let remaining ← integer decoded.remaining s!"{path}.remaining" 0 1000000
  let awarded ← integer decoded.awarded s!"{path}.awarded" 0 1000000
  let betMinor ← decimal decoded.betMinor s!"{path}.betMinor"
  let winMinor ← decimal decoded.winMinor s!"{path}.winMinor"
  let rageLevel ← integer decoded.rageLevel s!"{path}.rageLevel" 1 1000000
  let rageCollected ← integer decoded.rageCollected s!"{path}.rageCollected" 0 1000000
  if mode = .base then do
    refuse (remaining ≠ 0 ∨ awarded ≠ 0 ∨ betMinor ≠ 0 ∨ winMinor ≠ 0)
      s!"{path} has a non-canonical NONE projection"
    pure { mode := .base, freeSpinsRemaining := 0, freeSpinsPlayed := some 0
           rageLevel := rageLevel, rageCollected := rageCollected }
  else do
    refuse (remaining < 1 ∨ awarded < remaining ∨ betMinor = 0)
      s!"{path} has invalid active Free Spins counters or bet"
    pure { mode := mode, freeSpinsRemaining := remaining
           freeSpinsPlayed := some (awarded - remaining), baseBetMinor := some betMinor
           freeSpinsWinMinor := some winMinor, rageLevel := rageLevel
           rageCollected := rageCollected }

/-! ## Wins -/

def makePathAwardResponse (award : Game.PathAward) : PathAward :=
  { cells := award.cells, multiplier := award.multiplier
    baseAmountMinor := award.baseAmountMinor, nominalAmountMinor := award.amountMinor
    amountMinor := award.paidAmountMinor }

/-- `UniformPathMultiplier`: the one multiplier all the paths have. -/
def uniformPathMultiplier (win : Game.Win) : Option Int :=
  match win.pathAwards with
  | [] => none
  | first :: rest =>
      if first.multiplier < 1 then none
      else if rest.all fun award => award.multiplier = first.multiplier then
        some first.multiplier
      else none

def makeWinResponse (win : Game.Win) : Win :=
  { id := win.id, symbol := win.symbol, ways := some win.ways
    nominalAmountMinor := win.amountMinor, amountMinor := win.paidAmountMinor
    multiplier := uniformPathMultiplier win, cells := win.cells
    pathAwards := some (win.pathAwards.map makePathAwardResponse) }

def translatedPathAward (award : PathAward) (path : String) : Except String PathAward := do
  let nominalAmountMinor ← decimal award.nominalAmountMinor s!"{path}.nominalAmountMinor"
  let amountMinor ← decimal award.amountMinor s!"{path}.amountMinor"
  refuse (amountMinor > nominalAmountMinor)
    s!"{path}.amountMinor must not exceed {path}.nominalAmountMinor"
  let cells ← positions award.cells s!"{path}.cells" 3 3
  let multiplier ← positivePresentationInteger award.multiplier s!"{path}.multiplier"
  let baseAmountMinor ← decimal award.baseAmountMinor s!"{path}.baseAmountMinor"
  pure { cells := cells, multiplier := multiplier, baseAmountMinor := baseAmountMinor
         nominalAmountMinor := nominalAmountMinor, amountMinor := amountMinor }

def translatedWin (decoded : Win) (path : String) : Except String Win := do
  let awards := decoded.pathAwards.getD []
  refuse (decoded.pathAwards = none ∨ awards.length < 1 ∨ awards.length > 512)
    s!"{path}.pathAwards must contain 1-512 entries"
  let nominalAmountMinor ← positiveDecimal decoded.nominalAmountMinor s!"{path}.nominalAmountMinor"
  let amountMinor ← decimal decoded.amountMinor s!"{path}.amountMinor"
  refuse (amountMinor > nominalAmountMinor)
    s!"{path}.amountMinor must not exceed {path}.nominalAmountMinor"
  let pathAwards ← awards.zipIdx.mapM fun (award, index) =>
    translatedPathAward award s!"{path}.pathAwards[{index}]"
  refuse ((pathAwards.map (·.amountMinor)).sum ≠ amountMinor)
    s!"{path}.pathAwards amounts must sum to {path}.amountMinor"
  refuse ((pathAwards.map (·.nominalAmountMinor)).sum ≠ nominalAmountMinor)
    s!"{path}.pathAwards nominal amounts must sum to {path}.nominalAmountMinor"
  let id ← identifier decoded.id s!"{path}.id"
  let symbol ← identifier decoded.symbol.name s!"{path}.symbol" *> pure decoded.symbol
  let ways ← integer (decoded.ways.getD 0) s!"{path}.ways" 1 512
  let cells ← positions decoded.cells s!"{path}.cells" 1 24
  let multiplier ← decoded.multiplier.mapM fun multiplier =>
    positivePresentationInteger multiplier s!"{path}.multiplier"
  pure { id := id, symbol := symbol, ways := some ways, nominalAmountMinor := nominalAmountMinor
         amountMinor := amountMinor, multiplier := multiplier, cells := cells
         pathAwards := some pathAwards }

def translatedWins (value : List Win) : Except String (List Win) := do
  refuse (value.length > 4096) "response.data.wins must be an array with at most 4096 entries"
  value.zipIdx.mapM fun (win, index) => translatedWin win s!"response.data.wins[{index}]"

/-! ## Events -/

/-- The event on the wire: an event without a mode carries that of the base game. -/
def makeEventResponse (event : Game.Event) : Game.Event :=
  { event with mode := if event.mode = .unset then .none else event.mode }

/-- The fields every event carries, in the order they are checked. -/
def checkEvent (event : Game.Event) (path : String) : Except String Unit := do
  let _ ← identifier event.type.name s!"{path}.type"
  let _ ← integer event.count s!"{path}.count" 0 1000000
  let _ ← positions event.cells s!"{path}.cells" 0 24
  let _ ← text (event.outcome.elim "" WheelKind.name) s!"{path}.outcome" 0
  let _ ← text event.prize.label s!"{path}.prize" 0
  let _ ← decimal event.multiplier s!"{path}.multiplier"
  let _ ← decimal event.amountMinor s!"{path}.amountMinor"
  let _ ← decimal event.cumulativeWinMinor s!"{path}.cumulativeWinMinor"
  let _ ← decodeMode event.mode s!"{path}.mode"
  let _ ← integer event.awarded s!"{path}.awarded" 0 1000000
  let _ ← integer event.rows s!"{path}.rows" 0 8
  let _ ← integer event.ways s!"{path}.ways" 0 2147483647
  let _ ← integer event.reel s!"{path}.reel" 0 2
  let _ ← integer event.row s!"{path}.row" 0 7
  let _ ← integer event.level s!"{path}.level" 0 1000000
  let _ ← integer event.total s!"{path}.total" 0 1000000
  let _ ← integer event.step s!"{path}.step" 0 16
  let _ ← decimal event.fromMultiplier s!"{path}.fromMultiplier"
  let _ ← decimal event.toMultiplier s!"{path}.toMultiplier"

/-- The mode of an event that cannot be the base game's. -/
def featureModeOf (mode : Game.FeatureMode) (path : String) : Except String FeatureMode := do
  let decoded ← decodeMode mode path
  refuse (decoded = .base) s!"{path} cannot be NONE"
  pure decoded

/-- The fields the type of the event keeps. -/
def eventBody (event : Game.Event) (path : String) : Except String FeatureEvent := do
  let multiplierPath := s!"{path}.multiplier"
  let prizePath := s!"{path}.prize"
  match event.type with
  | .surgeCollected =>
      pure (.surgeCollected event.count event.cells event.triggered event.guaranteed event.level
        event.total)
  | .rageTransformed => pure (.rageTransformed event.count event.cells event.level event.total)
  | .wheelStarted => pure .wheelStarted
  | .wheelAwarded =>
      match event.outcome with
      | some .instant => do
          let prize ← identifier event.prize.label prizePath
          let multiplier ← positivePresentationInteger event.multiplier multiplierPath
          pure (.wheelInstant prize multiplier event.amountMinor)
      | some .expansion => pure (.wheelFeature .expansion)
      | some .overdrive => pure (.wheelFeature .overdrive)
      | _ => throw s!"{path}.outcome is unsupported"
  | .freeSpinsStarted => do
      let mode ← featureModeOf event.mode s!"{path}.mode"
      pure (.freeSpinsStarted mode event.awarded)
  | .gridExpanded => pure (.gridExpanded event.rows event.ways)
  | .vaultsLanded => pure (.vaultGroup .landed event.count event.cells)
  | .vaultsLocked => pure (.vaultGroup .locked event.count event.cells)
  | .vaultsUnlockStarted => pure (.vaultGroup .unlockStarted event.count event.cells)
  | .vaultsUnlockCompleted => pure (.vaultGroup .unlockCompleted event.count event.cells)
  | .vaultUnlocked => do
      let prize ← identifier event.prize.label prizePath
      let multiplier ← (if event.multiplier = 0 then pure none
        else some <$> positivePresentationInteger event.multiplier multiplierPath)
      pure (.vaultUnlocked event.position prize multiplier)
  | .vaultAwarded => do
      let prize ← identifier event.prize.label prizePath
      let multiplier ← positivePresentationInteger event.multiplier multiplierPath
      pure (.vaultAwarded event.position prize multiplier event.amountMinor)
  | .freeSpinAwarded => pure (.freeSpinAwarded event.count event.position)
  | .freeSpinCapReached => pure (.freeSpinCapReached event.position)
  | .winCapReached => do
      let multiplier ← positivePresentationInteger event.multiplier multiplierPath
      pure (.winCapReached multiplier event.cumulativeWinMinor)
  | .vaultsUpgradeStarted => pure (.vaultsUpgradeStarted event.count event.step)
  | .vaultUpgraded => do
      let fromMultiplier ← positivePresentationInteger event.fromMultiplier
        s!"{path}.fromMultiplier"
      let toMultiplier ← positivePresentationInteger event.toMultiplier s!"{path}.toMultiplier"
      let prize ← identifier event.prize.label prizePath
      pure (.vaultUpgraded event.position fromMultiplier toMultiplier prize event.step)
  | .freeSpinsCompleted => do
      let mode ← featureModeOf event.mode s!"{path}.mode"
      pure (.freeSpinsCompleted mode event.awarded event.cumulativeWinMinor)
  | .other _ => throw s!"{path}.type is unsupported"

def translatedEvent (event : Game.Event) (path : String) : Except String FeatureEvent := do
  checkEvent event path
  eventBody event path

def translatedEvents (value : List Game.Event) : Except String (List FeatureEvent) := do
  refuse (value.length > 4096) "response.data.events must be an array with at most 4096 entries"
  value.zipIdx.mapM fun (event, index) => translatedEvent event s!"response.data.events[{index}]"

/-! ## The result -/

/-- `decodedSpinData` of `makeSpinResultResponse`, from the outcome of a round. -/
def decodedSpinData (betMinor : Int) (outcome : Game.SpinOutcome) : Except String SpinResult := do
  let wins ← translatedWins (outcome.wins.map makeWinResponse)
  let events ← translatedEvents (outcome.events.map makeEventResponse)
  let feature ← featureState (makeFeatureStateResponse outcome.nextFeature) "response.data.feature"
  let betMinor ← positiveDecimal betMinor "response.data.betMinor"
  let totalWinMinor ← decimal outcome.totalWinMinor "response.data.totalWinMinor"
  let result : SpinResult :=
    { betMinor := betMinor, totalWinMinor := totalWinMinor, wins := wins, events := events
      featureState := feature }
  validateAwards result
  pure result

end SlotsGame.Client
