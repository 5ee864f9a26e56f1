/-
# SlotsGame.Client.Messages -- what the browser client knows of a spin

The client keeps its own types of the wins, the events and the feature state.
A `MoneyMinor` is a canonical decimal string of a signed 64-bit integer that is
not negative, so it is that integer here; a field the client may leave out is an
option.
-/
import SlotsGame.Game.Types

namespace SlotsGame.Client

open SlotsGame.Game (Position Symbol)

set_option autoImplicit false

inductive FeatureMode
  | base | expansion | overdrive
  deriving DecidableEq, Repr

structure FeatureState where
  mode : FeatureMode
  freeSpinsRemaining : Int
  freeSpinsPlayed : Option Int := none
  baseBetMinor : Option Int := none
  freeSpinsWinMinor : Option Int := none
  rageLevel : Int
  rageCollected : Int
  deriving DecidableEq, Repr

structure PathAward where
  cells : List Position
  multiplier : Int
  baseAmountMinor : Int
  nominalAmountMinor : Int
  amountMinor : Int
  deriving DecidableEq, Repr

/-- A record of an old replay may lack `ways` and `pathAwards`. -/
structure Win where
  id : String
  symbol : Symbol
  ways : Option Int := none
  nominalAmountMinor : Int
  amountMinor : Int
  multiplier : Option Int := none
  cells : List Position
  pathAwards : Option (List PathAward) := none
  deriving DecidableEq, Repr

inductive VaultGroup
  | landed | locked | unlockStarted | unlockCompleted
  deriving DecidableEq, Repr

/-- `FeatureEvent`, one constructor for each member of the union; the two feature
outcomes of `wheel.awarded` are `wheelFeature`. -/
inductive FeatureEvent
  | surgeCollected (count : Int) (cells : List Position) (triggered guaranteed : Bool)
      (level total : Int)
  | rageTransformed (count : Int) (cells : List Position) (level total : Int)
  | wheelStarted
  | wheelInstant (prize : String) (multiplier amountMinor : Int)
  | wheelFeature (outcome : FeatureMode)
  | freeSpinsStarted (mode : FeatureMode) (awarded : Int)
  | gridExpanded (rows ways : Int)
  | vaultGroup (kind : VaultGroup) (count : Int) (cells : List Position)
  | vaultUnlocked (address : Position) (prize : String) (multiplier : Option Int)
  | vaultAwarded (address : Position) (prize : String) (multiplier amountMinor : Int)
  | freeSpinAwarded (count : Int) (address : Position)
  | freeSpinCapReached (address : Position)
  | winCapReached (multiplier cumulativeWinMinor : Int)
  | vaultsUpgradeStarted (count step : Int)
  | vaultUpgraded (address : Position) (fromMultiplier toMultiplier : Int) (prize : String)
      (step : Int)
  | freeSpinsCompleted (mode : FeatureMode) (awarded cumulativeWinMinor : Int)
  deriving DecidableEq, Repr

structure SurgeCollection where
  count : Int
  level : Int
  total : Int

structure Completion where
  mode : FeatureMode
  awarded : Int
  cumulativeWinMinor : Int

namespace FeatureEvent

def surge? : FeatureEvent → Option SurgeCollection
  | surgeCollected count _ _ _ level total => some { count := count, level := level, total := total }
  | _ => none

/-- The free spins an event awards. -/
def freeSpins : FeatureEvent → Int
  | freeSpinAwarded count _ => count
  | _ => 0

def completion? : FeatureEvent → Option Completion
  | freeSpinsCompleted mode awarded cumulativeWinMinor =>
      some { mode := mode, awarded := awarded, cumulativeWinMinor := cumulativeWinMinor }
  | _ => none

end FeatureEvent

structure SpinResult where
  betMinor : Int
  totalWinMinor : Int
  wins : List Win
  events : List FeatureEvent
  featureState : FeatureState
  deriving DecidableEq, Repr

end SlotsGame.Client
