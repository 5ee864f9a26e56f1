/-
# SlotsGame.Game.Types -- symbols, grids, awards, events and feature state

The data of the game package.  A string type with declared constants is an
enumeration with one more constructor for every other text, so a value outside
the constants can still be written down and rejected.  `int` and `int64` fields
are integers; the arithmetic that must not leave 64 bits is `safeAdd` and
`safeMul` (`SlotsGame.Game.Money`).
-/
import Mathlib.Data.Int.Basic
import SlotsGame.Text

namespace SlotsGame.Game

set_option autoImplicit false

inductive Symbol
  | orbit | prism | pulse | nova | circuit | tank | wild | vault | surge
  | unknown (name : String)
  deriving DecidableEq, Repr

namespace Symbol

def name : Symbol → String
  | orbit => "ORBIT"
  | prism => "PRISM"
  | pulse => "PULSE"
  | nova => "NOVA"
  | circuit => "CIRCUIT"
  | tank => "TANK"
  | wild => "WILD"
  | vault => "VAULT"
  | surge => "SURGE"
  | unknown name => name

end Symbol

def payingSymbols : List Symbol :=
  [.orbit, .prism, .pulse, .nova, .circuit, .tank]

def isKnownSymbol : Symbol → Bool
  | .unknown _ => false
  | _ => true

def isPayingSymbol (symbol : Symbol) : Bool := payingSymbols.contains symbol

/-- The prize label of a cell or an event; `empty` is the empty string. -/
inductive Prize
  | empty
  | freeSpin
  | times (multiplier : Nat)
  | mini | minor | major | mega | grand
  | mini2x | minor2x | major2x | mega2x
  | other (label : String)
  deriving DecidableEq, Repr

namespace Prize

def label : Prize → String
  | empty => ""
  | freeSpin => "FREE_SPIN"
  | times multiplier => "X" ++ toString multiplier
  | mini => "MINI"
  | minor => "MINOR"
  | major => "MAJOR"
  | mega => "MEGA"
  | grand => "GRAND"
  | mini2x => "MINI_2X"
  | minor2x => "MINOR_2X"
  | major2x => "MAJOR_2X"
  | mega2x => "MEGA_2X"
  | other label => label

end Prize

structure Cell where
  symbol : Symbol
  multiplier : Int := 0
  prize : Prize := .empty
  deriving DecidableEq, Repr

/-- Addressed by `grid[reel][row]`. -/
abbrev Grid := List (List Cell)

structure Position where
  reel : Int
  row : Int
  deriving DecidableEq, Repr

namespace Grid

/-- The rows of one reel; no rows outside the grid. -/
def reelAt (grid : Grid) (reel : Int) : List Cell :=
  if reel < 0 then [] else (grid[reel.toNat]?).getD []

/-- The cell at a position of the grid. -/
def cellAt? (grid : Grid) (position : Position) : Option Cell :=
  if position.row < 0 then none else (reelAt grid position.reel)[position.row.toNat]?

/-- The cell at a position; the zero value of the source's `Cell` outside the grid. -/
def cellAt (grid : Grid) (position : Position) : Cell :=
  (grid.cellAt? position).getD { symbol := .unknown "" }

/-- Assign one cell in place. -/
def modifyCell (grid : Grid) (position : Position) (update : Cell → Cell) : Grid :=
  grid.modify position.reel.toNat fun cells => cells.modify position.row.toNat update

/-- `len(grid[0])` -/
def rowCount (grid : Grid) : Nat := (grid.head?.getD []).length

end Grid

structure PathAward where
  cells : List Position
  multiplier : Int
  baseAmountMinor : Int
  amountMinor : Int
  paidAmountMinor : Int
  deriving DecidableEq, Repr

structure Win where
  id : String
  symbol : Symbol
  ways : Int
  amountMinor : Int
  paidAmountMinor : Int
  cells : List Position
  pathAwards : List PathAward
  deriving DecidableEq, Repr

/-- `FeatureMode`; `unset` is the empty string. -/
inductive FeatureMode
  | unset | none | expansion | overdrive
  | other (name : String)
  deriving DecidableEq, Repr

def FeatureMode.name : FeatureMode → String
  | unset => ""
  | none => "NONE"
  | expansion => "EXPANSION"
  | overdrive => "OVERDRIVE"
  | other name => name

inductive WheelKind
  | instant | expansion | overdrive
  | other (name : String)
  deriving DecidableEq, Repr

namespace WheelKind

def name : WheelKind → String
  | instant => "INSTANT"
  | expansion => "EXPANSION"
  | overdrive => "OVERDRIVE"
  | other name => name

/-- `FeatureMode(kind)`: the conversion keeps the text. -/
def toMode : WheelKind → FeatureMode
  | instant => .other "INSTANT"
  | expansion => .expansion
  | overdrive => .overdrive
  | other name => .other name

end WheelKind

inductive EventType
  | gridExpanded
  | vaultsLanded | vaultsLocked | vaultsUnlockStarted | vaultsUnlockCompleted
  | vaultUnlocked | vaultAwarded | vaultsUpgradeStarted | vaultUpgraded
  | freeSpinAwarded | freeSpinCapReached
  | surgeCollected | rageTransformed | wheelStarted | wheelAwarded
  | freeSpinsStarted | freeSpinsCompleted
  | winCapReached
  | other (name : String)
  deriving DecidableEq, Repr

namespace EventType

def name : EventType → String
  | gridExpanded => "grid.expanded"
  | vaultsLanded => "vaults.landed"
  | vaultsLocked => "vaults.locked"
  | vaultsUnlockStarted => "vaults.unlock.started"
  | vaultsUnlockCompleted => "vaults.unlock.completed"
  | vaultUnlocked => "vault.unlocked"
  | vaultAwarded => "vault.awarded"
  | vaultsUpgradeStarted => "vaults.upgrade.started"
  | vaultUpgraded => "vault.upgraded"
  | freeSpinAwarded => "free_spin.awarded"
  | freeSpinCapReached => "free_spin.cap_reached"
  | surgeCollected => "surge.collected"
  | rageTransformed => "rage.transformed"
  | wheelStarted => "wheel.started"
  | wheelAwarded => "wheel.awarded"
  | freeSpinsStarted => "free_spins.started"
  | freeSpinsCompleted => "free_spins.completed"
  | winCapReached => "win_cap.reached"
  | other name => name

end EventType

/-- A field left out of an event literal has the zero value of its type.  The
`Outcome` string is absent or a wheel kind. -/
structure Event where
  type : EventType
  count : Int := 0
  cells : List Position := []
  triggered : Bool := false
  guaranteed : Bool := false
  outcome : Option WheelKind := none
  prize : Prize := .empty
  multiplier : Int := 0
  amountMinor : Int := 0
  cumulativeWinMinor : Int := 0
  mode : FeatureMode := .unset
  awarded : Int := 0
  rows : Int := 0
  ways : Int := 0
  reel : Int := 0
  row : Int := 0
  level : Int := 0
  total : Int := 0
  step : Int := 0
  fromMultiplier : Int := 0
  toMultiplier : Int := 0
  deriving DecidableEq, Repr

def Event.position (event : Event) : Position := { reel := event.reel, row := event.row }

def defaultRageLevel : Int := 1
def maxFeatureSpins : Int := 1000000
def maxRageCollected : Int := 1000000

structure FeatureState where
  mode : FeatureMode
  remaining : Int := 0
  awarded : Int := 0
  betMinor : Int := 0
  winMinor : Int := 0
  rageLevel : Int := 0
  rageCollected : Int := 0
  deriving DecidableEq, Repr

namespace FeatureState

def active (state : FeatureState) : Bool :=
  state.mode ≠ .none && decide (0 < state.remaining)

def emptyFeatureState : FeatureState := { mode := .none, rageLevel := defaultRageLevel }

/-- The two spellings of an empty field a client may send, made one. -/
def canonicalFeatureState (state : FeatureState) : FeatureState :=
  { state with
    mode := if state.mode = .unset then .none else state.mode
    rageLevel :=
      if state.rageCollected = 0 ∧ state.rageLevel = 0 then defaultRageLevel
      else state.rageLevel }

/-- The base game state that keeps the rage meter. -/
def withoutFreeSpins (state : FeatureState) : FeatureState :=
  { mode := .none
    rageLevel := if state.rageCollected = 0 then defaultRageLevel else state.rageLevel
    rageCollected := state.rageCollected }

@[simp] theorem canonicalFeatureState_idem (state : FeatureState) :
    canonicalFeatureState (canonicalFeatureState state) = canonicalFeatureState state := by
  cases state
  simp only [canonicalFeatureState, FeatureState.mk.injEq]
  refine ⟨?_, trivial, trivial, trivial, trivial, ?_, trivial⟩
  · split <;> simp_all
  · split <;> simp_all [defaultRageLevel]

end FeatureState

structure SpinInput where
  betMinor : Int
  feature : FeatureState
  deriving DecidableEq, Repr

structure SpinOutcome where
  grid : Grid
  wins : List Win
  events : List Event
  totalWinMinor : Int
  nextFeature : FeatureState
  deriving DecidableEq, Repr

end SlotsGame.Game
