/-
# SlotsGame.Game.Random -- drawing from the definition's tables

A source of randomness is its `Intn` over a state.  Every weighted table is
drawn the same way: sum the weights with an overflow check, draw below the sum,
walk to the item (`pickWeighted`).  The two tables that are not plain, the vault
rewards with their free-spin tail and the upgrades above a current value, keep
their own bodies.
-/
import SlotsGame.Game.Outcome
import SlotsGame.Theory.Weighted

namespace SlotsGame.Game

open SlotsGame.Theory Weighted

set_option autoImplicit false

/-- A computation of the engine: it draws from a source of state `σ` and may fail. -/
abbrev Random (σ : Type) := StateT σ (Except String)

/-- `rng.Source` -/
structure Source (σ : Type) where
  intn : Int → Random σ Int

/-- `Intn(n)` is in `[0, n)` for every positive `n`, and when `total` holds it
never fails there. -/
def Source.Lawful {σ : Type} (total : Prop) (random : Source σ) : Prop :=
  ∀ n, 0 < n → Ensures total (random.intn n) fun value => 0 ≤ value ∧ value < n

/-- `rng.SequenceSource`: the values still to be handed out, each modulo `n`. -/
def sequenceSource : Source (List Nat) where
  intn n values :=
    if n ≤ 0 then .error s!"rng: n must be positive: {n}"
    else match values with
      | [] => .error "rng: deterministic sequence exhausted"
      | value :: rest => .ok ((value : Int) % n, rest)

variable {σ : Type}

/-! ## Plain tables -/

section Tables

variable {α : Type}

def addWeight (weight : α → Int) (overflow : String) (total : Int) (item : α) :
    Except String Int := do
  refuse (weight item > maxInt64 - total) overflow
  pure (total + weight item)

def totalWeight (weight : α → Int) (overflow : String) (items : List α) : Except String Int :=
  items.foldlM (addWeight weight overflow) 0

def selected (failed : String) : Option α → Except String α
  | some item => .ok item
  | none => .error failed

def pickWeighted (random : Source σ) (weight : α → Int) (overflow failed : String)
    (items : List α) : Random σ α := do
  let total ← totalWeight weight overflow items
  let pick ← random.intn total
  selected failed (select weight items pick)

end Tables

def pickWeightedSymbol (random : Source σ) (items : List WeightedSymbol) : Random σ Symbol :=
  WeightedSymbol.value <$> pickWeighted random WeightedSymbol.weight "symbol weights overflow"
    "weighted symbol selection failed" items

def pickWeightedInt (random : Source σ) (items : List WeightedInt) : Random σ Int :=
  WeightedInt.value <$> pickWeighted random WeightedInt.weight "integer weights overflow"
    "weighted integer selection failed" items

def pickWheel (random : Source σ) (items : List WeightedWheel) : Random σ WeightedWheel :=
  pickWeighted random WeightedWheel.weight "wheel weights overflow" "wheel selection failed" items

/-! ## The other draws -/

inductive VaultReward
  | freeSpin
  | multiplier (value : Int)
  deriving DecidableEq, Repr

def pickVaultReward (random : Source σ) (config : Config) (allowFreeSpin : Bool) :
    Random σ VaultReward := do
  let freeSpinWeight := config.feature.vaultFreeSpinWeight
  let total ← totalWeight WeightedInt.weight "Vault reward weights overflow"
    config.vaultMultipliers
  refuse (allowFreeSpin = true ∧ freeSpinWeight > maxInt64 - total)
    "Vault FREE SPIN weight overflows"
  let pick ← random.intn (if allowFreeSpin then total + freeSpinWeight else total)
  match select WeightedInt.weight config.vaultMultipliers pick with
  | some item => pure (.multiplier item.value)
  | none =>
      if allowFreeSpin = true ∧ freeSpinWeight > 0 then pure .freeSpin
      else throw "weighted Vault reward selection failed"

/-- A draw among the values above `current`; `none` when there is none. -/
def pickGreaterWeightedInt (random : Source σ) (items : List WeightedInt) (current : Int) :
    Random σ (Option Int) := do
  let greater := items.filter fun item => current < item.value
  let total ← totalWeight WeightedInt.weight "upgrade weights overflow" greater
  if total = 0 then pure none
  else do
    let pick ← random.intn total
    let item ← selected "weighted upgrade selection failed" (select WeightedInt.weight greater pick)
    pure (some item.value)

/-- `chance` in basis points; a certain answer draws nothing. -/
def chance (random : Source σ) (basisPoints : Int) : Random σ Bool :=
  if basisPoints ≤ 0 then pure false
  else if basisPoints ≥ 10000 then pure true
  else do
    let pick ← random.intn 10000
    pure (decide (pick < basisPoints))

def surgeTriggers (random : Source σ) (config : Config) (count : Nat) : Random σ Bool :=
  if count > 3 then throw "more than three settled Rage symbols"
  else if count = 3 then pure true
  else if count = 2 then chance random config.feature.surgeTwoChanceBP
  else if count = 1 then chance random config.feature.surgeOneChanceBP
  else pure false

def swapAt (cells : List Position) (i j : Nat) : List Position :=
  match cells[i]?, cells[j]? with
  | some a, some b => (cells.set i b).set j a
  | _, _ => cells

def shuffleStep (random : Source σ) (candidates : List Position) (index : Nat) :
    Random σ (List Position) := do
  let picked ← random.intn (candidates.length - index)
  pure (swapAt candidates index (picked.toNat + index))

/-- The first `count` places of a shuffle of the cells without a rage symbol. -/
def pickRageTransformCells (random : Source σ) (grid : Grid) (count : Int) :
    Random σ (List Position) := do
  let candidates := positionsExceptSymbol grid .surge
  refuse (count < 0 ∨ count > candidates.length) "invalid Rage transformation count"
  let shuffled ← (List.range count.toNat).foldlM (shuffleStep random) candidates
  pure (shuffled.take count.toNat)

end SlotsGame.Game
