/-
# SlotsGame.Game.Grid -- what a settled grid is

`EvaluateWays` and `validateOutcomeGrid` make the same walk over the grid with
different error texts; `checkCells` is that walk and `GridErrors` its texts.
`Grid.Settled` is the property both accept.
-/
import Mathlib.Data.List.Sigma
import SlotsGame.Game.Config

namespace SlotsGame.Game

open SlotsGame.Theory

set_option autoImplicit false

/-! ## One cell -/

def validVaultCellPrize (multiplier : Int) (prize : Prize) : Bool :=
  (isSupportedBaseVaultMultiplier multiplier && prize = vaultPrizeName multiplier false) ||
    (isSupportedKingVaultMultiplier multiplier && prize = vaultPrizeName multiplier true)

def validateCellModifier (cell : Cell) : Except String Unit :=
  match cell.symbol with
  | .wild =>
      refuse (isSupportedWildMultiplier cell.multiplier = false ∨ cell.prize ≠ .empty)
        "WILD has an unsupported multiplier or prize"
  | .vault =>
      if cell.prize = .empty then
        refuse (cell.multiplier ≠ 0) "unresolved VAULT cannot expose a multiplier"
      else if cell.prize = .freeSpin then
        refuse (cell.multiplier ≠ 0) "FREE_SPIN VAULT cannot carry a money multiplier"
      else do
        refuse (cell.multiplier ≤ 0) "payable VAULT requires a positive multiplier"
        refuse (validVaultCellPrize cell.multiplier cell.prize = false)
          "VAULT prize does not name its multiplier"
  | _ =>
      refuse (cell.multiplier ≠ 0 ∨ cell.prize ≠ .empty)
        "ordinary symbol cannot carry a modifier"

/-! ## The walk over the cells -/

structure GridErrors where
  reelRows : Nat → Nat → Nat → String
  unknownSymbol : Nat → Nat → String
  misplaced : Symbol → Nat → Nat → String
  modifier : Nat → Nat → String

def checkCell (errors : GridErrors) (reel : Nat) (entry : Cell × Nat) : Except String Unit := do
  let (cell, row) := entry
  refuse (isKnownSymbol cell.symbol = false) (errors.unknownSymbol reel row)
  refuse (reel ≠ 1 ∧ (cell.symbol = .wild ∨ cell.symbol = .vault))
    (errors.misplaced cell.symbol reel row)
  wrap (errors.modifier reel row) (validateCellModifier cell)

def checkReel (errors : GridErrors) (rows : Nat) (entry : List Cell × Nat) :
    Except String Unit := do
  let (cells, reel) := entry
  refuse (cells.length ≠ rows) (errors.reelRows reel cells.length rows)
  cells.zipIdx.forM (checkCell errors reel)

def checkCells (errors : GridErrors) (rows : Nat) (grid : Grid) : Except String Unit :=
  grid.zipIdx.forM (checkReel errors rows)

/-- A cell that may stand on a reel. -/
structure Cell.Settled (reel : Nat) (cell : Cell) : Prop where
  known : isKnownSymbol cell.symbol = true
  middle : cell.symbol = .wild ∨ cell.symbol = .vault → reel = 1
  modifier : validateCellModifier cell = .ok ()

/-- Three reels of one height from three through eight, every cell settled. -/
structure Grid.Settled (grid : Grid) (rows : Nat) : Prop where
  reels : grid.length = 3
  least : 3 ≤ rows
  most : rows ≤ 8
  height : ∀ cells ∈ grid, cells.length = rows
  cells : ∀ (reel : Nat) (cells : List Cell), grid[reel]? = some cells →
    ∀ cell ∈ cells, cell.Settled reel

theorem checkCell_ok {errors : GridErrors} {reel : Nat} {entry : Cell × Nat} :
    checkCell errors reel entry = .ok () ↔ entry.1.Settled reel := by
  simp only [checkCell, bind_ok, refuse_ok, exists_unit, wrap_ok]
  constructor
  · rintro ⟨known, middle, modifier⟩
    refine ⟨by simpa using known, fun special => ?_, modifier⟩
    by_contra outside
    exact middle ⟨outside, special⟩
  · rintro ⟨known, middle, modifier⟩
    exact ⟨by simpa using known, fun h => h.1 (middle h.2), modifier⟩

theorem checkCells_ok {errors : GridErrors} {rows : Nat} {grid : Grid} :
    checkCells errors rows grid = .ok () ↔
      (∀ cells ∈ grid, cells.length = rows) ∧
      ∀ (reel : Nat) (cells : List Cell), grid[reel]? = some cells →
        ∀ cell ∈ cells, cell.Settled reel := by
  simp only [checkCells, forM_zipIdx_ok, checkReel, bind_ok, refuse_ok, exists_unit, checkCell_ok, not_not]
  constructor
  · intro accepted
    refine ⟨fun cells member => ?_, fun reel cells found cell member => ?_⟩
    · obtain ⟨reel, found⟩ := List.getElem?_of_mem member
      exact (accepted reel cells found).1
    · obtain ⟨row, at_row⟩ := List.getElem?_of_mem member
      exact (accepted reel cells found).2 row cell at_row
  · rintro ⟨heights, settled⟩ reel cells found
    exact ⟨heights cells (List.mem_of_getElem? found), fun row cell at_row =>
      settled reel cells found cell (List.mem_of_getElem? at_row)⟩

/-! ## Positions of a symbol -/

/-- The positions whose cell satisfies `keep`, reel by reel and row by row. -/
def positionsWhere (keep : Cell → Bool) (grid : Grid) : List Position :=
  grid.zipIdx.flatMap fun (cells, reel) =>
    (cells.zipIdx.filter fun (cell, _) => keep cell).map fun (_, row) =>
      { reel := reel, row := row }

def positionsForSymbol (grid : Grid) (target : Symbol) : List Position :=
  positionsWhere (fun cell => cell.symbol = target) grid

def positionsExceptSymbol (grid : Grid) (excluded : Symbol) : List Position :=
  positionsWhere (fun cell => cell.symbol ≠ excluded) grid

theorem Grid.cellAt?_natCast (grid : Grid) (reel row : Nat) :
    grid.cellAt? { reel := reel, row := row } = grid[reel]?.bind (·[row]?) := by
  simp only [Grid.cellAt?, Grid.reelAt, not_lt.mpr (Int.natCast_nonneg _), if_false,
    Int.toNat_natCast]
  cases grid[reel]? <;> simp

theorem Grid.cellAt?_negative {grid : Grid} {position : Position}
    (negative : position.reel < 0 ∨ position.row < 0) : grid.cellAt? position = none := by
  unfold Grid.cellAt? Grid.reelAt
  rcases negative with reel | row <;> simp [*]

theorem Grid.cellAt?_eq_some {grid : Grid} {position : Position} {cell : Cell} :
    grid.cellAt? position = some cell ↔
      ∃ (reel row : Nat) (cells : List Cell), position = { reel := reel, row := row } ∧
        grid[reel]? = some cells ∧ cells[row]? = some cell := by
  constructor
  · intro found
    by_cases negative : position.reel < 0 ∨ position.row < 0
    · rw [Grid.cellAt?_negative negative] at found
      cases found
    · simp only [not_or, not_lt] at negative
      obtain ⟨reel, row⟩ := position
      lift reel to Nat using negative.1
      lift row to Nat using negative.2
      rw [Grid.cellAt?_natCast, Option.bind_eq_some_iff] at found
      obtain ⟨cells, reelCells, foundCell⟩ := found
      exact ⟨reel, row, cells, rfl, reelCells, foundCell⟩
  · rintro ⟨reel, row, cells, rfl, reelCells, found⟩
    rw [Grid.cellAt?_natCast, reelCells, Option.bind_some, found]

theorem Grid.cellAt_of_found {grid : Grid} {position : Position} {cell : Cell}
    (found : grid.cellAt? position = some cell) : grid.cellAt position = cell := by
  rw [Grid.cellAt, found, Option.getD_some]

theorem positionsWhere_nodup (keep : Cell → Bool) (grid : Grid) :
    (positionsWhere keep grid).Nodup := by
  have indexed : ∀ {α : Type} (items : List α),
      items.zipIdx.Pairwise fun first second => first.2 ≠ second.2 := fun items =>
    List.pairwise_map.mp (List.nodup_zipIdx_map_snd items)
  refine List.nodup_flatMap.mpr ⟨?_, ?_⟩
  · rintro ⟨cells, reel⟩ _
    refine List.pairwise_map.mpr (((indexed cells).filter _).imp ?_)
    intro first second differ same
    exact differ (by simpa using same)
  · refine (indexed grid).imp ?_
    rintro ⟨first, firstReel⟩ ⟨second, secondReel⟩ differ
    simp only [Function.onFun, List.disjoint_left, List.mem_map, not_exists, not_and]
    rintro _ ⟨entry, _, rfl⟩ other _ same
    exact differ (by simpa using (congrArg Position.reel same).symm)

theorem positionsWhere_length (keep : Cell → Bool) (grid : Grid) :
    (positionsWhere keep grid).length = (grid.map (·.countP keep)).sum := by
  have counted : ∀ cells : List Cell,
      (cells.zipIdx.filter fun (cell, _) => keep cell).length = cells.countP keep := by
    intro cells
    rw [← List.countP_eq_length_filter]
    conv_rhs => rw [← List.zipIdx_map_fst 0 cells, List.countP_map]
    rfl
  rw [positionsWhere, List.length_flatMap]
  simp only [List.length_map, counted]
  conv_rhs => rw [← List.zipIdx_map_fst 0 grid, List.map_map]
  rfl

/-! ## Assigning a cell -/

end SlotsGame.Game
