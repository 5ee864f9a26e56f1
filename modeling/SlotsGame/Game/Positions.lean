/-
# SlotsGame.Game.Positions -- positions and paths inside a grid

The parts of the outcome validator that look at one win: every position lies in
the grid and stands once, and every path is one ordered cell per reel that
matches the symbol, with the multiplier its wilds give it.
-/
import SlotsGame.Game.WinCap

namespace SlotsGame.Game

open SlotsGame.Theory

set_option autoImplicit false

def validatePosition (rows : Nat) (seen : List Position) (position : Position) :
    Except String (List Position) := do
  refuse (position.reel < 0 ∨ position.reel ≥ 3 ∨ position.row < 0 ∨ position.row ≥ rows)
    "position is outside the grid"
  refuse (position ∈ seen) "position is duplicated"
  pure (position :: seen)

def validatePositions (positions : List Position) (rows : Nat) : Except String Unit := do
  let _ ← positions.foldlM (validatePosition rows) []

structure PathCheck where
  pathCells : List Position := []
  seenPaths : List (List Int) := []
  pathTotal : Int := 0
  paidPathTotal : Int := 0

def checkPathCell (grid : Grid) (win : Win) (pathIndex : Nat) (expectedMultiplier : Int)
    (entry : Position × Nat) : Except String Int := do
  let (position, reel) := entry
  refuse (position.reel ≠ reel ∨ position.row < 0 ∨
      position.row ≥ (grid.reelAt reel).length)
    s!"path {pathIndex} must contain one ordered cell per reel"
  let cell := grid.cellAt position
  refuse (cell.symbol ≠ win.symbol ∧ cell.symbol ≠ .wild)
    (s!"path {pathIndex} cell {reel} is incompatible with " ++ win.symbol.name)
  if cell.symbol = .wild then
    wrap s!"path {pathIndex} multiplier: "
      (safeMul expectedMultiplier (wildFactor cell.multiplier))
  else pure expectedMultiplier

def validatePathAward (grid : Grid) (win : Win) (check : PathCheck) (entry : PathAward × Nat) :
    Except String PathCheck := do
  let (award, pathIndex) := entry
  refuse (award.cells.length ≠ 3 ∨ award.multiplier < 1 ∨
      award.baseAmountMinor < 0 ∨ award.amountMinor < 0 ∨
      award.paidAmountMinor < 0 ∨ award.paidAmountMinor > award.amountMinor ∨
      award.baseAmountMinor > award.amountMinor ∨
      (award.amountMinor = 0 ∧ award.baseAmountMinor ≠ 0) ∨
      (award.amountMinor > 0 ∧ award.baseAmountMinor = 0) ∨
      (award.multiplier = 1 ∧ award.baseAmountMinor ≠ award.amountMinor))
    s!"invalid path {pathIndex}"
  let expectedMultiplier ← award.cells.zipIdx.foldlM (checkPathCell grid win pathIndex) 1
  let rows := award.cells.map (·.row)
  refuse (rows ∈ check.seenPaths) s!"path {pathIndex} duplicates an earlier path"
  refuse (award.multiplier ≠ expectedMultiplier)
    s!"path {pathIndex} multiplier does not match its WILD cells"
  let pathTotal ← addOutcomeMoney check.pathTotal award.amountMinor
  let paidPathTotal ← addOutcomeMoney check.paidPathTotal award.paidAmountMinor
  pure { pathCells := check.pathCells ++ award.cells
         seenPaths := rows :: check.seenPaths
         pathTotal := pathTotal
         paidPathTotal := paidPathTotal }

/-- The two cell lists are compared as the sets the source builds from them. -/
def validatePathAwards (win : Win) (grid : Grid) : Except String Unit := do
  refuse (win.pathAwards.length ≠ win.ways) "path count must equal ways"
  let check ← win.pathAwards.zipIdx.foldlM (validatePathAward grid win) {}
  refuse (check.pathTotal ≠ win.amountMinor)
    "nominal path amounts do not sum to the aggregate award"
  refuse (check.paidPathTotal ≠ win.paidAmountMinor)
    "paid path amounts do not sum to the settled aggregate award"
  refuse (check.pathCells.dedup.length ≠ win.cells.dedup.length)
    "aggregate cells do not match path cells"
  refuse (∃ position ∈ win.cells, position ∉ check.pathCells)
    "aggregate cells do not match path cells"

end SlotsGame.Game
