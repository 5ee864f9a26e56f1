/-
# SlotsGame.Game.Ways -- every path of one symbol across the three reels

A win is one paying symbol with a matching cell (the symbol or a wild) on every
reel; each choice of one matching cell per reel is a path and pays on its own.
`evaluateWays` prices the paths in catalog units and `evaluateWaysForBet` scales
them to the bet: the win is rounded once, and the paths share its rounding by
largest remainder, so that they add up to it.
-/
import Mathlib.Data.List.Sort
import SlotsGame.Game.Grid

namespace SlotsGame.Game

open SlotsGame.Theory

set_option autoImplicit false

/-! ## Paths -/

def matchingRows (grid : Grid) (target : Symbol) (reel : Nat) : List Nat :=
  ((grid.reelAt reel).zipIdx.filter fun (cell, _) =>
    cell.symbol = target ∨ cell.symbol = .wild).map (·.2)

def pathCells (row0 row1 row2 : Nat) : List Position :=
  [{ reel := 0, row := row0 }, { reel := 1, row := row1 }, { reel := 2, row := row2 }]

def symbolPaths (grid : Grid) (target : Symbol) : List (List Position) :=
  (matchingRows grid target 0).flatMap fun row0 =>
    (matchingRows grid target 1).flatMap fun row1 =>
      (matchingRows grid target 2).map fun row2 => pathCells row0 row1 row2

def multiplyPathCell (grid : Grid) (multiplier : Int) (position : Position) :
    Except String Int :=
  let cell := grid.cellAt position
  if cell.symbol = .wild then safeMul multiplier (wildFactor cell.multiplier)
  else pure multiplier

/-- The product of the wild multipliers on a path. -/
def pathMultiplier (grid : Grid) (cells : List Position) : Except String Int :=
  cells.foldlM (multiplyPathCell grid) 1

/-- The cells some path uses, reel by reel and row by row. -/
def usedCells (rows : Nat) (paths : List (List Position)) : List Position :=
  (List.range 3).flatMap fun reel : Nat =>
    ((List.range rows).map fun row : Nat => ({ reel := reel, row := row } : Position)).filter
      fun position => paths.any (·.contains position)

/-! ## One symbol, then all of them -/

structure PathScan where
  amount : Int := 0
  pathAwards : List PathAward := []

def evaluatePath (grid : Grid) (target : Symbol) (base : Int) (scan : PathScan)
    (cells : List Position) : Except String PathScan := do
  let context := "ways: " ++ target.name
  let multiplier ← wrap (context ++ " path multiplier: ") (pathMultiplier grid cells)
  let amount ← wrap (context ++ " path award: ") (safeMul base multiplier)
  let total ← wrap (context ++ " aggregate award: ") (safeAdd scan.amount amount)
  pure { amount := total
         pathAwards := scan.pathAwards ++
           [{ cells := cells, multiplier := multiplier, baseAmountMinor := base,
              amountMinor := amount, paidAmountMinor := amount }] }

def winID (target : Symbol) : String := target.name.toLower ++ "-3"

/-- The win of one symbol, when every reel has a match. -/
def evaluateSymbol (grid : Grid) (paytable : Paytable) (unitMinor : Int) (target : Symbol) :
    Except String (Option Win) := do
  let pay := paytable.value target
  refuse (pay ≤ 0) ("ways: invalid paytable value for " ++ target.name)
  let paths := symbolPaths grid target
  if paths = [] then pure none
  else do
    let base ← wrap ("ways: " ++ target.name ++ " base award: ") (safeMul pay unitMinor)
    let scan ← paths.foldlM (evaluatePath grid target base) {}
    pure (some
      { id := winID target
        symbol := target
        ways := paths.length
        amountMinor := scan.amount
        paidAmountMinor := scan.amount
        cells := usedCells grid.rowCount paths
        pathAwards := scan.pathAwards })

structure WaysResult where
  wins : List Win := []
  total : Int := 0

def evaluateTarget (grid : Grid) (paytable : Paytable) (unitMinor : Int) (result : WaysResult)
    (target : Symbol) : Except String WaysResult := do
  match ← evaluateSymbol grid paytable unitMinor target with
  | none => pure result
  | some win =>
      let total ← wrap "ways: total award: " (safeAdd result.total win.amountMinor)
      pure { wins := result.wins ++ [win], total := total }

def waysGridErrors : GridErrors where
  reelRows reel found want := s!"ways: reel {reel} has {found} rows, want {want}"
  unknownSymbol reel row := s!"ways: unknown symbol at {reel},{row}"
  misplaced symbol reel row :=
    "ways: " ++ symbol.name ++ s!" at {reel},{row} is outside the middle reel"
  modifier reel row := s!"ways: invalid cell at {reel},{row}: "

def evaluateWays (grid : Grid) (paytable : Paytable) (unitMinor : Int) :
    Except String WaysResult := do
  let reels := grid.length
  refuse (reels ≠ 3) s!"ways: expected 3 reels, got {reels}"
  refuse (unitMinor ≤ 0) "ways: unit must be positive"
  let rows := grid.rowCount
  refuse (rows < 3 ∨ rows > 8) s!"ways: row count must be in [3,8], got {rows}"
  checkCells waysGridErrors rows grid
  payingSymbols.foldlM (evaluateTarget grid paytable unitMinor) {}

/-! ## Scaling to the bet -/

structure RemainderRecord where
  index : Nat
  remainder : Int

structure ScaleScan where
  paths : List PathAward := []
  floorTotal : Int := 0
  remainders : List RemainderRecord := []

def floorPath (betMinor payUnitMinor : Int) (scan : ScaleScan) (path : PathAward) :
    Except String ScaleScan := do
  let numerator ← safeMul path.amountMinor betMinor
  let floor := numerator / payUnitMinor
  let floorTotal ← safeAdd scan.floorTotal floor
  pure { paths := scan.paths ++ [{ path with amountMinor := floor, paidAmountMinor := floor }]
         floorTotal := floorTotal
         remainders := scan.remainders ++
           [{ index := scan.paths.length, remainder := numerator % payUnitMinor }] }

/-- `sort.SliceStable` by falling remainder. -/
def sortRemainders (remainders : List RemainderRecord) : List RemainderRecord :=
  remainders.insertionSort fun left right => left.remainder ≥ right.remainder

def bumpPath (path : PathAward) : PathAward :=
  { path with amountMinor := path.amountMinor + 1
              paidAmountMinor := path.paidAmountMinor + 1 }

def bumpPaths (paths : List PathAward) (chosen : List RemainderRecord) : List PathAward :=
  chosen.foldl (fun paths record => paths.modify record.index bumpPath) paths

def scalePathBase (betMinor payUnitMinor : Int) (path : PathAward) : Except String PathAward := do
  let baseAmount ← scaleWaysAward path.baseAmountMinor betMinor payUnitMinor
  let baseAmount := if path.amountMinor = 0 then 0 else baseAmount
  let baseAmount := if path.multiplier = 1 then path.amountMinor else baseAmount
  pure { path with baseAmountMinor := baseAmount }

def scalePathAwards (paths : List PathAward) (aggregateMinor betMinor payUnitMinor : Int) :
    Except String (List PathAward) := do
  let scan ← paths.foldlM (floorPath betMinor payUnitMinor) {}
  refuse (scan.floorTotal > aggregateMinor) "path floors exceed the aggregate award"
  let remaining := aggregateMinor - scan.floorTotal
  refuse (remaining > paths.length) "aggregate rounding cannot be distributed across paths"
  let chosen := (sortRemainders scan.remainders).take remaining.toNat
  (bumpPaths scan.paths chosen).mapM (scalePathBase betMinor payUnitMinor)

def scaleWin (betMinor payUnitMinor : Int) (result : WaysResult) (win : Win) :
    Except String WaysResult := do
  let context := "ways: " ++ win.symbol.name
  let scaled ← wrap (context ++ " scaled award: ")
    (scaleWaysAward win.amountMinor betMinor payUnitMinor)
  let pathAwards ← wrap (context ++ " scaled paths: ")
    (scalePathAwards win.pathAwards scaled betMinor payUnitMinor)
  let total ← wrap "ways: total scaled award: " (safeAdd result.total scaled)
  pure { wins := result.wins ++
           [{ win with amountMinor := scaled, paidAmountMinor := scaled
                       pathAwards := pathAwards }]
         total := total }

def evaluateWaysForBet (grid : Grid) (paytable : Paytable) (betMinor payUnitMinor : Int) :
    Except String WaysResult := do
  refuse (betMinor ≤ 0 ∨ payUnitMinor ≤ 0) "ways: bet and pay unit must be positive"
  let unscaled ← evaluateWays grid paytable 1
  unscaled.wins.foldlM (scaleWin betMinor payUnitMinor) {}

/-! ## Totals -/

/-- A result whose total is the sum of its wins, none of them negative. -/
structure WaysResult.Totalled (result : WaysResult) : Prop where
  nonneg : ∀ win ∈ result.wins, 0 ≤ win.amountMinor
  total : result.total = (result.wins.map (·.amountMinor)).sum

theorem WaysResult.Totalled.empty : WaysResult.Totalled {} :=
  ⟨by simp, rfl⟩

theorem WaysResult.Totalled.snoc {result : WaysResult} (holds : result.Totalled) {win : Win}
    {total : Int} (added : safeAdd result.total win.amountMinor = .ok total) :
    WaysResult.Totalled { wins := result.wins ++ [win], total := total } := by
  obtain ⟨_, winNonneg, _, rfl⟩ := safeAdd_ok.mp added
  refine ⟨fun w member => ?_, by simp [holds.total]⟩
  rcases List.mem_append.mp member with old | new
  · exact holds.nonneg w old
  · rwa [List.mem_singleton.mp new]

theorem evaluateWaysForBet_totalled {grid : Grid} {paytable : Paytable} {bet unit : Int}
    {result : WaysResult} (evaluated : evaluateWaysForBet grid paytable bet unit = .ok result) :
    result.Totalled := by
  simp only [evaluateWaysForBet, bind_ok, refuse_ok, exists_unit] at evaluated
  obtain ⟨_, unscaled, _, scaled⟩ := evaluated
  refine foldlM_ok_invariant (fun _ state => state.Totalled) scaled .empty ?_
  intro _ win state next _ holds stepped
  simp only [scaleWin, bind_ok, wrap_ok, pure_ok] at stepped
  obtain ⟨_, _, _, _, _, added, rfl⟩ := stepped
  exact holds.snoc added

end SlotsGame.Game
