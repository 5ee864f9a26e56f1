/-
# SlotsGame.Game.WaysForm -- the closed form of ways evaluation

On a settled grid only the middle cell of a path can be a wild, so a path pays
the symbol's base award times the factor of its middle cell.  The award of a
symbol is then a product: the base, the matches on the outer reels, and the sum
of the factors on the middle one.  `evaluateWays` computes it whenever the total
is within 64 bits, and fails only where it is not.
-/
import Mathlib.Algebra.BigOperators.Ring.List
import SlotsGame.Game.WaysFacts

namespace SlotsGame.Game

open SlotsGame.Theory

set_option autoImplicit false

variable {grid : Grid} {rows : Nat} {target : Symbol} {paytable : Paytable} {unit : Int}

/-! ## Counting matches -/

/-- What a cell multiplies the paths through it by. -/
def cellFactor (cell : Cell) : Int :=
  if cell.symbol = .wild then wildFactor cell.multiplier else 1

def matchingCells (grid : Grid) (target : Symbol) (reel : Nat) : List Cell :=
  (grid.reelAt reel).filter fun cell => cell.symbol = target ∨ cell.symbol = .wild

/-- `n_i`: the cells of a reel that match. -/
def matchCount (grid : Grid) (target : Symbol) (reel : Nat) : Nat :=
  (matchingCells grid target reel).length

/-- The sum of the factors of the matching middle cells. -/
def middleFactor (grid : Grid) (target : Symbol) : Int :=
  ((matchingCells grid target 1).map cellFactor).sum

def waysCount (grid : Grid) (target : Symbol) : Nat :=
  matchCount grid target 0 * matchCount grid target 1 * matchCount grid target 2

def waysAward (grid : Grid) (paytable : Paytable) (unit : Int) (target : Symbol) : Int :=
  paytable.value target * unit *
    (matchCount grid target 0 * matchCount grid target 2 * middleFactor grid target)

/-- The rows of the matches stand for the matching cells. -/
theorem matchingRows_map {α : Type} (grid : Grid) (target : Symbol) (reel : Nat) (value : Cell → α) :
    (matchingRows grid target reel).map
        (fun row : Nat => value (grid.cellAt { reel := reel, row := row })) =
      (matchingCells grid target reel).map value := by
  let kept (cell : Cell) : Bool := cell.symbol = target ∨ cell.symbol = .wild
  have indexed : ∀ entry ∈ (grid.reelAt reel).zipIdx.filter (kept ∘ Prod.fst),
      value (grid.cellAt { reel := reel, row := entry.2 }) = value entry.1 := by
    rintro ⟨cell, row⟩ member
    have found := List.mk_mem_zipIdx_iff_getElem?.mp (List.mem_filter.mp member).1
    have at_ : grid.cellAt? { reel := reel, row := row } = some cell := by
      simpa [Grid.cellAt?] using found
    rw [Grid.cellAt_of_found at_]
  have rows : (matchingRows grid target reel).map
      (fun row : Nat => value (grid.cellAt { reel := reel, row := row })) =
      ((grid.reelAt reel).zipIdx.filter (kept ∘ Prod.fst)).map fun entry => value entry.1 := by
    rw [matchingRows, List.map_map]
    exact List.map_congr_left indexed
  have cells : (matchingCells grid target reel).map value =
      ((grid.reelAt reel).zipIdx.filter (kept ∘ Prod.fst)).map fun entry => value entry.1 := by
    have same : ((grid.reelAt reel).zipIdx.map Prod.fst).filter kept =
        ((grid.reelAt reel).zipIdx.filter (kept ∘ Prod.fst)).map Prod.fst := List.filter_map
    rw [List.zipIdx_map_fst] at same
    show ((grid.reelAt reel).filter kept).map value = _
    rw [same, List.map_map]
    rfl
  rw [rows, cells]

theorem matchingRows_count (reel : Nat) :
    (matchingRows grid target reel).length = matchCount grid target reel := by
  have counted := congrArg List.length (matchingRows_map grid target reel id)
  simpa [matchCount] using counted

theorem symbolPaths_count : (symbolPaths grid target).length = waysCount grid target := by
  rw [waysCount, mul_assoc]
  simp [symbolPaths, List.length_flatMap, matchingRows_count]

/-! ## The factor of a path -/

/-- The factor of the middle cell of a path. -/
def pathFactor (grid : Grid) (cells : List Position) : Int :=
  (cells.map fun position => cellFactor (grid.cellAt position)).prod

theorem cellFactor_outer {cell : Cell} {reel : Nat} (settled : cell.Settled reel)
    (outer : reel ≠ 1) : cellFactor cell = 1 := by
  rw [cellFactor, if_neg fun wild => outer (settled.middle (.inl wild))]

theorem cellFactor_bounds {cell : Cell} {reel : Nat} (settled : cell.Settled reel) :
    1 ≤ cellFactor cell ∧ cellFactor cell ≤ 100 := by
  unfold cellFactor
  split
  · next wild =>
    have modifier := settled.modifier
    simp only [validateCellModifier, wild, refuse_ok, not_or, Bool.not_eq_false] at modifier
    have supported := modifier.1
    refine ⟨wildFactor_supported supported, ?_⟩
    simp only [isSupportedWildMultiplier, List.contains_eq_mem, decide_eq_true_eq, List.mem_cons,
      List.not_mem_nil, or_false] at supported
    unfold wildFactor
    split <;> omega
  · omega

theorem pathFactor_eq (settled : grid.Settled rows) {row0 row1 row2 : Nat}
    (path : pathCells row0 row1 row2 ∈ symbolPaths grid target) :
    pathFactor grid (pathCells row0 row1 row2) =
      cellFactor (grid.cellAt { reel := 1, row := row1 }) := by
  obtain ⟨first, match0, middle, match1, last, match2, same⟩ := mem_symbolPaths.mp path
  obtain ⟨rfl, rfl, rfl⟩ := pathCells_injective same
  obtain ⟨cell0, found0, _⟩ := mem_matchingRows.mp match0
  obtain ⟨cell2, found2, _⟩ := mem_matchingRows.mp match2
  have first : cellFactor (grid.cellAt { reel := 0, row := first }) = 1 := by
    have outer := cellFactor_outer (settled.cell found0).1 (by decide)
    rwa [← Grid.cellAt_of_found found0] at outer
  have last : cellFactor (grid.cellAt { reel := 2, row := last }) = 1 := by
    have outer := cellFactor_outer (settled.cell found2).1 (by decide)
    rwa [← Grid.cellAt_of_found found2] at outer
  simp [pathFactor, pathCells, first, last]

theorem pathFactor_bounds (settled : grid.Settled rows) {cells : List Position}
    (path : cells ∈ symbolPaths grid target) :
    1 ≤ pathFactor grid cells ∧ pathFactor grid cells ≤ 100 := by
  obtain ⟨row0, match0, row1, match1, row2, match2, rfl⟩ := mem_symbolPaths.mp path
  obtain ⟨cell, found, _⟩ := mem_matchingRows.mp match1
  have bounds := cellFactor_bounds (settled.cell found).1
  rw [pathFactor_eq settled path]
  rwa [← Grid.cellAt_of_found found] at bounds

/-- The walk over a path computes its factor. -/
theorem pathMultiplier_eq (settled : grid.Settled rows) {cells : List Position}
    (path : cells ∈ symbolPaths grid target) :
    pathMultiplier grid cells = .ok (pathFactor grid cells) := by
  obtain ⟨row0, match0, row1, match1, row2, match2, rfl⟩ := mem_symbolPaths.mp path
  obtain ⟨cell0, found0, _⟩ := mem_matchingRows.mp match0
  obtain ⟨cell1, found1, _⟩ := mem_matchingRows.mp match1
  obtain ⟨cell2, found2, _⟩ := mem_matchingRows.mp match2
  have each : ∀ {reel row : Nat} {cell : Cell} (multiplier : Int),
      grid.cellAt? { reel := reel, row := row } = some cell → multiplier = 1 →
      multiplyPathCell grid multiplier { reel := reel, row := row } =
        .ok (multiplier * cellFactor cell) := by
    rintro reel row cell _ found rfl
    obtain ⟨least, most⟩ := cellFactor_bounds (settled.cell found).1
    have at_ : grid.cellAt { reel := reel, row := row } = cell := Grid.cellAt_of_found found
    rw [multiplyPathCell, at_]
    unfold cellFactor at least most ⊢
    split
    · next wild =>
      rw [if_pos wild] at least most
      have fits : wildFactor cell.multiplier ≤ maxInt64 := most.trans (by decide)
      exact safeMul_ok.mpr ⟨by decide, by omega, by rwa [one_mul], rfl⟩
    · rw [mul_one]
      rfl
  have plain0 := cellFactor_outer (settled.cell found0).1 (by decide)
  have plain2 := cellFactor_outer (settled.cell found2).1 (by decide)
  have last : multiplyPathCell grid (cellFactor cell1) { reel := ((2 : Nat) : Int), row := row2 } =
      .ok (cellFactor cell1) := by
    have at_ : grid.cellAt { reel := ((2 : Nat) : Int), row := row2 } = cell2 :=
      Grid.cellAt_of_found found2
    have notWild : cell2.symbol ≠ .wild := fun wild =>
      absurd ((settled.cell found2).1.middle (.inl wild)) (by decide)
    rw [multiplyPathCell, at_, if_neg notWild]
    rfl
  have at1 : grid.cellAt { reel := 1, row := row1 } = cell1 := Grid.cellAt_of_found found1
  rw [pathFactor_eq settled path, at1]
  simp only [pathMultiplier, pathCells, List.foldlM_cons, List.foldlM_nil, bind_ok, pure_ok]
  refine ⟨_, each 1 found0 rfl, _, each _ found1 (by rw [plain0, one_mul]), _, ?_, rfl⟩
  rw [plain0, one_mul, one_mul]
  exact last

/-! ## The paths of one symbol together -/

theorem sum_flatMap_const {α : Type} (items : List α) (values : α → List Int) (sum : Int)
    (each : ∀ item ∈ items, (values item).sum = sum) :
    (items.flatMap values).sum = items.length * sum := by
  induction items with
  | nil => simp
  | cons item rest ih =>
      have tail := ih fun i member => each i (by simp [member])
      have head := each item (by simp)
      rw [List.flatMap_cons, List.sum_append, tail, head, List.length_cons]
      push_cast
      ring

/-- **The factors of all paths: the outer matches times the middle factors.** -/
theorem pathFactors_sum (settled : grid.Settled rows) :
    ((symbolPaths grid target).map (pathFactor grid)).sum =
      matchCount grid target 0 * matchCount grid target 2 * middleFactor grid target := by
  have each : ∀ row0 ∈ matchingRows grid target 0,
      ((((matchingRows grid target 1).flatMap fun row1 =>
        (matchingRows grid target 2).map fun row2 => pathCells row0 row1 row2)).map
          (pathFactor grid)).sum = matchCount grid target 2 * middleFactor grid target := by
    intro row0 match0
    have factors : ((matchingRows grid target 1).flatMap fun row1 =>
        (matchingRows grid target 2).map fun row2 => pathCells row0 row1 row2).map
          (pathFactor grid) =
        (matchingRows grid target 1).flatMap fun row1 : Nat =>
          (matchingRows grid target 2).map fun _ =>
            cellFactor (grid.cellAt { reel := 1, row := row1 }) := by
      rw [List.map_flatMap]
      refine List.flatMap_congr fun row1 match1 => ?_
      rw [List.map_map]
      refine List.map_congr_left fun row2 match2 => ?_
      exact pathFactor_eq settled
        (mem_symbolPaths.mpr ⟨row0, match0, row1, match1, row2, match2, rfl⟩)
    rw [factors]
    have sums : ∀ middle : List Nat, (middle.flatMap fun row1 : Nat =>
        (matchingRows grid target 2).map fun _ =>
          cellFactor (grid.cellAt { reel := 1, row := row1 })).sum =
        matchCount grid target 2 *
          (middle.map fun row1 : Nat => cellFactor (grid.cellAt { reel := 1, row := row1 })).sum := by
      intro middle
      induction middle with
      | nil => simp
      | cons row1 rest ih =>
          rw [List.flatMap_cons, List.sum_append, ih, List.map_const', List.sum_replicate,
            matchingRows_count, List.map_cons, List.sum_cons, nsmul_eq_mul]
          ring
    have middle := matchingRows_map grid target 1 cellFactor
    rw [sums, middleFactor]
    exact congrArg (fun factors : List Int => _ * factors.sum) middle
  rw [symbolPaths, List.map_flatMap, sum_flatMap_const _ _ _ each, matchingRows_count, mul_assoc]

/-- The award of a path in catalog units. -/
def nominalPath (grid : Grid) (base : Int) (cells : List Position) : PathAward :=
  { cells := cells, multiplier := pathFactor grid cells, baseAmountMinor := base
    amountMinor := base * pathFactor grid cells, paidAmountMinor := base * pathFactor grid cells }

/-- The walk over the paths fails only where their sum leaves 64 bits. -/
theorem evaluatePaths_ok {base : Int} (positive : 0 < base) {paths : List (List Position)}
    (factors : ∀ cells ∈ paths, pathMultiplier grid cells = .ok (pathFactor grid cells) ∧
      1 ≤ pathFactor grid cells) {scan final : PathScan} (nonneg : 0 ≤ scan.amount)
    (fits : scan.amount ≤ maxInt64) :
    paths.foldlM (evaluatePath grid target base) scan = .ok final ↔
      scan.amount + base * (paths.map (pathFactor grid)).sum ≤ maxInt64 ∧
      final = { amount := scan.amount + base * (paths.map (pathFactor grid)).sum
                pathAwards := scan.pathAwards ++ paths.map (nominalPath grid base) } := by
  induction paths generalizing scan with
  | nil =>
      simp only [List.foldlM_nil, pure_ok, List.map_nil, List.sum_nil, mul_zero, add_zero,
        List.append_nil, fits, true_and]
      exact eq_comm
  | cons cells rest ih =>
      obtain ⟨factor, least⟩ := factors cells (by simp)
      have later := fun i member => factors i (List.mem_cons_of_mem cells member)
      have amount : 0 < base * pathFactor grid cells := mul_pos positive (by omega)
      have tail : 0 ≤ base * (rest.map (pathFactor grid)).sum := by
        refine mul_nonneg positive.le (List.sum_nonneg ?_)
        intro value member
        obtain ⟨i, inRest, rfl⟩ := List.mem_map.mp member
        have := (later i inRest).2
        omega
      have split : base * ((cells :: rest).map (pathFactor grid)).sum =
          base * pathFactor grid cells + base * (rest.map (pathFactor grid)).sum := by
        rw [List.map_cons, List.sum_cons, mul_add]
      rw [List.foldlM_cons, bind_ok, split]
      simp only [evaluatePath, bind_ok, wrap_ok, factor, Except.ok.injEq, exists_eq_left',
        safeMul_ok, safeAdd_ok, pure_ok]
      constructor
      · rintro ⟨next, ⟨_, ⟨_, _, _, rfl⟩, _, ⟨_, _, sum, rfl⟩, rfl⟩, run⟩
        obtain ⟨bounded, rfl⟩ := (ih later (by simp only; omega) sum).mp run
        simp only at bounded
        refine ⟨by omega, ?_⟩
        simp only [PathScan.mk.injEq]
        refine ⟨by omega, ?_⟩
        simp [nominalPath]
      · rintro ⟨bounded, rfl⟩
        refine ⟨_, ⟨_, ⟨positive.le, by omega, by omega, rfl⟩, _,
          ⟨nonneg, amount.le, by omega, rfl⟩, rfl⟩, ?_⟩
        refine (ih later (by simp only; omega) (by simp only; omega)).mpr ⟨by simp only; omega, ?_⟩
        simp only [PathScan.mk.injEq]
        refine ⟨by omega, ?_⟩
        simp [nominalPath]

/-! ## One symbol, then all of them -/

/-- The win of a symbol that every reel matches. -/
def symbolWin (grid : Grid) (paytable : Paytable) (unit : Int) (target : Symbol) : Win :=
  { id := winID target, symbol := target, ways := waysCount grid target
    amountMinor := waysAward grid paytable unit target
    paidAmountMinor := waysAward grid paytable unit target
    cells := usedCells grid.rowCount (symbolPaths grid target)
    pathAwards := (symbolPaths grid target).map (nominalPath grid (paytable.value target * unit)) }

theorem symbolPaths_eq_nil : symbolPaths grid target = [] ↔ waysCount grid target = 0 := by
  rw [← symbolPaths_count, List.length_eq_zero_iff]

theorem waysAward_eq (settled : grid.Settled rows) :
    waysAward grid paytable unit target =
      paytable.value target * unit * ((symbolPaths grid target).map (pathFactor grid)).sum := by
  rw [pathFactors_sum settled, waysAward]

theorem pathFactors_least (settled : grid.Settled rows) (some : symbolPaths grid target ≠ []) :
    1 ≤ ((symbolPaths grid target).map (pathFactor grid)).sum := by
  obtain ⟨cells, path⟩ := List.exists_mem_of_ne_nil _ some
  have nonneg : ∀ value ∈ (symbolPaths grid target).map (pathFactor grid), 0 ≤ value := by
    intro value member
    obtain ⟨i, there, rfl⟩ := List.mem_map.mp member
    have := (pathFactor_bounds settled there).1
    omega
  have one := List.single_le_sum nonneg _ (List.mem_map_of_mem path)
  exact (pathFactor_bounds settled path).1.trans one

theorem waysAward_nonneg (settled : grid.Settled rows) (unitPos : 0 < unit)
    (pay : 0 < paytable.value target) : 0 ≤ waysAward grid paytable unit target := by
  rw [waysAward_eq settled]
  refine mul_nonneg (mul_pos pay unitPos).le ?_
  by_cases none : symbolPaths grid target = []
  · simp [none]
  · have := pathFactors_least settled none
    omega

theorem evaluateSymbol_ok (settled : grid.Settled rows) (unitPos : 0 < unit)
    (pay : 0 < paytable.value target) {result : Option Win} :
    evaluateSymbol grid paytable unit target = .ok result ↔
      waysAward grid paytable unit target ≤ maxInt64 ∧
      result = if waysCount grid target = 0 then none
        else some (symbolWin grid paytable unit target) := by
  have base : 0 < paytable.value target * unit := mul_pos pay unitPos
  have award : waysAward grid paytable unit target =
      paytable.value target * unit * ((symbolPaths grid target).map (pathFactor grid)).sum :=
    waysAward_eq settled
  simp only [evaluateSymbol, bind_ok, refuse_ok, exists_unit, not_le, pay, true_and]
  by_cases none : symbolPaths grid target = []
  · have zero : waysAward grid paytable unit target = 0 := by rw [award, none]; simp
    rw [if_pos none, if_pos (symbolPaths_eq_nil.mp none), pure_ok, zero]
    exact ⟨fun same => ⟨maxInt64_pos.le, same.symm⟩, fun both => both.2.symm⟩
  · rw [if_neg none, if_neg (mt symbolPaths_eq_nil.mpr none)]
    have least := pathFactors_least settled none
    have factors : ∀ cells ∈ symbolPaths grid target,
        pathMultiplier grid cells = .ok (pathFactor grid cells) ∧ 1 ≤ pathFactor grid cells :=
      fun cells path => ⟨pathMultiplier_eq settled path, (pathFactor_bounds settled path).1⟩
    have baseFits : waysAward grid paytable unit target ≤ maxInt64 →
        paytable.value target * unit ≤ maxInt64 := by
      intro fits
      rw [award] at fits
      exact (le_mul_of_one_le_right base.le least).trans fits
    have scanned (final : PathScan) : (symbolPaths grid target).foldlM
        (evaluatePath grid target (paytable.value target * unit)) {} = .ok final ↔
        waysAward grid paytable unit target ≤ maxInt64 ∧
        final = { amount := waysAward grid paytable unit target
                  pathAwards := (symbolPaths grid target).map
                    (nominalPath grid (paytable.value target * unit)) } := by
      have walked : (symbolPaths grid target).foldlM
          (evaluatePath grid target (paytable.value target * unit)) ⟨0, []⟩ = .ok final ↔ _ :=
        evaluatePaths_ok base factors le_rfl maxInt64_pos.le
      simpa only [zero_add, ← award, List.nil_append] using walked
    simp only [bind_ok, wrap_ok, safeMul_ok, pure_ok]
    constructor
    · rintro ⟨_, ⟨_, _, _, rfl⟩, final, run, rfl⟩
      obtain ⟨fits, rfl⟩ := (scanned final).mp run
      exact ⟨fits, by simp [symbolWin, symbolPaths_count]⟩
    · rintro ⟨fits, rfl⟩
      refine ⟨_, ⟨pay.le, unitPos.le, baseFits fits, rfl⟩, _, (scanned _).mpr ⟨fits, rfl⟩, ?_⟩
      simp [symbolWin, symbolPaths_count]

/-! ## All symbols together -/

/-- What ways evaluation reports for a list of symbols. -/
def closedForm (grid : Grid) (paytable : Paytable) (unit : Int) (targets : List Symbol) :
    WaysResult :=
  { wins := (targets.filter fun target => waysCount grid target ≠ 0).map
      (symbolWin grid paytable unit)
    total := (targets.map (waysAward grid paytable unit)).sum }

theorem waysAward_none (settled : grid.Settled rows) (none : waysCount grid target = 0) :
    waysAward grid paytable unit target = 0 := by
  rw [waysAward_eq settled, symbolPaths_eq_nil.mpr none]
  simp

theorem evaluateTarget_ok (settled : grid.Settled rows) (unitPos : 0 < unit)
    (pay : 0 < paytable.value target) {result next : WaysResult} (nonneg : 0 ≤ result.total)
    (fits : result.total ≤ maxInt64) :
    evaluateTarget grid paytable unit result target = .ok next ↔
      result.total + waysAward grid paytable unit target ≤ maxInt64 ∧
      next = { wins := result.wins ++ (closedForm grid paytable unit [target]).wins
               total := result.total + waysAward grid paytable unit target } := by
  have award := waysAward_nonneg settled unitPos pay
  simp only [evaluateTarget, bind_ok, evaluateSymbol_ok settled unitPos pay]
  by_cases unmatched : waysCount grid target = 0
  · have zero : waysAward grid paytable unit target = 0 := waysAward_none settled unmatched
    have silent : (closedForm grid paytable unit [target]).wins = [] := by
      simp [closedForm, unmatched]
    simp only [unmatched, if_true, zero, add_zero, silent, List.append_nil, fits, true_and,
      maxInt64_pos.le]
    constructor
    · rintro ⟨_, rfl, kept⟩
      exact (pure_ok.mp kept).symm
    · rintro rfl
      exact ⟨_, rfl, rfl⟩
  · have one : (closedForm grid paytable unit [target]).wins =
        [symbolWin grid paytable unit target] := by
      simp [closedForm, unmatched]
    simp only [unmatched, if_false, one]
    constructor
    · rintro ⟨_, ⟨_, rfl⟩, stepped⟩
      obtain ⟨_, added, same⟩ := bind_ok.mp stepped
      obtain ⟨_, _, sum, rfl⟩ := safeAdd_ok.mp (wrap_ok.mp added)
      exact ⟨sum, (pure_ok.mp same).symm⟩
    · rintro ⟨sum, rfl⟩
      refine ⟨_, ⟨by omega, rfl⟩, bind_ok.mpr ⟨_, wrap_ok.mpr ?_, rfl⟩⟩
      exact safeAdd_ok.mpr ⟨nonneg, award, sum, rfl⟩

theorem evaluateTargets_ok (settled : grid.Settled rows) (unitPos : 0 < unit)
    {targets : List Symbol} (pays : ∀ target ∈ targets, 0 < paytable.value target)
    {result final : WaysResult} (nonneg : 0 ≤ result.total) (fits : result.total ≤ maxInt64) :
    targets.foldlM (evaluateTarget grid paytable unit) result = .ok final ↔
      result.total + (closedForm grid paytable unit targets).total ≤ maxInt64 ∧
      final = { wins := result.wins ++ (closedForm grid paytable unit targets).wins
                total := result.total + (closedForm grid paytable unit targets).total } := by
  induction targets generalizing result with
  | nil =>
      simp only [List.foldlM_nil, pure_ok, closedForm, List.map_nil, List.sum_nil, add_zero,
        List.filter_nil, List.append_nil, fits, true_and]
      exact eq_comm
  | cons target rest ih =>
      have pay := pays target (by simp)
      have later := fun t member => pays t (List.mem_cons_of_mem target member)
      have award : 0 ≤ waysAward grid paytable unit target :=
        waysAward_nonneg settled unitPos pay
      have tail : 0 ≤ (closedForm grid paytable unit rest).total := by
        refine List.sum_nonneg fun value member => ?_
        obtain ⟨t, inRest, rfl⟩ := List.mem_map.mp member
        exact waysAward_nonneg settled unitPos (later t inRest)
      have total : (closedForm grid paytable unit (target :: rest)).total =
          waysAward grid paytable unit target + (closedForm grid paytable unit rest).total := by
        simp [closedForm]
      have wins : (closedForm grid paytable unit (target :: rest)).wins =
          (closedForm grid paytable unit [target]).wins ++
            (closedForm grid paytable unit rest).wins := by
        rw [closedForm, closedForm, closedForm, ← List.map_append, ← List.filter_append]
        rfl
      rw [List.foldlM_cons, bind_ok, total, wins]
      constructor
      · rintro ⟨next, stepped, run⟩
        obtain ⟨sum, rfl⟩ := (evaluateTarget_ok settled unitPos pay nonneg fits).mp stepped
        obtain ⟨bounded, rfl⟩ := (ih later (by simp only; omega) sum).mp run
        simp only at bounded
        refine ⟨by omega, ?_⟩
        simp only [WaysResult.mk.injEq, List.append_assoc, true_and]
        omega
      · rintro ⟨bounded, rfl⟩
        refine ⟨_, (evaluateTarget_ok settled unitPos pay nonneg fits).mpr ⟨by omega, rfl⟩, ?_⟩
        refine (ih later (by simp only; omega) (by simp only; omega)).mpr ⟨by simp only; omega, ?_⟩
        simp only [WaysResult.mk.injEq, List.append_assoc, true_and]
        omega

/-- **Ways evaluation accepts the settled grids whose awards fit, and reports
the closed form.** -/
theorem evaluateWays_ok (unitPos : 0 < unit)
    (pays : ∀ target ∈ payingSymbols, 0 < paytable.value target) {result : WaysResult} :
    evaluateWays grid paytable unit = .ok result ↔
      grid.Settled grid.rowCount ∧
      (closedForm grid paytable unit payingSymbols).total ≤ maxInt64 ∧
      result = closedForm grid paytable unit payingSymbols := by
  have walked (settled : grid.Settled grid.rowCount) :
      payingSymbols.foldlM (evaluateTarget grid paytable unit) {} = .ok result ↔
        (closedForm grid paytable unit payingSymbols).total ≤ maxInt64 ∧
        result = closedForm grid paytable unit payingSymbols := by
    have run : payingSymbols.foldlM (evaluateTarget grid paytable unit) ⟨[], 0⟩ = .ok result ↔ _ :=
      evaluateTargets_ok settled unitPos pays le_rfl maxInt64_pos.le
    simpa only [zero_add, List.nil_append] using run
  simp only [evaluateWays, bind_ok, refuse_ok, exists_unit, not_not, not_le, not_or, not_lt,
    checkCells_ok]
  constructor
  · rintro ⟨reels, _, ⟨least, most⟩, ⟨height, cells⟩, run⟩
    have settled : grid.Settled grid.rowCount := ⟨reels, least, most, height, cells⟩
    exact ⟨settled, (walked settled).mp run⟩
  · rintro ⟨settled, reported⟩
    exact ⟨settled.reels, unitPos, ⟨settled.least, settled.most⟩,
      ⟨settled.height, settled.cells⟩, (walked settled).mpr reported⟩

/-! ## The cells, the order and the symbol of a path -/

theorem usedCells_nodup (height : Nat) (paths : List (List Position)) :
    (usedCells height paths).Nodup := by
  refine List.nodup_flatMap.mpr ⟨fun reel _ => List.Nodup.filter _ ?_, ?_⟩
  · refine List.nodup_range.map fun first second same => ?_
    simpa using same
  · refine List.nodup_range.imp fun {first second} differ => ?_
    simp only [Function.onFun, List.disjoint_left, List.mem_filter, List.mem_map, not_and]
    rintro _ ⟨⟨row, _, rfl⟩, _⟩ ⟨other, _, same⟩
    exact absurd (congrArg Position.reel same).symm (by simpa using differ)

/-- The cells of a win are those its paths use. -/
theorem mem_usedCells (settled : grid.Settled grid.rowCount) {position : Position} :
    position ∈ usedCells grid.rowCount (symbolPaths grid target) ↔
      ∃ cells ∈ symbolPaths grid target, position ∈ cells := by
  simp only [usedCells, List.mem_flatMap, List.mem_filter, List.mem_map, List.mem_range,
    List.any_eq_true, List.contains_eq_mem, decide_eq_true_eq]
  constructor
  · rintro ⟨reel, _, _, used⟩
    exact used
  · rintro ⟨cells, path, used⟩
    obtain ⟨row0, match0, row1, match1, row2, match2, rfl⟩ := mem_symbolPaths.mp path
    have inside {reel row : Nat} (matched : row ∈ matchingRows grid target reel) :
        reel < 3 ∧ row < grid.rowCount := by
      obtain ⟨cell, found, _⟩ := mem_matchingRows.mp matched
      exact (settled.cell found).2.symm
    simp only [pathCells, List.mem_cons, List.not_mem_nil, or_false] at used
    obtain rfl | rfl | rfl := used
    · exact ⟨0, by omega, ⟨row0, (inside match0).2, rfl⟩, _, path, by simp [pathCells]⟩
    · exact ⟨1, by omega, ⟨row1, (inside match1).2, rfl⟩, _, path, by simp [pathCells]⟩
    · exact ⟨2, by omega, ⟨row2, (inside match2).2, rfl⟩, _, path, by simp [pathCells]⟩

theorem matchingRows_sorted (grid : Grid) (target : Symbol) (reel : Nat) :
    (matchingRows grid target reel).Pairwise (· < ·) := by
  have indexes : ((grid.reelAt reel).zipIdx.map (·.2)).Pairwise (· < ·) := by
    rw [List.zipIdx_map_snd]
    exact List.pairwise_lt_range'
  exact indexes.sublist (List.filter_sublist.map _)

/-- The rows a path passes, reel by reel. -/
def pathRows (cells : List Position) : List Int := cells.map (·.row)

theorem symbolPaths_sorted (grid : Grid) (target : Symbol) :
    (symbolPaths grid target).Pairwise fun first second => pathRows first < pathRows second := by
  have sorted := matchingRows_sorted grid target
  refine List.pairwise_flatMap.mpr ⟨fun row0 _ => List.pairwise_flatMap.mpr ⟨fun row1 _ => ?_, ?_⟩, ?_⟩
  · refine List.pairwise_map.mpr ((sorted 2).imp fun {first second} less => ?_)
    simp [pathRows, pathCells, List.cons_lt_cons_iff, less]
  · refine (sorted 1).imp fun {first second} less => ?_
    simp only [List.mem_map]
    rintro _ ⟨row2, _, rfl⟩ _ ⟨other2, _, rfl⟩
    simp [pathRows, pathCells, List.cons_lt_cons_iff, less]
  · refine (sorted 0).imp fun {first second} less => ?_
    simp only [List.mem_flatMap, List.mem_map]
    rintro _ ⟨row1, _, row2, _, rfl⟩ _ ⟨other1, _, other2, _, rfl⟩
    simp [pathRows, pathCells, List.cons_lt_cons_iff, less]

/-- No wild stands on the first reel, so a path says whose it is. -/
theorem symbolPaths_disjoint (settled : grid.Settled rows) {other : Symbol}
    {cells : List Position} (path : cells ∈ symbolPaths grid target)
    (same : cells ∈ symbolPaths grid other) : target = other := by
  obtain ⟨row, matched, row1, _, row2, _, rfl⟩ := mem_symbolPaths.mp path
  obtain ⟨row', matched', _, _, _, _, again⟩ := mem_symbolPaths.mp same
  obtain ⟨rfl, _, _⟩ := pathCells_injective again
  obtain ⟨cell, found, stands⟩ := mem_matchingRows.mp matched
  obtain ⟨cell', found', stands'⟩ := mem_matchingRows.mp matched'
  obtain rfl : cell = cell' := Option.some.inj (found.symm.trans found')
  have plain : cell.symbol ≠ .wild := fun wild =>
    absurd ((settled.cell found).1.middle (.inl wild)) (by decide)
  have own : cell.symbol = target := stands.resolve_right plain
  have others : cell.symbol = other := stands'.resolve_right plain
  rw [← own, others]

/-! ## The liability of a definition covers it -/

theorem middleFactor_le {most : Int} (leastMost : 1 ≤ most) (wilds : WildsWithin grid most)
    (target : Symbol) : middleFactor grid target ≤ matchCount grid target 1 * most := by
  have each : ∀ factor ∈ (matchingCells grid target 1).map cellFactor, factor ≤ most := by
    intro factor member
    obtain ⟨cell, matched, rfl⟩ := List.mem_map.mp member
    obtain ⟨row, found⟩ := List.getElem?_of_mem (List.mem_filter.mp matched).1
    have at_ : grid.cellAt? { reel := ((1 : Nat) : Int), row := row } = some cell := by
      simpa [Grid.cellAt?] using found
    unfold cellFactor
    split
    · next wild => exact (wilds _ _ at_ wild).2
    · exact leastMost
  have bounded := List.sum_le_card_nsmul _ _ each
  simpa [middleFactor, matchCount] using bounded

theorem waysAward_le {config : Config} (settled : grid.Settled rows)
    (wilds : WildsWithin grid (maxWildMultiplier config.wildMultipliers))
    (pay : 0 < config.paytable.value target) :
    waysAward grid config.paytable 1 target ≤ waysBound config target := by
  have least : 1 ≤ maxWildMultiplier config.wildMultipliers := (maxWildMultiplier_covers _).1
  have middle := middleFactor_le least wilds target
  have paths := symbolPaths_length settled target
  rw [symbolPaths_count, waysCount] at paths
  push_cast at paths
  have outer : (0 : Int) ≤ matchCount grid target 0 * matchCount grid target 2 :=
    mul_nonneg (Int.natCast_nonneg _) (Int.natCast_nonneg _)
  have factors : matchCount grid target 0 * matchCount grid target 2 * middleFactor grid target ≤
      maxWildMultiplier config.wildMultipliers * maximumWaysPerSymbol := by
    calc (matchCount grid target 0 * matchCount grid target 2 * middleFactor grid target : Int)
        ≤ matchCount grid target 0 * matchCount grid target 2 *
            (matchCount grid target 1 * maxWildMultiplier config.wildMultipliers) :=
          mul_le_mul_of_nonneg_left middle outer
      _ = maxWildMultiplier config.wildMultipliers * (matchCount grid target 0 *
            matchCount grid target 1 * matchCount grid target 2) := by ring
      _ ≤ maxWildMultiplier config.wildMultipliers * maximumWaysPerSymbol :=
          mul_le_mul_of_nonneg_left paths (by omega)
  rw [waysAward, waysBound, mul_one, mul_assoc (config.paytable.value target) (maxWildMultiplier _)]
  exact mul_le_mul_of_nonneg_left factors pay.le

theorem closedForm_fits {config : Config} (facts : ConfigFacts config)
    (settled : grid.Settled rows)
    (wilds : WildsWithin grid (maxWildMultiplier config.wildMultipliers)) :
    (closedForm grid config.paytable 1 payingSymbols).total ≤ maxInt64 := by
  obtain ⟨_, _, liability⟩ := facts.liability
  refine le_trans (List.sum_le_sum fun symbol member => ?_) liability.waysSum
  exact waysAward_le settled wilds (facts.pays symbol member)

/-! ## The reported wins -/

/-- What a reported win says of the grid. -/
structure WinForm (grid : Grid) (paytable : Paytable) (unit : Int) (win : Win) : Prop where
  ways : win.ways = matchCount grid win.symbol 0 * matchCount grid win.symbol 1 *
    matchCount grid win.symbol 2
  amount : win.amountMinor = paytable.value win.symbol * unit *
    (matchCount grid win.symbol 0 * matchCount grid win.symbol 2 * middleFactor grid win.symbol)
  cells : win.cells.Nodup ∧
    ∀ position, position ∈ win.cells ↔ ∃ path ∈ win.pathAwards, position ∈ path.cells
  paths : ∀ cells, (∃ path ∈ win.pathAwards, path.cells = cells) ↔
    ∃ row0 ∈ matchingRows grid win.symbol 0, ∃ row1 ∈ matchingRows grid win.symbol 1,
      ∃ row2 ∈ matchingRows grid win.symbol 2, pathCells row0 row1 row2 = cells
  priced : ∀ path ∈ win.pathAwards,
    path.amountMinor = paytable.value win.symbol * unit * pathFactor grid path.cells
  ordered : win.pathAwards.Pairwise fun first second =>
    pathRows first.cells < pathRows second.cells

theorem symbolWin_form (settled : grid.Settled grid.rowCount) :
    WinForm grid paytable unit (symbolWin grid paytable unit target) := by
  refine ⟨?_, rfl, ⟨usedCells_nodup _ _, fun position => ?_⟩, fun cells => ?_, ?_, ?_⟩
  · simp [symbolWin, waysCount]
  · rw [symbolWin, mem_usedCells settled]
    simp [nominalPath]
  · rw [← mem_symbolPaths]
    simp [symbolWin, nominalPath]
  · intro path member
    obtain ⟨cells, _, rfl⟩ := List.mem_map.mp member
    rfl
  · exact List.pairwise_map.mpr (symbolPaths_sorted grid target)

/-- **Ways evaluation reports its closed form.**  It fails only on an unsettled
grid or where the sum of the awards is beyond 64 bits, which no accepted
definition reaches with its own wilds; every paying symbol that every reel
matches has one win, of the right count, amount, cells and paths, and no path of
cells belongs to two wins. -/
theorem evaluateWays_closed (grid : Grid) (paytable : Paytable) (unit : Int) (unitPos : 0 < unit)
    (pays : ∀ target ∈ payingSymbols, 0 < paytable.value target) :
    ((∃ result, evaluateWays grid paytable unit = .ok result) ↔
      grid.Settled grid.rowCount ∧
        (payingSymbols.map (waysAward grid paytable unit)).sum ≤ maxInt64) ∧
    (∀ result, evaluateWays grid paytable unit = .ok result →
      result.wins.map (·.symbol) = payingSymbols.filter (fun target =>
        matchCount grid target 0 * matchCount grid target 1 * matchCount grid target 2 ≠ 0) ∧
      (∀ win ∈ result.wins, WinForm grid paytable unit win) ∧
      (∀ win ∈ result.wins, ∀ other ∈ result.wins, ∀ path ∈ win.pathAwards,
        ∀ shared ∈ other.pathAwards, path.cells = shared.cells → win = other) ∧
      result.total = (payingSymbols.map (waysAward grid paytable unit)).sum) ∧
    (∀ config : Config, config.Valid → config.paytable = paytable → unit = 1 →
      grid.Settled grid.rowCount →
      WildsWithin grid (maxWildMultiplier config.wildMultipliers) →
      ∃ result, evaluateWays grid paytable unit = .ok result) := by
  refine ⟨⟨?_, ?_⟩, ?_, ?_⟩
  · rintro ⟨result, evaluated⟩
    obtain ⟨settled, fits, _⟩ := (evaluateWays_ok unitPos pays).mp evaluated
    exact ⟨settled, fits⟩
  · rintro ⟨settled, fits⟩
    exact ⟨_, (evaluateWays_ok unitPos pays).mpr ⟨settled, fits, rfl⟩⟩
  · intro result evaluated
    obtain ⟨settled, _, rfl⟩ := (evaluateWays_ok unitPos pays).mp evaluated
    refine ⟨?_, ?_, ?_, rfl⟩
    · rw [closedForm, List.map_map]
      exact List.map_id _
    · intro win member
      obtain ⟨target, _, rfl⟩ := List.mem_map.mp member
      exact symbolWin_form settled
    · intro win member other otherMember path inWin shared inOther same
      obtain ⟨target, _, rfl⟩ := List.mem_map.mp member
      obtain ⟨target', _, rfl⟩ := List.mem_map.mp otherMember
      obtain ⟨cells, there, rfl⟩ := List.mem_map.mp inWin
      obtain ⟨cells', there', rfl⟩ := List.mem_map.mp inOther
      obtain rfl : cells = cells' := same
      rw [symbolPaths_disjoint settled there there']
  · rintro config valid rfl rfl settled wilds
    have fits := closedForm_fits valid.facts settled wilds
    exact ⟨_, (evaluateWays_ok unitPos pays).mpr ⟨settled, fits, rfl⟩⟩

/-- A wild of 3 and a plain wild beside an ORBIT. -/
def mixedGrid : Grid :=
  [[{ symbol := .orbit }, { symbol := .prism }, { symbol := .tank }],
   [{ symbol := .wild, multiplier := 3 }, { symbol := .orbit }, { symbol := .wild }],
   [{ symbol := .orbit }, { symbol := .prism }, { symbol := .orbit }]]

theorem mixedGrid_settled : mixedGrid.Settled mixedGrid.rowCount := by
  have walked : checkCells waysGridErrors mixedGrid.rowCount mixedGrid = .ok () := by
    decide +kernel
  obtain ⟨height, cells⟩ := checkCells_ok.mp walked
  exact ⟨rfl, by decide, by decide, height, cells⟩

/-- Six ORBIT paths pay ten bases, two PRISM paths four. -/
theorem mixedGrid_closed :
    ∃ result, evaluateWays mixedGrid demoConfig.paytable 1 = .ok result ∧
      result.wins.map (·.symbol) = [.orbit, .prism] ∧
      (∀ win ∈ result.wins, WinForm mixedGrid demoConfig.paytable 1 win) ∧
      result.total = 10 * demoConfig.paytable.value .orbit +
        4 * demoConfig.paytable.value .prism := by
  obtain ⟨accepted, reported, _⟩ :=
    evaluateWays_closed mixedGrid demoConfig.paytable 1 (by decide) (by decide)
  obtain ⟨result, evaluated⟩ := accepted.mpr ⟨mixedGrid_settled, by decide⟩
  obtain ⟨symbols, form, _, total⟩ := reported result evaluated
  refine ⟨result, evaluated, ?_, form, ?_⟩
  · rw [symbols]
    decide
  · rw [total]
    decide

end SlotsGame.Game
