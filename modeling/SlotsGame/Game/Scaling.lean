/-
# SlotsGame.Game.Scaling -- path awards scaled to the bet

A win is rounded once and its paths share the rounded amount by largest
remainder.  The amount is within one unit of the exact share, so what the floors
leave over is at least nothing and at most one unit for each path, and neither
refusal of the distribution can happen.  The scaled wins then satisfy the path
checks of the outcome validator.
-/
import SlotsGame.Game.WaysForm
import SlotsGame.Theory.Remainders

namespace SlotsGame.Game

open SlotsGame.Theory

set_option autoImplicit false

variable {bet unit : Int} {paths : List PathAward}

/-! ## What the distribution computes -/

def floorOf (bet unit : Int) (path : PathAward) : PathAward :=
  { path with amountMinor := path.amountMinor * bet / unit
              paidAmountMinor := path.amountMinor * bet / unit }

def recordOf (bet unit : Int) (entry : PathAward × Nat) : RemainderRecord :=
  { index := entry.2, remainder := entry.1.amountMinor * bet % unit }

def rebased (bet unit : Int) (path : PathAward) : PathAward :=
  { path with baseAmountMinor :=
      if path.multiplier = 1 then path.amountMinor
      else if path.amountMinor = 0 then 0
      else scaledAward path.baseAmountMinor bet unit }

/-- What each path asks for, in units of `1 / unit`. -/
def demands (bet : Int) (paths : List PathAward) : List Int :=
  paths.map fun path => path.amountMinor * bet

/-- The paths the rest goes to. -/
def chosenPaths (bet unit total : Int) (paths : List PathAward) : List Nat :=
  ((sortRemainders (paths.zipIdx.map (recordOf bet unit))).take
    (total - ((demands bet paths).map (· / unit)).sum).toNat).map (·.index)

/-- The paths once they share `total`. -/
def sharedPaths (bet unit total : Int) (paths : List PathAward) : List PathAward :=
  (modifyAll bumpPath (paths.map (floorOf bet unit)) (chosenPaths bet unit total paths)).map
    (rebased bet unit)

/-- A path award of ways evaluation in catalog units. -/
structure PathAward.Nominal (path : PathAward) : Prop where
  base : 0 ≤ path.baseAmountMinor
  within : path.baseAmountMinor ≤ path.amountMinor

theorem demands_sum (bet : Int) (paths : List PathAward) :
    (demands bet paths).sum = (paths.map (·.amountMinor)).sum * bet := by
  rw [demands, List.sum_map_mul_right]

/-- The scaled amount is a neighbour of the exact one. -/
theorem scaledAward_rounds {amount : Int} (unitPos : 0 < unit) (betPos : 0 < bet)
    (nonneg : 0 ≤ amount) : Rounds unit (amount * bet) (scaledAward amount bet unit) := by
  have split := Int.mul_ediv_add_emod (amount * bet) unit
  have low := Int.emod_nonneg (amount * bet) unitPos.ne'
  have high := Int.emod_lt_of_pos (amount * bet) unitPos
  have quotient : 0 ≤ amount * bet / unit := Int.ediv_nonneg (mul_nonneg nonneg betPos.le) unitPos.le
  have rounded : roundHalfUp (amount * bet) unit = _ := roundHalfUp_eq unitPos
  have up : unit * (amount * bet / unit + 1) = unit * (amount * bet / unit) + unit := by ring
  unfold scaledAward
  split
  · next least =>
    have product : 0 < amount * bet := mul_pos least.1 betPos
    constructor
    · rw [least.2] at rounded
      split at rounded <;> omega
    · omega
  · rw [rounded]
    split
    · exact ⟨by omega, by omega⟩
    · exact ⟨le_rfl, by omega⟩

/-! ## The walk over the paths -/

theorem floorPaths_ok (unitPos : 0 < unit) (betPos : 0 < bet)
    (nonneg : ∀ path ∈ paths, 0 ≤ path.amountMinor) {scan : ScaleScan}
    (from_ : 0 ≤ scan.floorTotal)
    (sum : scan.floorTotal * unit + (demands bet paths).sum ≤ maxInt64) :
    paths.foldlM (floorPath bet unit) scan =
      .ok { paths := scan.paths ++ paths.map (floorOf bet unit)
            floorTotal := scan.floorTotal + ((demands bet paths).map (· / unit)).sum
            remainders := scan.remainders ++
              (paths.zipIdx scan.paths.length).map (recordOf bet unit) } := by
  induction paths generalizing scan with
  | nil => simp [demands]
  | cons path rest ih =>
      have amount := nonneg path (by simp)
      have later := fun p member => nonneg p (List.mem_cons_of_mem path member)
      have asked : 0 ≤ path.amountMinor * bet := mul_nonneg amount betPos.le
      have tail : 0 ≤ (demands bet rest).sum := by
        refine List.sum_nonneg fun value member => ?_
        obtain ⟨p, inRest, rfl⟩ := List.mem_map.mp member
        exact mul_nonneg (later p inRest) betPos.le
      have split : (demands bet (path :: rest)).sum =
          path.amountMinor * bet + (demands bet rest).sum := by simp [demands]
      have floors : ((demands bet (path :: rest)).map (· / unit)).sum =
          path.amountMinor * bet / unit + ((demands bet rest).map (· / unit)).sum := by
        simp [demands]
      rw [split] at sum
      have floor : 0 ≤ path.amountMinor * bet / unit := Int.ediv_nonneg asked unitPos.le
      have exact_ := Int.mul_ediv_add_emod (path.amountMinor * bet) unit
      have low := Int.emod_nonneg (path.amountMinor * bet) unitPos.ne'
      have scanned : 0 ≤ scan.floorTotal * unit := mul_nonneg from_ unitPos.le
      have grown : (scan.floorTotal + path.amountMinor * bet / unit) * unit =
          scan.floorTotal * unit + unit * (path.amountMinor * bet / unit) := by ring
      have bounded : scan.floorTotal + path.amountMinor * bet / unit ≤
          (scan.floorTotal + path.amountMinor * bet / unit) * unit :=
        le_mul_of_one_le_right (by omega) unitPos
      have stepped : floorPath bet unit scan path =
          .ok { paths := scan.paths ++ [floorOf bet unit path]
                floorTotal := scan.floorTotal + path.amountMinor * bet / unit
                remainders := scan.remainders ++
                  [recordOf bet unit (path, scan.paths.length)] } := by
        simp only [floorPath, bind_ok, safeMul_ok, safeAdd_ok, pure_ok]
        exact ⟨_, ⟨amount, betPos.le, by omega, rfl⟩, _, ⟨from_, floor, by omega, rfl⟩, rfl⟩
      rw [List.foldlM_cons, bind_ok]
      refine ⟨_, stepped, (ih later (by simp only; omega) (by simp only; omega)).trans ?_⟩
      simp only [List.map_cons, List.append_assoc, List.singleton_append, floors,
        List.length_append, List.length_singleton, List.zipIdx_cons, add_assoc]

theorem scalePathBase_ok (unitPos : 0 < unit) (betPos : 0 < bet) {path : PathAward}
    (base : 0 ≤ path.baseAmountMinor) (fits : path.baseAmountMinor * bet ≤ maxInt64) :
    scalePathBase bet unit path = .ok (rebased bet unit path) := by
  simp only [scalePathBase, bind_ok, scaleWaysAward_ok unitPos, pure_ok]
  exact ⟨_, ⟨base, betPos.le, fits, rfl⟩, rfl⟩

theorem bumpPaths_eq (paths : List PathAward) (chosen : List RemainderRecord) :
    bumpPaths paths chosen = modifyAll bumpPath paths (chosen.map (·.index)) := by
  rw [bumpPaths, modifyAll, List.foldl_map]

/-- A path of a bumped list is a floored one, perhaps with one more unit. -/
theorem mem_bumped {chosen : List Nat} {award : PathAward}
    (member : award ∈ modifyAll bumpPath (paths.map (floorOf bet unit)) chosen)
    (distinct : chosen.Nodup) :
    ∃ path ∈ paths, award = floorOf bet unit path ∨ award = bumpPath (floorOf bet unit path) := by
  obtain ⟨index, found⟩ := List.getElem?_of_mem member
  rw [modifyAll_getElem? distinct, List.getElem?_map] at found
  cases at_ : paths[index]? with
  | none => simp [at_] at found
  | some path =>
      refine ⟨path, List.mem_of_getElem? at_, ?_⟩
      rw [at_] at found
      split at found
      · exact .inr (by simpa using found.symm)
      · exact .inl (by simpa using found.symm)

/-! ## The records of the remainders -/

theorem sortRemainders_sorted (records : List RemainderRecord) :
    (sortRemainders records).Pairwise fun a b => a.remainder ≥ b.remainder := by
  have total : Std.Total fun left right : RemainderRecord => left.remainder ≥ right.remainder :=
    ⟨fun left right => le_total right.remainder left.remainder⟩
  have transitive : IsTrans RemainderRecord fun left right => left.remainder ≥ right.remainder :=
    ⟨fun _ _ _ first second => second.trans first⟩
  exact List.pairwise_insertionSort _ records

theorem chosenPaths_largest (unit total : Int) (paths : List PathAward) :
    Largest unit (demands bet paths) (chosenPaths bet unit total paths) := by
  have permuted : (sortRemainders (paths.zipIdx.map (recordOf bet unit))).Perm
      (paths.zipIdx.map (recordOf bet unit)) := List.perm_insertionSort _ _
  refine largest_of_sorted _ ?_ ?_ (sortRemainders_sorted _)
  · have indexes : (paths.zipIdx.map (recordOf bet unit)).map (·.index) =
        List.range (demands bet paths).length := by
      rw [List.map_map, demands, List.length_map, List.range_eq_range', ← List.zipIdx_map_snd]
      rfl
    rw [← indexes]
    exact permuted.map _
  · intro record member demand asked
    obtain ⟨⟨path, index⟩, inPaths, rfl⟩ := List.mem_map.mp (permuted.mem_iff.mp member)
    have at_ := List.mk_mem_zipIdx_iff_getElem?.mp inPaths
    rw [demands, List.getElem?_map] at asked
    simp only [recordOf] at asked ⊢
    rw [at_] at asked
    obtain rfl : path.amountMinor * bet = demand := by simpa using asked
    rfl

/-! ## The distribution succeeds -/

/-- How much of the total there is to distribute. -/
theorem chosenPaths_length {total : Int} (unitPos : 0 < unit)
    (rounds : Rounds unit (demands bet paths).sum total) :
    total = ((demands bet paths).map (· / unit)).sum + (chosenPaths bet unit total paths).length := by
  obtain ⟨least, most⟩ := rest_bounds unitPos rounds
  have records : (sortRemainders (paths.zipIdx.map (recordOf bet unit))).length = paths.length := by
    simp [sortRemainders]
  rw [chosenPaths, List.length_map, List.length_take, records]
  rw [demands, List.length_map, ← demands] at most
  omega

/-- The paths share the total by largest remainder. -/
theorem sharedPaths_shared {total : Int} (unitPos : 0 < unit)
    (rounds : Rounds unit (demands bet paths).sum total) :
    Shared unit (demands bet paths) total
      ((sharedPaths bet unit total paths).map (·.amountMinor)) := by
  have amounts : (sharedPaths bet unit total paths).map (·.amountMinor) =
      modifyAll (· + 1) ((demands bet paths).map (· / unit)) (chosenPaths bet unit total paths) := by
    have kept : (sharedPaths bet unit total paths).map (·.amountMinor) =
        (modifyAll bumpPath (paths.map (floorOf bet unit))
          (chosenPaths bet unit total paths)).map (·.amountMinor) := by
      rw [sharedPaths, List.map_map]
      rfl
    have bumped : (modifyAll bumpPath (paths.map (floorOf bet unit))
          (chosenPaths bet unit total paths)).map (·.amountMinor) =
        modifyAll (· + 1) ((paths.map (floorOf bet unit)).map (·.amountMinor))
          (chosenPaths bet unit total paths) := modifyAll_view fun _ => rfl
    rw [kept, bumped, demands, List.map_map, List.map_map]
    rfl
  rw [amounts]
  exact (chosenPaths_largest unit total paths).shared unitPos (chosenPaths_length unitPos rounds)

/-- **Neither refusal of the distribution is reachable.** -/
theorem scalePathAwards_ok (unitPos : 0 < unit) (betPos : 0 < bet)
    (nominal : ∀ path ∈ paths, path.Nominal) {total : Int}
    (rounds : Rounds unit (demands bet paths).sum total)
    (fits : (demands bet paths).sum ≤ maxInt64) :
    scalePathAwards paths total bet unit = .ok (sharedPaths bet unit total paths) := by
  have nonneg : ∀ path ∈ paths, 0 ≤ path.amountMinor := fun path member =>
    (nominal path member).base.trans (nominal path member).within
  obtain ⟨least, most⟩ := rest_bounds unitPos rounds
  rw [demands, List.length_map, ← demands] at most
  have walked : paths.foldlM (floorPath bet unit) ⟨[], 0, []⟩ = .ok _ :=
    floorPaths_ok unitPos betPos nonneg le_rfl (by simpa using fits)
  simp only [List.nil_append, zero_add, List.length_nil] at walked
  have bases : (modifyAll bumpPath (paths.map (floorOf bet unit))
      (chosenPaths bet unit total paths)).mapM (scalePathBase bet unit) =
      .ok (sharedPaths bet unit total paths) := by
    rw [mapM_ok, sharedPaths, List.forall₂_map_right_iff, List.forall₂_same]
    intro award member
    obtain ⟨path, inPaths, same⟩ := mem_bumped member (chosenPaths_largest unit total paths).distinct
    have base : award.baseAmountMinor = path.baseAmountMinor := by
      rcases same with rfl | rfl <;> rfl
    have asked : path.amountMinor * bet ≤ (demands bet paths).sum := by
      refine List.single_le_sum (fun value there => ?_) _ (List.mem_map_of_mem inPaths)
      obtain ⟨p, inside, rfl⟩ := List.mem_map.mp there
      exact mul_nonneg (nonneg p inside) betPos.le
    have below : path.baseAmountMinor * bet ≤ path.amountMinor * bet :=
      mul_le_mul_of_nonneg_right (nominal path inPaths).within betPos.le
    exact scalePathBase_ok unitPos betPos (base ▸ (nominal path inPaths).base) (by rw [base]; omega)
  simp only [scalePathAwards, bind_ok, refuse_ok, exists_unit, not_lt]
  refine ⟨_, walked, least, most, ?_⟩
  rw [bumpPaths_eq]
  exact bases

/-! ## The wins of a bet -/

/-- The win once it is paid at a bet. -/
def scaledWin (bet unit : Int) (win : Win) : Win :=
  { win with
    amountMinor := scaledAward win.amountMinor bet unit
    paidAmountMinor := scaledAward win.amountMinor bet unit
    pathAwards := sharedPaths bet unit (scaledAward win.amountMinor bet unit) win.pathAwards }

/-- A win in catalog units: its paths are nominal and make it up. -/
structure Win.Nominal (win : Win) : Prop where
  paths : ∀ path ∈ win.pathAwards, path.Nominal
  total : (win.pathAwards.map (·.amountMinor)).sum = win.amountMinor
  positive : 0 < win.amountMinor

theorem Win.Nominal.rounds {win : Win} (nominal : win.Nominal) (unitPos : 0 < unit)
    (betPos : 0 < bet) :
    Rounds unit (demands bet win.pathAwards).sum (scaledAward win.amountMinor bet unit) := by
  rw [demands_sum, nominal.total]
  exact scaledAward_rounds unitPos betPos nominal.positive.le

theorem scaleWin_ok (unitPos : 0 < unit) (betPos : 0 < bet) {win : Win} (nominal : win.Nominal)
    {result next : WaysResult} (from_ : 0 ≤ result.total) :
    scaleWin bet unit result win = .ok next ↔
      win.amountMinor * bet ≤ maxInt64 ∧
      result.total + scaledAward win.amountMinor bet unit ≤ maxInt64 ∧
      next = { wins := result.wins ++ [scaledWin bet unit win]
               total := result.total + scaledAward win.amountMinor bet unit } := by
  have shared (fits : win.amountMinor * bet ≤ maxInt64) :
      scalePathAwards win.pathAwards (scaledAward win.amountMinor bet unit) bet unit =
        .ok (sharedPaths bet unit (scaledAward win.amountMinor bet unit) win.pathAwards) := by
    refine scalePathAwards_ok unitPos betPos nominal.paths (nominal.rounds unitPos betPos) ?_
    rwa [demands_sum, nominal.total]
  have positive := scaledAward_pos unitPos nominal.positive betPos.le
  simp only [scaleWin, bind_ok, wrap_ok, scaleWaysAward_ok unitPos, safeAdd_ok, pure_ok]
  constructor
  · rintro ⟨_, ⟨_, _, fits, rfl⟩, paths, run, _, ⟨_, _, sum, rfl⟩, rfl⟩
    obtain rfl := Except.ok.inj ((shared fits).symm.trans run)
    exact ⟨fits, sum, rfl⟩
  · rintro ⟨fits, sum, rfl⟩
    exact ⟨_, ⟨nominal.positive.le, betPos.le, fits, rfl⟩, _, shared fits, _,
      ⟨from_, positive.le, sum, rfl⟩, rfl⟩

theorem scaleWins_ok (unitPos : 0 < unit) (betPos : 0 < bet) {wins : List Win}
    (nominal : ∀ win ∈ wins, win.Nominal) {result final : WaysResult} (from_ : 0 ≤ result.total)
    (bounded : result.total ≤ maxInt64) :
    wins.foldlM (scaleWin bet unit) result = .ok final ↔
      (∀ win ∈ wins, win.amountMinor * bet ≤ maxInt64) ∧
      result.total + (wins.map fun win => scaledAward win.amountMinor bet unit).sum ≤ maxInt64 ∧
      final = { wins := result.wins ++ wins.map (scaledWin bet unit)
                total := result.total +
                  (wins.map fun win => scaledAward win.amountMinor bet unit).sum } := by
  induction wins generalizing result with
  | nil =>
      simp only [List.foldlM_nil, pure_ok, List.not_mem_nil, false_implies, implies_true, true_and,
        List.map_nil, List.sum_nil, add_zero, List.append_nil, bounded]
      exact eq_comm
  | cons win rest ih =>
      have first := nominal win (by simp)
      have later := fun w member => nominal w (List.mem_cons_of_mem win member)
      have positive := scaledAward_pos unitPos first.positive betPos.le
      have tail : 0 ≤ (rest.map fun win => scaledAward win.amountMinor bet unit).sum := by
        refine List.sum_nonneg fun value member => ?_
        obtain ⟨w, inRest, rfl⟩ := List.mem_map.mp member
        exact (scaledAward_pos unitPos (later w inRest).positive betPos.le).le
      rw [List.foldlM_cons, bind_ok, List.map_cons, List.map_cons, List.sum_cons,
        List.forall_mem_cons]
      constructor
      · rintro ⟨next, stepped, run⟩
        obtain ⟨fits, sum, rfl⟩ := (scaleWin_ok unitPos betPos first from_).mp stepped
        obtain ⟨each, total, rfl⟩ := (ih later (by simp only; omega) sum).mp run
        simp only at total
        refine ⟨⟨fits, each⟩, by omega, ?_⟩
        simp [add_assoc]
      · rintro ⟨⟨fits, each⟩, total, rfl⟩
        refine ⟨_, (scaleWin_ok unitPos betPos first from_).mpr ⟨fits, by omega, rfl⟩, ?_⟩
        refine (ih later (by simp only; omega) (by simp only; omega)).mpr
          ⟨each, by simp only; omega, ?_⟩
        simp [add_assoc]

theorem symbolWin_nominal {grid : Grid} {rows : Nat} {paytable : Paytable} {target : Symbol}
    (settled : grid.Settled rows) (pay : 0 < paytable.value target)
    (matched : waysCount grid target ≠ 0) : (symbolWin grid paytable 1 target).Nominal := by
  have base : 0 < paytable.value target * 1 := by omega
  have total : ((symbolWin grid paytable 1 target).pathAwards.map (·.amountMinor)).sum =
      waysAward grid paytable 1 target := by
    rw [waysAward_eq settled, symbolWin, List.map_map, ← List.sum_map_mul_left]
    rfl
  refine ⟨fun path member => ?_, total, ?_⟩
  · obtain ⟨cells, there, rfl⟩ := List.mem_map.mp member
    have least := (pathFactor_bounds settled there).1
    exact ⟨base.le, le_mul_of_one_le_right base.le least⟩
  · show 0 < waysAward grid paytable 1 target
    have least := pathFactors_least settled (mt symbolPaths_eq_nil.mp matched)
    rw [waysAward_eq settled]
    exact mul_pos base (by omega)

theorem closedForm_nominal {grid : Grid} {rows : Nat} {paytable : Paytable}
    {targets : List Symbol} (settled : grid.Settled rows)
    (pays : ∀ target ∈ targets, 0 < paytable.value target) :
    ∀ win ∈ (closedForm grid paytable 1 targets).wins, win.Nominal := by
  intro win member
  obtain ⟨target, matched, rfl⟩ := List.mem_map.mp member
  obtain ⟨paying, some⟩ := List.mem_filter.mp matched
  exact symbolWin_nominal settled (pays target paying) (by simpa using some)

/-- What ways evaluation reports at a bet. -/
def scaledForm (grid : Grid) (paytable : Paytable) (bet unit : Int) : WaysResult :=
  { wins := (closedForm grid paytable 1 payingSymbols).wins.map (scaledWin bet unit)
    total := ((closedForm grid paytable 1 payingSymbols).wins.map fun win =>
      scaledAward win.amountMinor bet unit).sum }

theorem scaledForm_total_nonneg {grid : Grid} {rows : Nat} {paytable : Paytable}
    (pays : ∀ target ∈ payingSymbols, 0 < paytable.value target) (unitPos : 0 < unit)
    (betPos : 0 < bet) (settled : grid.Settled rows) :
    0 ≤ (scaledForm grid paytable bet unit).total := by
  refine List.sum_nonneg fun value member => ?_
  obtain ⟨win, inWins, rfl⟩ := List.mem_map.mp member
  have nominal := closedForm_nominal settled pays win inWins
  exact (scaledAward_pos unitPos nominal.positive betPos.le).le

/-- Evaluation at a bet fails only where a product or a sum leaves 64 bits. -/
theorem evaluateWaysForBet_ok {grid : Grid} {paytable : Paytable}
    (pays : ∀ target ∈ payingSymbols, 0 < paytable.value target) {result : WaysResult} :
    evaluateWaysForBet grid paytable bet unit = .ok result ↔
      (0 < bet ∧ 0 < unit) ∧ grid.Settled grid.rowCount ∧
      (closedForm grid paytable 1 payingSymbols).total ≤ maxInt64 ∧
      (∀ win ∈ (closedForm grid paytable 1 payingSymbols).wins,
        win.amountMinor * bet ≤ maxInt64) ∧
      (scaledForm grid paytable bet unit).total ≤ maxInt64 ∧
      result = scaledForm grid paytable bet unit := by
  simp only [evaluateWaysForBet, bind_ok, refuse_ok, exists_unit, not_or, not_le,
    evaluateWays_ok one_pos pays]
  constructor
  · rintro ⟨⟨betPos, unitPos⟩, _, ⟨settled, nominalFits, rfl⟩, run⟩
    have walked := (scaleWins_ok unitPos betPos (closedForm_nominal settled pays) le_rfl
      maxInt64_pos.le).mp run
    simp only [zero_add, List.nil_append] at walked
    exact ⟨⟨betPos, unitPos⟩, settled, nominalFits, walked⟩
  · rintro ⟨⟨betPos, unitPos⟩, settled, nominalFits, each, fits, rfl⟩
    refine ⟨⟨betPos, unitPos⟩, _, ⟨settled, nominalFits, rfl⟩, ?_⟩
    refine (scaleWins_ok unitPos betPos (closedForm_nominal settled pays) le_rfl
      maxInt64_pos.le).mpr ⟨each, ?_, ?_⟩
    · rw [zero_add]
      exact fits
    · simp [scaledForm]

/-! ## The path checks of the outcome validator -/

/-- What the validator asks of one path award. -/
structure PathStands (grid : Grid) (target : Symbol) (award : PathAward) : Prop where
  path : award.cells ∈ symbolPaths grid target
  multiplier : award.multiplier = pathFactor grid award.cells
  base : 0 ≤ award.baseAmountMinor ∧ award.baseAmountMinor ≤ award.amountMinor
  paid : 0 ≤ award.paidAmountMinor ∧ award.paidAmountMinor ≤ award.amountMinor
  zero : award.amountMinor = 0 ↔ award.baseAmountMinor = 0
  plain : award.multiplier = 1 → award.baseAmountMinor = award.amountMinor

theorem checkPathCell_ok {grid : Grid} {win : Win} {pathIndex reel row : Nat} {cell : Cell}
    (found : grid.cellAt? { reel := reel, row := row } = some cell)
    (matched : MatchesSymbol win.symbol cell) {multiplier next : Int}
    (stepped : multiplyPathCell grid multiplier { reel := reel, row := row } = .ok next) :
    checkPathCell grid win pathIndex multiplier ({ reel := reel, row := row }, reel) = .ok next := by
  have at_ : grid.cellAt { reel := reel, row := row } = cell := Grid.cellAt_of_found found
  have inside : row < (grid.reelAt reel).length := by
    have read : (grid.reelAt reel)[row]? = some cell := by simpa [Grid.cellAt?] using found
    exact (List.getElem?_eq_some_iff.mp read).1
  have compatible : ¬ (cell.symbol ≠ win.symbol ∧ cell.symbol ≠ .wild) := by
    rintro ⟨other, plain⟩
    exact matched.elim other plain
  rw [multiplyPathCell, at_] at stepped
  simp only [checkPathCell, bind_ok, refuse_ok, exists_unit, at_]
  refine ⟨by omega, compatible, ?_⟩
  split at stepped
  · next wild => rw [if_pos wild, wrap_ok, stepped]
  · next plain => rw [if_neg plain, stepped]

theorem checkPath_ok {grid : Grid} {rows : Nat} {win : Win} {cells : List Position}
    (settled : grid.Settled rows) (path : cells ∈ symbolPaths grid win.symbol) (pathIndex : Nat) :
    cells.zipIdx.foldlM (checkPathCell grid win pathIndex) 1 = .ok (pathFactor grid cells) := by
  have computed := pathMultiplier_eq settled path
  obtain ⟨row0, match0, row1, match1, row2, match2, rfl⟩ := mem_symbolPaths.mp path
  obtain ⟨cell0, found0, matched0⟩ := mem_matchingRows.mp match0
  obtain ⟨cell1, found1, matched1⟩ := mem_matchingRows.mp match1
  obtain ⟨cell2, found2, matched2⟩ := mem_matchingRows.mp match2
  simp only [pathMultiplier, pathCells, List.foldlM_cons, List.foldlM_nil, bind_ok, pure_ok]
    at computed
  obtain ⟨first, step0, second, step1, third, step2, done⟩ := computed
  simp only [pathCells, List.zipIdx_cons, List.zipIdx_nil, List.foldlM_cons, List.foldlM_nil,
    bind_ok, pure_ok]
  exact ⟨first, checkPathCell_ok found0 matched0 step0, second,
    checkPathCell_ok found1 matched1 step1, third, checkPathCell_ok found2 matched2 step2, done⟩

/-- The walk of the validator over the paths of a win. -/
structure PathsChecked (before : List (PathAward × Nat)) (check : PathCheck) : Prop where
  cells : ∀ position, position ∈ check.pathCells ↔ ∃ entry ∈ before, position ∈ entry.1.cells
  seen : ∀ rows, rows ∈ check.seenPaths ↔ ∃ entry ∈ before, pathRows entry.1.cells = rows
  total : check.pathTotal = (before.map (·.1.amountMinor)).sum
  paid : check.paidPathTotal = (before.map (·.1.paidAmountMinor)).sum

theorem validatePathAward_ok {grid : Grid} {rows : Nat} {win : Win} {check : PathCheck}
    {before : List (PathAward × Nat)} {award : PathAward} {pathIndex : Nat}
    (settled : grid.Settled rows) (stands : PathStands grid win.symbol award)
    (checked : PathsChecked before check)
    (fresh : ∀ entry ∈ before, pathRows entry.1.cells ≠ pathRows award.cells)
    (total : 0 ≤ check.pathTotal ∧ check.pathTotal + award.amountMinor ≤ maxInt64)
    (paid : 0 ≤ check.paidPathTotal ∧ check.paidPathTotal + award.paidAmountMinor ≤ maxInt64) :
    ∃ next, validatePathAward grid win check (award, pathIndex) = .ok next ∧
      PathsChecked (before ++ [(award, pathIndex)]) next := by
  obtain ⟨row0, _, row1, _, row2, _, shape⟩ := mem_symbolPaths.mp stands.path
  have three : award.cells.length = 3 := by rw [← shape]; rfl
  have least := (pathFactor_bounds settled stands.path).1
  have unseen : award.cells.map (·.row) ∉ check.seenPaths := by
    intro seen
    obtain ⟨entry, member, same⟩ := (checked.seen _).mp seen
    exact fresh entry member same
  obtain ⟨basePos, baseMost⟩ := stands.base
  obtain ⟨paidPos, paidMost⟩ := stands.paid
  have zero := stands.zero
  have plain := stands.plain
  have multiplier := stands.multiplier
  simp only [validatePathAward, bind_ok, refuse_ok, exists_unit, addOutcomeMoney_ok, pure_ok]
  refine ⟨_, ⟨by omega, _, checkPath_ok settled stands.path pathIndex, unseen,
    fun differ => differ multiplier, _, ⟨total.1, by omega, total.2, rfl⟩, _,
    ⟨paid.1, paidPos, paid.2, rfl⟩, rfl⟩, ?_, ?_, ?_, ?_⟩
  · intro position
    simp [checked.cells, or_and_right, exists_or]
  · intro rows
    simp only [List.mem_cons, checked.seen, List.mem_append, List.not_mem_nil, or_false,
      or_and_right, exists_or, exists_eq_left]
    rw [or_comm, eq_comm]
    rfl
  · simp [checked.total]
  · simp [checked.paid]

/-- A partial sum of amounts that are not negative stays under the whole. -/
theorem sum_split_le {α : Type} (view : α → Int) {items before after : List α} {item : α}
    (split : items = before ++ item :: after) (nonneg : ∀ i ∈ items, 0 ≤ view i) :
    0 ≤ (before.map view).sum ∧ (before.map view).sum + view item ≤ (items.map view).sum := by
  subst split
  have parts : ∀ part : List α, (∀ i ∈ part, 0 ≤ view i) → 0 ≤ (part.map view).sum := by
    intro part each
    refine List.sum_nonneg fun value member => ?_
    obtain ⟨i, inside, rfl⟩ := List.mem_map.mp member
    exact each i inside
  have front := parts before fun i member => nonneg i (by simp [member])
  have back := parts after fun i member => nonneg i (by simp [member])
  simp only [List.map_append, List.map_cons, List.sum_append, List.sum_cons]
  omega

/-- **A win whose paths stand, differ and add up passes the path checks.** -/
theorem validatePathAwards_ok {grid : Grid} {rows : Nat} {win : Win}
    (settled : grid.Settled rows) (count : win.pathAwards.length = win.ways)
    (each : ∀ award ∈ win.pathAwards, PathStands grid win.symbol award)
    (differ : (win.pathAwards.map fun award => pathRows award.cells).Nodup)
    (total : (win.pathAwards.map (·.amountMinor)).sum = win.amountMinor)
    (paid : (win.pathAwards.map (·.paidAmountMinor)).sum = win.paidAmountMinor)
    (fits : win.amountMinor ≤ maxInt64 ∧ win.paidAmountMinor ≤ maxInt64)
    (cells : ∀ position, position ∈ win.cells ↔ ∃ award ∈ win.pathAwards, position ∈ award.cells) :
    validatePathAwards win grid = .ok () := by
  have viewed {β : Type} (view : PathAward → β) :
      win.pathAwards.zipIdx.map (fun entry => view entry.1) = win.pathAwards.map view := by
    conv_rhs => rw [← List.zipIdx_map_fst 0 win.pathAwards, List.map_map]
    rfl
  have inWin : ∀ entry ∈ win.pathAwards.zipIdx, PathStands grid win.symbol entry.1 :=
    fun entry member => each _ (List.fst_mem_of_mem_zipIdx member)
  have step : ∀ before entry check,
      (∃ after, win.pathAwards.zipIdx = before ++ entry :: after) → PathsChecked before check →
      ∃ next, validatePathAward grid win check entry = .ok next ∧
        PathsChecked (before ++ [entry]) next := by
    rintro before ⟨award, pathIndex⟩ check ⟨after, split⟩ checked
    have amounts := sum_split_le (fun entry : PathAward × Nat => entry.1.amountMinor) split
      fun entry member => (inWin entry member).base.1.trans (inWin entry member).base.2
    have paids := sum_split_le (fun entry : PathAward × Nat => entry.1.paidAmountMinor) split
      fun entry member => (inWin entry member).paid.1
    rw [viewed fun award => award.amountMinor, total, ← checked.total] at amounts
    rw [viewed fun award => award.paidAmountMinor, paid, ← checked.paid] at paids
    have fresh : ∀ entry ∈ before, pathRows entry.1.cells ≠ pathRows award.cells := by
      rw [← viewed fun award => pathRows award.cells, split, List.map_append, List.map_cons,
        List.nodup_append] at differ
      exact fun entry member => differ.2.2 _ (List.mem_map_of_mem member) _ (by simp)
    have stands : PathStands grid win.symbol award := inWin (award, pathIndex) (by simp [split])
    exact validatePathAward_ok settled stands checked fresh
      ⟨amounts.1, amounts.2.trans fits.1⟩ ⟨paids.1, paids.2.trans fits.2⟩
  have start : PathsChecked [] {} := ⟨by simp, by simp, rfl, rfl⟩
  obtain ⟨check, run, checked⟩ := foldlM_ok_of PathsChecked start step
  have covered (position : Position) : position ∈ check.pathCells ↔ position ∈ win.cells := by
    rw [checked.cells, cells]
    constructor
    · rintro ⟨entry, member, inside⟩
      exact ⟨entry.1, List.fst_mem_of_mem_zipIdx member, inside⟩
    · rintro ⟨award, member, inside⟩
      obtain ⟨index, found⟩ := List.getElem?_of_mem member
      exact ⟨(award, index), List.mk_mem_zipIdx_iff_getElem?.mpr found, inside⟩
  have sameCells : check.pathCells.dedup.length = win.cells.dedup.length := by
    refine List.Perm.length_eq ((List.perm_ext_iff_of_nodup (List.nodup_dedup _)
      (List.nodup_dedup _)).mpr fun position => ?_)
    rw [List.mem_dedup, List.mem_dedup, covered]
  simp only [validatePathAwards, bind_ok, refuse_ok, exists_unit, not_not]
  refine ⟨count, check, run, ?_, ?_, sameCells, ?_⟩
  · rw [checked.total, viewed fun award => award.amountMinor, total]
  · rw [checked.paid, viewed fun award => award.paidAmountMinor, paid]
  · rintro ⟨position, member, missing⟩
    exact missing ((covered position).mpr member)

/-! ## Scaled wins pass them -/

theorem scaledAward_within {base multiplier : Int} (unitPos : 0 < unit) (betPos : 0 < bet)
    (basePos : 0 < base) (twice : 2 ≤ multiplier) :
    scaledAward base bet unit ≤ max 1 (base * multiplier * bet / unit) := by
  have numerator : 0 < base * bet := mul_pos basePos betPos
  by_cases small : roundHalfUp (base * bet) unit = 0
  · rw [scaledAward, if_pos ⟨basePos, small⟩]
    exact le_max_left _ _
  · have nonneg := roundHalfUp_nonneg unitPos numerator.le
    have half : unit ≤ 2 * (base * bet) := by
      by_contra less
      exact small (Int.ediv_eq_zero_of_lt (by omega) (by omega))
    have doubled : 2 * (base * bet) ≤ base * multiplier * bet := by nlinarith
    have rounded : roundHalfUp (base * bet) unit ≤ 2 * (base * bet) / unit := by
      have widen : 2 * (2 * (base * bet)) / (2 * unit) = 2 * (base * bet) / unit :=
        Int.mul_ediv_mul_of_pos _ _ (by omega)
      rw [roundHalfUp, ← widen]
      exact Int.ediv_le_ediv (by omega) (by omega)
    have floors := Int.ediv_le_ediv unitPos doubled
    rw [scaledAward, if_neg fun both => small both.2]
    exact le_max_of_le_right (rounded.trans floors)

/-- A path of the shared total, read back to the path it was made of. -/
theorem mem_sharedPaths {total : Int} {award : PathAward}
    (member : award ∈ sharedPaths bet unit total paths) :
    ∃ path ∈ paths, award.cells = path.cells ∧ award.multiplier = path.multiplier ∧
      award.paidAmountMinor = award.amountMinor ∧
      (award.amountMinor = path.amountMinor * bet / unit ∨
        award.amountMinor = path.amountMinor * bet / unit + 1) ∧
      award.baseAmountMinor = if path.multiplier = 1 then award.amountMinor
        else if award.amountMinor = 0 then 0 else scaledAward path.baseAmountMinor bet unit := by
  obtain ⟨bumped, inBumped, rfl⟩ := List.mem_map.mp member
  obtain ⟨path, inPaths, same⟩ := mem_bumped inBumped (chosenPaths_largest unit total paths).distinct
  refine ⟨path, inPaths, ?_⟩
  rcases same with rfl | rfl
  · exact ⟨rfl, rfl, rfl, .inl rfl, rfl⟩
  · exact ⟨rfl, rfl, rfl, .inr rfl, rfl⟩

theorem sharedPaths_map {β : Type} {total : Int} (view : PathAward → β)
    (floored : ∀ path, view (floorOf bet unit path) = view path)
    (bumped : ∀ path, view (bumpPath path) = view path)
    (based : ∀ path, view (rebased bet unit path) = view path) :
    (sharedPaths bet unit total paths).map view = paths.map view := by
  have bases : (sharedPaths bet unit total paths).map view =
      (modifyAll bumpPath (paths.map (floorOf bet unit)) (chosenPaths bet unit total paths)).map
        view := by
    rw [sharedPaths, List.map_map]
    exact List.map_congr_left fun path _ => based path
  rw [bases, modifyAll_map bumped, List.map_map]
  exact List.map_congr_left fun path _ => floored path

section Settled

variable {grid : Grid} {paytable : Paytable} {target : Symbol}

theorem scaledPath_stands {rows : Nat} (settled : grid.Settled rows) (unitPos : 0 < unit)
    (betPos : 0 < bet) {base total : Int} (basePos : 0 < base) {award : PathAward}
    (member : award ∈ sharedPaths bet unit total
      ((symbolPaths grid target).map (nominalPath grid base))) :
    PathStands grid target award := by
  obtain ⟨path, inPaths, cells, multiplier, paid, amount, based⟩ := mem_sharedPaths member
  obtain ⟨route, there, rfl⟩ := List.mem_map.mp inPaths
  obtain ⟨least, _⟩ := pathFactor_bounds settled there
  simp only [nominalPath] at cells multiplier amount
  have baseAmount : award.baseAmountMinor = if pathFactor grid route = 1 then award.amountMinor
      else if award.amountMinor = 0 then 0 else scaledAward base bet unit := based
  have floor : 0 ≤ base * pathFactor grid route * bet / unit :=
    Int.ediv_nonneg (mul_nonneg (mul_nonneg basePos.le (by omega)) betPos.le) unitPos.le
  have nonneg : 0 ≤ award.amountMinor := by omega
  have scaled := scaledAward_pos unitPos basePos betPos.le
  have path : award.cells ∈ symbolPaths grid target := cells ▸ there
  have factor : award.multiplier = pathFactor grid award.cells := by rw [multiplier, cells]
  have settledPaid : 0 ≤ award.paidAmountMinor ∧ award.paidAmountMinor ≤ award.amountMinor := by
    omega
  by_cases plain : pathFactor grid route = 1
  · rw [if_pos plain] at baseAmount
    exact ⟨path, factor, by omega, settledPaid, by omega, fun _ => baseAmount⟩
  · rw [if_neg plain] at baseAmount
    have wild : award.multiplier ≠ 1 := multiplier ▸ plain
    by_cases empty : award.amountMinor = 0
    · rw [if_pos empty] at baseAmount
      exact ⟨path, factor, by omega, settledPaid, by omega, fun one => absurd one wild⟩
    · rw [if_neg empty] at baseAmount
      have within := scaledAward_within unitPos betPos basePos
        (by omega : 2 ≤ pathFactor grid route)
      have top : max 1 (base * pathFactor grid route * bet / unit) ≤ award.amountMinor :=
        max_le (by omega) (by omega)
      exact ⟨path, factor, by omega, settledPaid, by omega, fun one => absurd one wild⟩

/-- **A win scaled to the bet passes the path checks of the validator.** -/
theorem scaledWin_validated (settled : grid.Settled grid.rowCount) (unitPos : 0 < unit)
    (betPos : 0 < bet) (pay : 0 < paytable.value target) (matched : waysCount grid target ≠ 0)
    (fits : scaledAward (waysAward grid paytable 1 target) bet unit ≤ maxInt64) :
    validatePathAwards (scaledWin bet unit (symbolWin grid paytable 1 target)) grid = .ok () := by
  have nominal := symbolWin_nominal settled pay matched
  have shared := sharedPaths_shared unitPos (nominal.rounds unitPos betPos)
  have basePos : 0 < paytable.value target * 1 := by omega
  have stands : ∀ award ∈ (scaledWin bet unit (symbolWin grid paytable 1 target)).pathAwards,
      PathStands grid target award := fun award member =>
    scaledPath_stands settled unitPos betPos basePos member
  have cells : (scaledWin bet unit (symbolWin grid paytable 1 target)).pathAwards.map (·.cells) =
      symbolPaths grid target := by
    refine (sharedPaths_map (·.cells) (fun _ => rfl) (fun _ => rfl) fun _ => rfl).trans ?_
    rw [symbolWin, List.map_map]
    exact List.map_id _
  have count : (scaledWin bet unit (symbolWin grid paytable 1 target)).pathAwards.length =
      (symbolPaths grid target).length := by rw [← cells, List.length_map]
  refine validatePathAwards_ok settled ?_ stands ?_ shared.sum ?_ ⟨fits, fits⟩ ?_
  · rw [count, symbolPaths_count]
    rfl
  · have rows : (scaledWin bet unit (symbolWin grid paytable 1 target)).pathAwards.map
        (fun award => pathRows award.cells) = (symbolPaths grid target).map pathRows := by
      rw [← cells, List.map_map]
      rfl
    rw [rows]
    refine List.pairwise_map.mpr ((symbolPaths_sorted grid target).imp ?_)
    intro first second less same
    exact lt_irrefl _ (same ▸ less)
  · have paid : ∀ award ∈ (scaledWin bet unit (symbolWin grid paytable 1 target)).pathAwards,
        award.paidAmountMinor = award.amountMinor := by
      intro award member
      obtain ⟨_, _, _, _, same, _⟩ := mem_sharedPaths member
      exact same
    rw [List.map_congr_left paid]
    exact shared.sum
  · intro position
    have used : position ∈ usedCells grid.rowCount (symbolPaths grid target) ↔ _ :=
      mem_usedCells settled
    refine used.trans ?_
    rw [← cells]
    simp

end Settled

/-! ## An accepted definition covers every bet -/

theorem sum_filter_le {α : Type} (keep : α → Bool) (value bound : α → Int) {items : List α}
    (kept : ∀ item ∈ items, keep item = true → value item ≤ bound item)
    (nonneg : ∀ item ∈ items, 0 ≤ bound item) :
    ((items.filter keep).map value).sum ≤ (items.map bound).sum := by
  induction items with
  | nil => rfl
  | cons item rest ih =>
      have tail := ih (fun i member => kept i (by simp [member]))
        fun i member => nonneg i (by simp [member])
      have first := nonneg item (by simp)
      rw [List.filter_cons, List.map_cons, List.sum_cons]
      split
      · next keeps =>
        have within := kept item (by simp) keeps
        rw [List.map_cons, List.sum_cons]
        omega
      · omega

section Definition

variable {config : Config} {grid : Grid} {rows : Nat} {target : Symbol}

theorem waysBound_pos (pay : 0 < config.paytable.value target) : 0 < waysBound config target := by
  have least : 1 ≤ maxWildMultiplier config.wildMultipliers := (maxWildMultiplier_covers _).1
  exact mul_pos (mul_pos pay (by omega)) (by decide)

/-- What a symbol can pay at a legal bet. -/
theorem scaledAward_le_bound (facts : ConfigFacts config)
    (legal : config.bet.minMinor ≤ bet ∧ bet ≤ config.bet.maxMinor) (settled : grid.Settled rows)
    (wilds : WildsWithin grid (maxWildMultiplier config.wildMultipliers))
    (pay : 0 < config.paytable.value target) (matched : waysCount grid target ≠ 0) :
    waysAward grid config.paytable 1 target * bet ≤
        waysBound config target * config.bet.maxMinor ∧
      scaledAward (waysAward grid config.paytable 1 target) bet config.bet.payUnitMinor ≤
        scaledWaysBound config target := by
  have least := facts.leastBet
  have award := waysAward_le settled wilds pay
  have positive := (symbolWin_nominal settled pay matched).positive
  exact ⟨mul_le_mul award legal.2 (by omega) (waysBound_pos pay).le,
    scaledAward_mono facts.unit positive (by omega) award legal.2⟩

theorem scaledForm_total_le (facts : ConfigFacts config)
    (legal : config.bet.minMinor ≤ bet ∧ bet ≤ config.bet.maxMinor)
    (settled : grid.Settled grid.rowCount)
    (wilds : WildsWithin grid (maxWildMultiplier config.wildMultipliers)) :
    (scaledForm grid config.paytable bet config.bet.payUnitMinor).total ≤
      (payingSymbols.map (scaledWaysBound config)).sum := by
  have least := facts.leastBet
  show (((payingSymbols.filter _).map _).map _).sum ≤ _
  rw [List.map_map]
  refine sum_filter_le _ _ (scaledWaysBound config) (fun symbol member keeps => ?_)
    fun symbol member => ?_
  · exact (scaledAward_le_bound facts legal settled wilds (facts.pays symbol member)
      (by simpa using keeps)).2
  · have bound := waysBound_pos (facts.pays symbol member)
    exact (scaledAward_pos facts.unit bound (by omega)).le

/-- Every win at a legal bet, and their total, is within the bound of the definition. -/
theorem evaluateWaysForBet_bounded (facts : ConfigFacts config)
    (legal : config.bet.minMinor ≤ bet ∧ bet ≤ config.bet.maxMinor)
    (settled : grid.Settled grid.rowCount)
    (wilds : WildsWithin grid (maxWildMultiplier config.wildMultipliers)) :
    evaluateWaysForBet grid config.paytable bet config.bet.payUnitMinor =
      .ok (scaledForm grid config.paytable bet config.bet.payUnitMinor) := by
  have least := facts.leastBet
  obtain ⟨maxVault, maxWheel, liability⟩ := facts.liability
  have total := scaledForm_total_le facts legal settled wilds
  have vaults : 0 ≤ config.bet.maxMinor * maxVault * maximumVaultsPerSpin :=
    mul_nonneg (mul_nonneg (by omega) liability.vaultNonneg) (by decide)
  have wheel : 0 ≤ config.bet.maxMinor * maxWheel :=
    mul_nonneg (by omega) liability.wheelNonneg
  have combined := liability.combined
  refine (evaluateWaysForBet_ok facts.pays).mpr
    ⟨⟨by omega, facts.unit⟩, settled, closedForm_fits facts settled wilds, ?_, by omega, rfl⟩
  intro win member
  obtain ⟨symbol, matched, rfl⟩ := List.mem_map.mp member
  obtain ⟨paying, keeps⟩ := List.mem_filter.mp matched
  exact (scaledAward_le_bound facts legal settled wilds (facts.pays symbol paying)
    (by simpa using keeps)).1.trans (liability.ways symbol paying)

end Definition

/-- **The paths of a win share its rounded amount by largest remainder.**  Any
nominal paths whose sum can be scaled are distributed without a refusal; the wins
of a bet are made so and pass the validator's path checks; and every settled grid
with the wilds of an accepted definition has its wins at every legal bet. -/
theorem path_awards_shared :
    (∀ (paths : List PathAward) (bet unit aggregate : Int), 0 < bet → 0 < unit →
      (∀ path ∈ paths, path.Nominal) →
      scaleWaysAward (paths.map (·.amountMinor)).sum bet unit = .ok aggregate →
      aggregate = scaledAward (paths.map (·.amountMinor)).sum bet unit ∧
      ∃ scaled, scalePathAwards paths aggregate bet unit = .ok scaled ∧
        Shared unit (paths.map fun path => path.amountMinor * bet) aggregate
          (scaled.map (·.amountMinor))) ∧
    (∀ (grid : Grid) (paytable : Paytable) (bet unit : Int) (result : WaysResult),
      (∀ symbol ∈ payingSymbols, 0 < paytable.value symbol) →
      evaluateWaysForBet grid paytable bet unit = .ok result →
      ∃ nominal, evaluateWays grid paytable 1 = .ok nominal ∧
        List.Forall₂ (fun (win scaled : Win) =>
            scaled.amountMinor = scaledAward win.amountMinor bet unit ∧
            scalePathAwards win.pathAwards scaled.amountMinor bet unit = .ok scaled.pathAwards ∧
            Shared unit (win.pathAwards.map fun path => path.amountMinor * bet)
              scaled.amountMinor (scaled.pathAwards.map (·.amountMinor)) ∧
            validatePathAwards scaled grid = .ok ())
          nominal.wins result.wins) ∧
    (∀ (config : Config) (bet : Int) (grid : Grid), config.Valid →
      config.validateBet bet = .ok () → grid.Settled grid.rowCount →
      WildsWithin grid (maxWildMultiplier config.wildMultipliers) →
      ∃ result, evaluateWaysForBet grid config.paytable bet config.bet.payUnitMinor =
        .ok result) := by
  refine ⟨?_, ?_, ?_⟩
  · intro paths bet unit aggregate betPos unitPos nominal scaled
    obtain ⟨nonneg, _, fits, rfl⟩ := (scaleWaysAward_ok unitPos).mp scaled
    have rounds := scaledAward_rounds unitPos betPos nonneg
    rw [← demands_sum] at rounds fits
    exact ⟨rfl, _, scalePathAwards_ok unitPos betPos nominal rounds fits,
      sharedPaths_shared unitPos rounds⟩
  · intro grid paytable bet unit result pays evaluated
    obtain ⟨⟨betPos, unitPos⟩, settled, nominalFits, each, fits, rfl⟩ :=
      (evaluateWaysForBet_ok pays).mp evaluated
    refine ⟨_, (evaluateWays_ok one_pos pays).mpr ⟨settled, nominalFits, rfl⟩, ?_⟩
    rw [scaledForm, List.forall₂_map_right_iff, List.forall₂_same]
    intro win member
    have nominal := closedForm_nominal settled pays win member
    have rounds := nominal.rounds unitPos betPos
    have product : (demands bet win.pathAwards).sum ≤ maxInt64 := by
      rw [demands_sum, nominal.total]
      exact each win member
    refine ⟨rfl, scalePathAwards_ok unitPos betPos nominal.paths rounds product,
      sharedPaths_shared unitPos rounds, ?_⟩
    have within : scaledAward win.amountMinor bet unit ≤ maxInt64 := by
      refine le_trans ?_ fits
      refine List.single_le_sum (fun value there => ?_) _ (List.mem_map_of_mem member)
      obtain ⟨w, inside, rfl⟩ := List.mem_map.mp there
      exact (scaledAward_pos unitPos (closedForm_nominal settled pays w inside).positive
        betPos.le).le
    obtain ⟨symbol, matched, rfl⟩ := List.mem_map.mp member
    obtain ⟨paying, keeps⟩ := List.mem_filter.mp matched
    exact scaledWin_validated settled unitPos betPos (pays symbol paying) (by simpa using keeps)
      within
  · intro config bet grid valid legal settled wilds
    exact ⟨_, evaluateWaysForBet_bounded valid.facts (validateBet_bounds legal) settled wilds⟩

theorem mixedGrid_wilds :
    WildsWithin mixedGrid (maxWildMultiplier demoConfig.wildMultipliers) := by
  intro position cell found wild
  obtain ⟨reel, row, cells, rfl, reelCells, foundCell⟩ := Grid.cellAt?_eq_some.mp found
  have settled := (mixedGrid_settled.cell found).1
  have bounds := cellFactor_bounds settled
  rwa [cellFactor, if_pos wild] at bounds

/-- At a tenth of the reference bet the two wins pay 30 and 4 minor units. -/
theorem mixedGrid_shared :
    ∃ result, evaluateWaysForBet mixedGrid demoConfig.paytable 10 100 = .ok result ∧
      ∀ win ∈ result.wins, validatePathAwards win mixedGrid = .ok () := by
  obtain ⟨_, shared, covered⟩ := path_awards_shared
  obtain ⟨result, evaluated⟩ := covered demoConfig 10 mixedGrid demoConfig_valid
    (by decide +kernel) mixedGrid_settled mixedGrid_wilds
  obtain ⟨nominal, _, wins⟩ := shared mixedGrid demoConfig.paytable 10 100 result
    (by decide) evaluated
  refine ⟨result, evaluated, fun win member => ?_⟩
  obtain ⟨index, found⟩ := List.getElem?_of_mem member
  obtain ⟨inside, rfl⟩ := List.getElem?_eq_some_iff.mp found
  have lengths := wins.length_eq
  exact ((List.forall₂_iff_get.mp wins).2 index (by omega) inside).2.2.2

end SlotsGame.Game
