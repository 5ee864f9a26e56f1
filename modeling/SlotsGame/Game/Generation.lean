/-
# SlotsGame.Game.Generation -- the grid an engine draws

Every drawn cell is one the definition's reel offers, a wild carries a
multiplier of its table and nothing else carries a modifier (`FreshCell`).  A
base grid has at most three rage symbols, a free-spin grid none.
-/
import SlotsGame.Game.Drawing

namespace SlotsGame.Game

open SlotsGame.Theory

set_option autoImplicit false

variable {σ : Type} {total : Prop}

structure FreshCell (config : Config) (reel : Nat) (cell : Cell) : Prop where
  known : isKnownSymbol cell.symbol = true
  middle : cell.symbol = .wild ∨ cell.symbol = .vault → reel = 1
  wild : cell.symbol = .wild → ∃ item ∈ config.wildMultipliers, item.value = cell.multiplier
  plain : cell.symbol ≠ .wild → cell.multiplier = 0
  prize : cell.prize = .empty

theorem FreshCell.settled {config : Config} (facts : ConfigFacts config) {reel : Nat} {cell : Cell}
    (fresh : FreshCell config reel cell) : cell.Settled reel := by
  refine ⟨fresh.known, fresh.middle, ?_⟩
  have prize := fresh.prize
  have plain := fresh.plain
  have wild := fresh.wild
  obtain ⟨symbol, multiplier, _⟩ := cell
  simp only at prize plain wild
  subst prize
  cases symbol with
  | wild =>
      obtain ⟨item, member, rfl⟩ := wild rfl
      simp [validateCellModifier, facts.wild.supported item member]
  | _ => simp [validateCellModifier, plain (by simp)]

def isSurge (cell : Cell) : Bool := cell.symbol = .surge

/-- The modes a canonical input plays in. -/
def PlayMode (mode : FeatureMode) : Prop := mode = .none ∨ mode = .expansion ∨ mode = .overdrive

namespace Engine

variable (engine : Engine σ)

theorem withoutSurge_table {index : Nat} {reel : List WeightedSymbol}
    (table : ReelTable index reel) :
    WeightTable WeightedSymbol.weight (withoutSymbol reel .surge) := by
  refine table.table.filter _ ?_
  obtain ⟨item, member, ordinary⟩ := table.ordinary
  exact ⟨item, member, by simpa using ordinary⟩

/-- The reel a mode draws from. -/
def modeReel (mode : FeatureMode) (reel : List WeightedSymbol) : List WeightedSymbol :=
  if mode = .expansion ∨ mode = .overdrive then withoutSymbol reel .surge else reel

structure DrawnCell (index : Nat) (mode : FeatureMode) (scan next : ReelScan) (cell : Cell) :
    Prop where
  cells : next.cells = scan.cells ++ [cell]
  fresh : FreshCell engine.config index cell
  settledRage : next.settledRage = scan.settledRage + if isSurge cell then 1 else 0
  surge : isSurge cell = true → mode = .none ∧ scan.settledRage ≠ 3

variable {engine}

theorem generateCell_ensures (lawful : engine.random.Lawful total) {index : Nat}
    {reel : List WeightedSymbol} (table : ReelTable index reel) {mode : FeatureMode}
    (playMode : PlayMode mode) (scan : ReelScan) :
    Ensures total (engine.generateCell (modeReel mode reel) mode scan) fun next =>
      ∃ cell, engine.DrawnCell index mode scan next cell := by
  have facts := engine.valid.facts
  -- the table drawn from offers a rage symbol only to a base grid that lacks three
  obtain ⟨weights, offered⟩ : ∃ weights, weights =
      (if mode = .none ∧ scan.settledRage = 3 then withoutSymbol (modeReel mode reel) .surge
        else modeReel mode reel) := ⟨_, rfl⟩
  have weightsTable : WeightTable WeightedSymbol.weight weights ∧
      ∀ item ∈ weights, item ∈ reel ∧
        (item.value = .surge → mode = .none ∧ scan.settledRage ≠ 3) := by
    subst offered
    rcases playMode with rfl | rfl | rfl
    · by_cases full : scan.settledRage = 3
      · simp only [full, and_self, ite_true, modeReel, reduceCtorEq, or_self, ite_false]
        refine ⟨withoutSurge_table table, fun item member => ?_⟩
        simp_all [withoutSymbol]
      · simp only [full, and_false, ite_false, modeReel, reduceCtorEq, or_self]
        exact ⟨table.table, fun item member => ⟨member, fun _ => ⟨trivial, full⟩⟩⟩
    all_goals
      simp only [reduceCtorEq, false_and, ite_false, modeReel, or_true, true_or, ite_true]
      refine ⟨withoutSurge_table table, fun item member => ?_⟩
      simp_all [withoutSymbol]
  obtain ⟨weightTable, each⟩ := weightsTable
  unfold generateCell
  rw [← offered]
  refine (pickWeightedSymbol_ensures lawful weightTable).bind ?_
  rintro _ ⟨item, member, rfl⟩
  obtain ⟨inReel, surge⟩ := each item member
  have known := table.known item inReel
  have middle := table.middle item inReel
  by_cases wild : item.value = .wild
  · rw [if_pos wild]
    refine (pickWeightedInt_ensures lawful facts.wild.table).bind ?_
    rintro _ ⟨multiplier, multiplierMember, rfl⟩
    refine .pure ⟨_, rfl, ⟨known, middle, fun _ => ⟨multiplier, multiplierMember, rfl⟩,
      fun other => absurd wild other, rfl⟩, ?_, ?_⟩
    · simp [wild, isSurge]
    · simp [wild, isSurge]
  · rw [if_neg wild, pure_bind]
    refine .pure ⟨_, rfl, ⟨known, middle, fun isWild => absurd isWild wild, fun _ => rfl, rfl⟩,
      ?_, ?_⟩
    · by_cases isSurgeCell : item.value = .surge <;> simp [isSurge, isSurgeCell]
    · simpa [isSurge] using surge

theorem surges_snoc (cells : List Cell) (cell : Cell) :
    ((cells ++ [cell]).countP isSurge : Int) =
      cells.countP isSurge + if isSurge cell then 1 else 0 := by
  rw [List.countP_append, List.countP_singleton]
  split <;> simp

/-- One reel, and what it adds to the rage symbols already settled. -/
structure DrawnReel (engine : Engine σ) (index rows : Nat) (mode : FeatureMode)
    (settled : Int) (cells : List Cell) : Prop where
  height : cells.length = rows
  fresh : ∀ cell ∈ cells, FreshCell engine.config index cell
  base : mode = .none → settled + cells.countP isSurge ≤ 3
  free : mode ≠ .none → cells.countP isSurge = 0

theorem generateReel_ensures (lawful : engine.random.Lawful total) {index rows : Nat}
    {reel : List WeightedSymbol} (table : ReelTable index reel) {mode : FeatureMode}
    (playMode : PlayMode mode) (scan : GridScan) (few : scan.settledRage ≤ 3) :
    Ensures total (engine.generateReel rows mode scan reel) fun next =>
      ∃ cells, next.grid = scan.grid ++ [cells] ∧
        next.settledRage = scan.settledRage + cells.countP isSurge ∧
        next.settledRage ≤ 3 ∧
        DrawnReel engine index rows mode scan.settledRage cells := by
  refine (Ensures.foldlM (fun (before : List Nat) (state : ReelScan) =>
    state.cells.length = before.length ∧
    (∀ cell ∈ state.cells, FreshCell engine.config index cell) ∧
    state.settledRage = scan.settledRage + state.cells.countP isSurge ∧
    state.settledRage ≤ 3 ∧ (mode ≠ .none → state.cells.countP isSurge = 0))
    ⟨rfl, by simp, by simp, few, by simp⟩ ?_).bind ?_
  · rintro before row state _ ⟨length, fresh, settled, atMost, free⟩
    refine (generateCell_ensures lawful table playMode state).mono ?_
    rintro next ⟨cell, cells, cellFresh, nextSettled, surge⟩
    refine ⟨by simp [cells, length], ?_, ?_, ?_, fun notBase => ?_⟩
    · simp only [cells, List.forall_mem_append, List.forall_mem_singleton]
      exact ⟨fresh, cellFresh⟩
    · rw [cells, surges_snoc, nextSettled, settled]
      ring
    · rw [nextSettled]
      split
      · rename_i isSurgeCell
        have := (surge isSurgeCell).2
        omega
      · omega
    · have noSurge : isSurge cell = false := by
        by_contra isSurgeCell
        exact notBase (surge (by simpa using isSurgeCell)).1
      simp [cells, free notBase, noSurge]
  · rintro state ⟨length, fresh, settled, atMost, free⟩
    refine .pure ⟨state.cells, rfl, settled, atMost, by simpa using length, fresh, fun _ => ?_, free⟩
    omega

end Engine

/-- A grid as it is drawn. -/
structure GeneratedGrid (config : Config) (mode : FeatureMode) (rows : Nat) (grid : Grid) :
    Prop where
  reels : grid.length = 3
  height : ∀ cells ∈ grid, cells.length = rows
  fresh : ∀ (reel : Nat) (cells : List Cell), grid[reel]? = some cells →
    ∀ cell ∈ cells, FreshCell config reel cell
  base : mode = .none → (positionsForSymbol grid .surge).length ≤ 3
  free : mode ≠ .none → positionsForSymbol grid .surge = []

namespace Engine

variable {engine : Engine σ}

theorem generateGrid_ensures (lawful : engine.random.Lawful total) {rows : Nat}
    (least : 3 ≤ rows) (most : rows ≤ 8) {mode : FeatureMode} (playMode : PlayMode mode) :
    Ensures total (engine.generateGrid rows mode) (GeneratedGrid engine.config mode rows) := by
  refine (Ensures.lift (fun _ => True) (fun _ _ => trivial) fun _ =>
    ⟨(), refuse_ok.mpr (by omega)⟩).bind fun _ _ => ?_
  rw [Int.toNat_natCast]
  refine (Ensures.foldlM (fun (before : List (List WeightedSymbol)) (state : GridScan) =>
    state.grid.length = before.length ∧
    (∀ cells ∈ state.grid, cells.length = rows) ∧
    (∀ (reel : Nat) (cells : List Cell), state.grid[reel]? = some cells →
      ∀ cell ∈ cells, FreshCell engine.config reel cell) ∧
    state.settledRage = ((state.grid.map (·.countP isSurge)).sum : Nat) ∧
    state.settledRage ≤ 3 ∧
    (mode ≠ .none → ∀ cells ∈ state.grid, cells.countP isSurge = 0))
    ⟨rfl, by simp, by simp, by simp, by simp, by simp⟩ ?_).bind ?_
  · rintro before reel state ⟨after, split⟩ ⟨length, height, fresh, settled, atMost, free⟩
    have found : engine.config.reels.toList[before.length]? = some reel := by simp [split]
    have table := engine.valid.facts.reels _ _ found
    refine (generateReel_ensures lawful table playMode state atMost).mono ?_
    rintro next ⟨cells, grid, nextSettled, nextAtMost, drawn⟩
    refine ⟨by simp [grid, length], ?_, ?_, ?_, nextAtMost, fun notBase => ?_⟩
    · simp only [grid, List.forall_mem_append, List.forall_mem_singleton]
      exact ⟨height, drawn.height⟩
    · intro index column foundColumn cell member
      rw [grid, List.getElem?_append] at foundColumn
      split at foundColumn
      · exact fresh index column foundColumn cell member
      · rename_i beyond
        obtain ⟨here, same⟩ := List.getElem?_eq_some_iff.mp foundColumn
        simp only [List.length_singleton] at here
        have indexEq : index = before.length := by omega
        subst indexEq
        simp only [List.getElem_singleton] at same
        subst same
        exact drawn.fresh cell member
    · rw [nextSettled, settled, grid]
      simp
    · simp only [grid, List.forall_mem_append, List.forall_mem_singleton]
      exact ⟨free notBase, drawn.free notBase⟩
  · rintro state ⟨length, height, fresh, settled, atMost, free⟩
    have counted : (positionsForSymbol state.grid .surge).length =
        (state.grid.map (·.countP isSurge)).sum := positionsWhere_length _ _
    refine .pure ⟨by simpa using length, height, fresh, fun _ => ?_, fun notBase => ?_⟩
    · omega
    · rw [← List.length_eq_zero_iff, counted, List.sum_eq_zero_iff]
      simpa using free notBase

end Engine

/-! ## A drawn grid is settled -/

theorem GeneratedGrid.settled {config : Config} (facts : ConfigFacts config) {mode : FeatureMode}
    {rows : Nat} {grid : Grid} (least : 3 ≤ rows) (most : rows ≤ 8)
    (generated : GeneratedGrid config mode rows grid) : grid.Settled rows :=
  { reels := generated.reels
    least := least
    most := most
    height := generated.height
    cells := fun reel cells found cell member =>
      (generated.fresh reel cells found cell member).settled facts }

end SlotsGame.Game
