/-
# SlotsGame.Game.Transform -- the cells that a rage trigger transforms

The loop of `pickRageTransformCells` is a partial shuffle of the cells without a rage symbol: it
asks for one draw below the number of cells that are left, each time.  So every ordered choice of
distinct cells comes from exactly one sequence of draws.
-/
import SlotsGame.Game.Weights
import SlotsGame.Theory.Shuffle

namespace SlotsGame.Game

open SlotsGame.Theory Shuffle

set_option autoImplicit false

/-- The calls of `Intn` of a shuffle, with their answers. -/
def shuffleScript : Nat → List Nat → List (Int × Int)
  | _, [] => []
  | bound, draw :: draws => (bound, draw) :: shuffleScript (bound - 1) draws

theorem swapAt_append {front rest : List Position} {draw : Nat} (inside : draw < rest.length) :
    swapAt (front ++ rest) front.length (draw + front.length) =
      (front ++ [rest[draw]]) ++ left rest draw := by
  cases rest with
  | nil => exact absurd inside (Nat.not_lt_zero _)
  | cons first rest =>
      have at_front : (front ++ first :: rest)[front.length]? = some first := by simp
      have at_draw : (front ++ first :: rest)[draw + front.length]? = some (first :: rest)[draw] := by
        rw [List.getElem?_append_right (by omega), Nat.add_sub_cancel]
        exact List.getElem?_eq_getElem inside
      rw [swapAt, at_front, at_draw]
      dsimp only
      rw [List.set_append_right _ _ (Nat.le_refl _), Nat.sub_self, List.set_cons_zero,
        List.set_append_right _ _ (by omega), Nat.add_sub_cancel, List.append_assoc]
      congr 1
      cases draw with
      | zero => rfl
      | succ draw => rfl

/-- The loop brings what is chosen to the front. -/
theorem shuffle_runs {front rest : List Position} {draws : List Nat}
    (inside : Draws rest.length draws) :
    ∃ shuffled, (List.range' front.length draws.length).foldlM (shuffleStep scripted)
        (front ++ rest) (shuffleScript rest.length draws) = .ok (front ++ shuffled, []) ∧
      shuffled.take draws.length = chosen rest draws := by
  induction draws generalizing front rest with
  | nil => exact ⟨rest, rfl, rfl⟩
  | cons draw draws ih =>
      obtain ⟨here, later⟩ := inside
      rw [← left_length here] at later
      obtain ⟨shuffled, runs, taken⟩ := @ih (front ++ [rest[draw]]) (left rest draw) later
      refine ⟨rest[draw] :: shuffled, ?_, ?_⟩
      · rw [List.length_cons, List.range'_succ, List.foldlM_cons, run_bind_ok]
        refine ⟨swapAt (front ++ rest) front.length (draw + front.length),
          shuffleScript (rest.length - 1) draws, ?_, ?_⟩
        · have bound : ((front ++ rest).length : Int) - front.length = (rest.length : Nat) := by
            rw [List.length_append]
            omega
          rw [shuffleStep, bound, run_bind_ok]
          exact ⟨draw, _, scripted_intn _ _ _, rfl⟩
        · rw [swapAt_append here]
          rw [List.length_append, List.length_singleton, left_length here,
            List.append_assoc front [rest[draw]] shuffled] at runs
          exact runs
      · rw [List.length_cons, List.take_succ_cons, chosen_cons here, taken]

theorem pickRageTransformCells_runs {grid : Grid} {draws : List Nat}
    (inside : Draws (positionsExceptSymbol grid .surge).length draws)
    (enough : draws.length ≤ (positionsExceptSymbol grid .surge).length) :
    pickRageTransformCells scripted grid draws.length
        (shuffleScript (positionsExceptSymbol grid .surge).length draws) =
      .ok (chosen (positionsExceptSymbol grid .surge) draws, []) := by
  obtain ⟨shuffled, runs, taken⟩ :=
    @shuffle_runs [] (positionsExceptSymbol grid .surge) draws inside
  rw [pickRageTransformCells, run_bind_ok]
  refine ⟨(), _, run_lift_ok.mpr ⟨refuse_ok.mpr (by omega), rfl⟩, ?_⟩
  rw [run_bind_ok]
  refine ⟨shuffled, [], ?_, ?_⟩
  · rw [Int.toNat_natCast, List.range_eq_range']
    exact runs
  · rw [Int.toNat_natCast, taken]
    rfl

/-- **Every choice of cells comes from one sequence of draws.**  Draws that the calls can answer
choose distinct cells without a rage symbol, and each ordered tuple of them is chosen by
exactly one sequence of draws. -/
theorem pickRageTransformCells_bijective {grid : Grid} {count : Nat}
    (enough : count ≤ (positionsExceptSymbol grid .surge).length) :
    (∀ draws, draws.length = count → Draws (positionsExceptSymbol grid .surge).length draws →
      ∃ cells, pickRageTransformCells scripted grid count
          (shuffleScript (positionsExceptSymbol grid .surge).length draws) = .ok (cells, []) ∧
        cells.length = count ∧ cells.Nodup ∧
          ∀ cell ∈ cells, cell ∈ positionsExceptSymbol grid .surge) ∧
    ∀ cells : List Position, cells.length = count → cells.Nodup →
      (∀ cell ∈ cells, cell ∈ positionsExceptSymbol grid .surge) →
      ∃! draws, draws.length = count ∧ Draws (positionsExceptSymbol grid .surge).length draws ∧
        pickRageTransformCells scripted grid count
          (shuffleScript (positionsExceptSymbol grid .surge).length draws) = .ok (cells, []) := by
  have distinct : (positionsExceptSymbol grid .surge).Nodup := positionsWhere_nodup _ grid
  constructor
  · rintro draws rfl inside
    obtain ⟨length, nodup, members⟩ := chosen_spec distinct inside
    exact ⟨_, pickRageTransformCells_runs inside enough, length, nodup, members⟩
  · rintro cells rfl nodup members
    obtain ⟨draws, ⟨length, inside, takes⟩, only⟩ := chosen_unique distinct nodup members
    refine ⟨draws, ⟨length, inside, ?_⟩, ?_⟩
    · rw [← length, pickRageTransformCells_runs inside (by omega), takes]
    · rintro other ⟨otherLength, otherInside, picks⟩
      rw [← otherLength, pickRageTransformCells_runs otherInside (by omega)] at picks
      exact only other ⟨otherLength, otherInside, (Prod.mk.inj (Except.ok.inj picks)).1⟩

/-- A grid with one rage symbol. -/
def rageGrid : Grid :=
  [[{ symbol := .surge }, { symbol := .orbit }], [{ symbol := .wild, multiplier := 2 }]]

theorem rageGrid_chosen :
    ∃! draws : List Nat, draws.length = 2 ∧ Draws 2 draws ∧
      pickRageTransformCells scripted rageGrid 2 (shuffleScript 2 draws) =
        .ok ([{ reel := 1, row := 0 }, { reel := 0, row := 1 }], []) :=
  (@pickRageTransformCells_bijective rageGrid 2 (by decide)).2 _ rfl (by decide)
    (by decide)

end SlotsGame.Game
