/-
# SlotsGame.Game.Drawing -- what each draw returns

One specification per draw, in the judgement of `SlotsGame.Theory.Effects`: with
`total := False` it says what a result is, with `total := True` also that there
is one.  The vault rewards are the one table whose sum the definition does not
bound, so their draw asks for it.
-/
import SlotsGame.Game.ConfigFacts
import SlotsGame.Game.Engine

namespace SlotsGame.Game

open SlotsGame.Theory Weighted

set_option autoImplicit false

variable {σ : Type} {total : Prop} {random : Source σ}

/-! ## Tables -/

section Tables

variable {α : Type} {weight : α → Int}

theorem totalWeight_eq {overflow : String} {items : List α}
    (nonneg : ∀ item ∈ items, 0 ≤ weight item)
    (bounded : Weighted.total weight items ≤ maxInt64) :
    totalWeight weight overflow items = .ok (Weighted.total weight items) := by
  obtain ⟨sum, summed, same⟩ : ∃ sum, items.foldlM (addWeight weight overflow) 0 = .ok sum ∧
      sum = Weighted.total weight items := by
    refine foldlM_ok_of (fun before sum => sum = Weighted.total weight before) rfl ?_
    rintro before item sum ⟨after, rfl⟩ rfl
    rw [total_append, total_cons] at bounded
    have rest : 0 ≤ Weighted.total weight after := total_nonneg fun i h => nonneg i (by simp [h])
    refine ⟨Weighted.total weight before + weight item, ?_, by simp⟩
    simp only [addWeight, bind_ok, refuse_ok, exists_unit, pure_ok]
    exact ⟨by omega, trivial⟩
  rw [totalWeight, summed, same]

theorem selected_ok {failed : String} {found : Option α} {item : α} :
    selected failed found = .ok item ↔ found = some item := by
  cases found <;> simp [selected]

/-- A lawful source picks an item of the table. -/
theorem pickWeighted_ensures (lawful : random.Lawful total) {overflow failed : String}
    {items : List α} (table : WeightTable weight items) :
    Ensures total (pickWeighted random weight overflow failed items) (· ∈ items) := by
  have nonneg := fun item member => (table.positive item member).le
  refine (Ensures.known (totalWeight_eq nonneg table.bounded)).bind ?_
  rintro _ rfl
  refine (lawful _ table.total_pos).bind fun pick inside => ?_
  obtain ⟨item, member, stops⟩ := select_isSome inside.2 inside.1
  exact (Ensures.known (selected_ok.mpr stops)).mono fun found same => same ▸ member

end Tables

theorem pickWeightedSymbol_ensures (lawful : random.Lawful total) {items : List WeightedSymbol}
    (table : WeightTable WeightedSymbol.weight items) :
    Ensures total (pickWeightedSymbol random items) fun symbol =>
      ∃ item ∈ items, item.value = symbol :=
  .map ((pickWeighted_ensures lawful table).mono fun item member => ⟨item, member, rfl⟩)

theorem pickWeightedInt_ensures (lawful : random.Lawful total) {items : List WeightedInt}
    (table : WeightTable WeightedInt.weight items) :
    Ensures total (pickWeightedInt random items) fun value =>
      ∃ item ∈ items, item.value = value :=
  .map ((pickWeighted_ensures lawful table).mono fun item member => ⟨item, member, rfl⟩)

theorem chance_ensures (lawful : random.Lawful total) (basisPoints : Int) :
    Ensures total (chance random basisPoints) fun _ => True := by
  unfold chance
  split
  · exact .pure trivial
  split
  · exact .pure trivial
  · exact (lawful 10000 (by decide)).bind fun _ _ => .pure trivial

/-! ## Vault rewards and upgrades -/

/-- The sum the vault draw makes is an `int`.  The definition's own validation
does not ask for it when a free spin is among the rewards. -/
def VaultDrawFits (config : Config) (allowFreeSpin : Bool) : Prop :=
  allowFreeSpin = true →
    Weighted.total WeightedInt.weight config.vaultMultipliers +
      config.feature.vaultFreeSpinWeight ≤ maxInt64

def VaultReward.Offered (config : Config) (allowFreeSpin : Bool) : VaultReward → Prop
  | .freeSpin => allowFreeSpin = true
  | .multiplier value => ∃ item ∈ config.vaultMultipliers, item.value = value

theorem pickVaultReward_ensures (lawful : random.Lawful total) {config : Config}
    (facts : ConfigFacts config) {allowFreeSpin : Bool}
    (fits : total → VaultDrawFits config allowFreeSpin) :
    Ensures total (pickVaultReward random config allowFreeSpin)
      (VaultReward.Offered config allowFreeSpin) := by
  have table := facts.vault.table
  have nonneg := fun item member => (table.positive item member).le
  have freeNonneg := facts.feature.freeSpinWeight
  have totalPos := table.total_pos
  refine (Ensures.known (totalWeight_eq nonneg table.bounded)).bind ?_
  rintro _ rfl
  refine (Ensures.lift (fun _ => True) (fun _ _ => trivial) fun holds =>
    ⟨(), refuse_ok.mpr ?_⟩).bind fun _ _ => ?_
  · rintro ⟨allow, overflow⟩
    have := fits holds allow
    omega
  refine (lawful _ (by split <;> omega)).bind fun pick inside => ?_
  cases found : select WeightedInt.weight config.vaultMultipliers pick with
  | some item => exact .pure ⟨item, select_mem _ found, rfl⟩
  | none =>
      -- a pick past the multipliers is in the free-spin tail
      have past : Weighted.total WeightedInt.weight config.vaultMultipliers ≤ pick := by
        by_contra below
        obtain ⟨item, _, stops⟩ := select_isSome (not_le.mp below) inside.1
        simp [found] at stops
      have tail : allowFreeSpin = true ∧ config.feature.vaultFreeSpinWeight > 0 := by
        cases allowFreeSpin <;> simp only [Bool.false_eq_true, ite_false, ite_true] at inside <;>
          simp only [Bool.false_eq_true, false_and, true_and] <;> omega
      rw [if_pos tail]
      exact .pure tail.1

/-- An upgrade is a larger value of the table; there is none exactly when no
value is larger. -/
theorem pickGreaterWeightedInt_ensures (lawful : random.Lawful total) {items : List WeightedInt}
    (table : WeightTable WeightedInt.weight items) (current : Int) :
    Ensures total (pickGreaterWeightedInt random items current) fun picked =>
      ∀ value ∈ picked, current < value ∧ ∃ item ∈ items, item.value = value := by
  let greater := items.filter fun item => current < item.value
  have nonneg : ∀ item ∈ greater, 0 ≤ item.weight := fun item member =>
    (table.positive item (List.mem_filter.mp member).1).le
  refine (Ensures.known (totalWeight_eq nonneg (table.total_filter_le _))).bind ?_
  rintro _ rfl
  split
  · exact .pure (by simp)
  rename_i nonzero
  have sumNonneg : 0 ≤ Weighted.total WeightedInt.weight greater := total_nonneg nonneg
  refine (lawful _ (lt_of_le_of_ne sumNonneg (Ne.symm nonzero))).bind fun pick inside => ?_
  obtain ⟨item, member, stops⟩ := select_isSome inside.2 inside.1
  refine (Ensures.known (selected_ok.mpr stops)).bind ?_
  rintro picked rfl
  refine .pure ?_
  rintro _ ⟨⟩
  obtain ⟨inTable, larger⟩ := List.mem_filter.mp member
  exact ⟨by simpa using larger, picked, inTable, rfl⟩

/-! ## The rage trigger and its cells -/

theorem surgeTriggers_ensures (lawful : random.Lawful total) {config : Config} {count : Nat}
    (few : count ≤ 3) :
    Ensures total (surgeTriggers random config count) fun triggered =>
      (count = 3 → triggered = true) ∧ (count = 0 → triggered = false) := by
  unfold surgeTriggers
  rw [if_neg (not_lt.mpr few)]
  split
  · exact .pure ⟨fun _ => rfl, fun none => by omega⟩
  split
  · exact (chance_ensures lawful _).mono fun _ _ => ⟨fun _ => by omega, fun _ => by omega⟩
  split
  · exact (chance_ensures lawful _).mono fun _ _ => ⟨fun _ => by omega, fun _ => by omega⟩
  · exact .pure ⟨fun _ => by omega, fun _ => rfl⟩

theorem swapAt_perm (cells : List Position) (i j : Nat) : (swapAt cells i j).Perm cells := by
  unfold swapAt
  split
  · rename_i a b atI atJ
    obtain ⟨iLt, rfl⟩ := List.getElem?_eq_some_iff.mp atI
    obtain ⟨jLt, rfl⟩ := List.getElem?_eq_some_iff.mp atJ
    exact List.set_set_perm iLt jLt
  · exact .refl _

/-- The transformed cells are distinct cells of the grid without a rage symbol. -/
theorem pickRageTransformCells_ensures (lawful : random.Lawful total) {grid : Grid} {count : Nat}
    (enough : count ≤ (positionsExceptSymbol grid .surge).length) :
    Ensures total (pickRageTransformCells random grid count) fun cells =>
      cells.length = count ∧
        ∃ shuffled : List Position, shuffled.Perm (positionsExceptSymbol grid .surge) ∧
          cells = shuffled.take count := by
  refine (Ensures.lift (fun _ => True) (fun _ _ => trivial) fun _ =>
    ⟨(), refuse_ok.mpr (by omega)⟩).bind fun _ _ => ?_
  rw [Int.toNat_natCast]
  refine (Ensures.foldlM
    (fun _ (state : List Position) => state.Perm (positionsExceptSymbol grid .surge))
    (.refl _) ?_).bind fun shuffled perm => .pure ?_
  · rintro before index state ⟨after, split⟩ perm
    -- the draw is below the candidates left, so the source is asked for a positive bound
    have inside : index < count := by
      have member : index ∈ List.range count := by simp [split]
      simpa using member
    refine (lawful _ ?_).bind fun picked _ => .pure ((swapAt_perm state index _).trans perm)
    have := perm.length_eq
    omega
  · exact ⟨by rw [List.length_take, perm.length_eq]; omega, shuffled, perm, rfl⟩

end SlotsGame.Game
