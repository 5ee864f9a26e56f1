/-
# SlotsGame.Game.Weights -- how many draws each item of a table has

An item is returned for as many of the draws below the sum of the weights as its own weight
says (`Exact`).  That fixes the mathematical return of the game, and it holds of every picker
on every table of an accepted definition but one: the weight of the free spin among the
vault's rewards is not part of any sum that the definition checks (`pickers_exact_iff`).
-/
import SlotsGame.Game.Drawing

namespace SlotsGame.Game

open SlotsGame.Theory Weighted

set_option autoImplicit false

/-- A source that answers the calls `Intn(bound)` that it knows, in their order, with `pick`. -/
def scripted : Source (List (Int × Int)) where
  intn n
    | (bound, pick) :: rest => if n = bound then .ok (pick, rest) else .error "another bound"
    | [] => .error "no draw is left"

variable {α β : Type} [DecidableEq β]

/-- The picker draws once, below the sum of the weights; it never fails, and every item is
returned for as many draws as it weighs. -/
structure Exact (picker : Random (List (Int × Int)) β) (items : List (β × Int)) : Prop where
  succeeds : ∀ pick, 0 ≤ pick → pick < (items.map Prod.snd).sum →
    ∃ result, picker [((items.map Prod.snd).sum, pick)] = .ok (result, [])
  counts : ∀ item ∈ items,
    (((Finset.Ico 0 (items.map Prod.snd).sum).filter fun pick =>
      picker [((items.map Prod.snd).sum, pick)] = .ok (item.1, [])).card : Int) = item.2

/-! ## The walk over a table -/

/-- The weight of an item, among items whose results are distinct. -/
theorem total_filter_result {result : α → β} {weight : α → Int} {items : List α}
    (distinct : (items.map result).Nodup) {item : α} (member : item ∈ items) :
    total weight (items.filter fun other => decide (result other = result item)) = weight item := by
  induction items with
  | nil => cases member
  | cons first rest ih =>
      obtain ⟨new, distinct⟩ := List.nodup_cons.mp distinct
      rw [List.filter_cons]
      rcases List.mem_cons.mp member with rfl | later
      · have others : rest.filter (fun other => decide (result other = result item)) = [] := by
          refine List.filter_eq_nil_iff.mpr fun other found same => new ?_
          exact List.mem_map.mpr ⟨other, found, of_decide_eq_true same⟩
        rw [if_pos (decide_eq_true rfl), others, total_cons, total_nil, add_zero]
      · have differs : result first ≠ result item := fun same =>
          new (List.mem_map.mpr ⟨item, later, same.symm⟩)
        rw [if_neg (by simpa using differs)]
        exact ih distinct later

/-- A picker that draws below the sum and walks to the item is exact. -/
theorem exact_of_select {picker : Random (List (Int × Int)) β} {result : α → β}
    {weight : α → Int} {items : List α} (nonneg : ∀ item ∈ items, 0 ≤ weight item)
    (distinct : (items.map result).Nodup)
    (walks : ∀ pick item, 0 ≤ pick → pick < total weight items →
      select weight items pick = some item →
      picker [(total weight items, pick)] = .ok (result item, [])) :
    Exact picker (items.map fun item => (result item, weight item)) := by
  have sum : ((items.map fun item => (result item, weight item)).map Prod.snd).sum =
      total weight items := by
    rw [List.map_map]
    rfl
  constructor
  · intro pick least below
    rw [sum] at below ⊢
    obtain ⟨item, _, selected⟩ := select_isSome below least
    exact ⟨result item, walks pick item least below selected⟩
  · intro entry member
    obtain ⟨item, found, rfl⟩ := List.mem_map.mp member
    have alone : total weight (items.filter fun other => decide (result other = result item)) =
        weight item := total_filter_result distinct found
    rw [sum, ← alone, ← select_card nonneg]
    refine congrArg (fun picks => ((Finset.card picks : Nat) : Int))
      (Finset.filter_congr fun pick inside => ?_)
    obtain ⟨least, below⟩ := Finset.mem_Ico.mp inside
    obtain ⟨other, _, selected⟩ := select_isSome below least
    rw [walks pick other least below selected, selected]
    simp

/-! ## The pickers -/

theorem scripted_intn (bound pick : Int) (rest : List (Int × Int)) :
    scripted.intn bound ((bound, pick) :: rest) = .ok (pick, rest) :=
  if_pos rfl

theorem pickWeighted_walks {weight : α → Int} {items : List α} {overflow failed : String}
    (table : WeightTable weight items) {pick : Int} {item : α}
    (selected : select weight items pick = some item) :
    pickWeighted scripted weight overflow failed items [(total weight items, pick)] =
      .ok (item, []) := by
  have nonneg := fun item member => (table.positive item member).le
  rw [pickWeighted, run_bind_ok]
  refine ⟨total weight items, _, run_lift_ok.mpr ⟨totalWeight_eq nonneg table.bounded, rfl⟩, ?_⟩
  rw [run_bind_ok]
  exact ⟨pick, [], scripted_intn _ pick [], run_lift_ok.mpr ⟨selected_ok.mpr selected, rfl⟩⟩

/-- A picker of a plain table, which returns a part of the item. -/
theorem picker_exact {weight : α → Int} {items : List α} {overflow failed : String}
    {result : α → β} (table : WeightTable weight items) (distinct : (items.map result).Nodup) :
    Exact (result <$> pickWeighted scripted weight overflow failed items)
      (items.map fun item => (result item, weight item)) := by
  refine exact_of_select (fun item member => (table.positive item member).le) distinct ?_
  intro pick item _ _ selected
  rw [map_eq_pure_bind, run_bind_ok]
  exact ⟨item, [], pickWeighted_walks table selected, rfl⟩

theorem pickGreaterWeightedInt_exact {items : List WeightedInt} {current : Int}
    (table : WeightTable WeightedInt.weight items) (distinct : (items.map (·.value)).Nodup)
    (some : ∃ item ∈ items, current < item.value) :
    Exact (pickGreaterWeightedInt scripted items current)
      ((items.filter fun item => current < item.value).map fun item =>
        (Option.some item.value, item.weight)) := by
  obtain ⟨first, present, larger⟩ := some
  have greater := table.filter (fun item => decide (current < item.value))
    ⟨first, present, decide_eq_true larger⟩
  have nonneg := fun item member => (greater.positive item member).le
  refine exact_of_select nonneg ?_ fun pick item _ _ selected => ?_
  · have kept : ((items.filter fun item => decide (current < item.value)).map
        WeightedInt.value).Nodup := distinct.sublist (List.filter_sublist.map _)
    have wrapped := kept.map (Option.some_injective _)
    rwa [List.map_map] at wrapped
  · rw [pickGreaterWeightedInt, run_bind_ok]
    refine ⟨total WeightedInt.weight _, _,
      run_lift_ok.mpr ⟨totalWeight_eq nonneg greater.bounded, rfl⟩, ?_⟩
    rw [if_neg greater.total_pos.ne', run_bind_ok]
    refine ⟨pick, [], scripted_intn _ pick [], ?_⟩
    rw [run_bind_ok]
    exact ⟨item, [], run_lift_ok.mpr ⟨selected_ok.mpr selected, rfl⟩, rfl⟩

/-- Without a larger value nothing is drawn. -/
theorem pickGreaterWeightedInt_none {items : List WeightedInt} {current : Int}
    (none : ∀ item ∈ items, item.value ≤ current) (draws : List (Int × Int)) :
    pickGreaterWeightedInt scripted items current draws = .ok (.none, draws) := by
  have empty : (items.filter fun item => decide (current < item.value)) = [] :=
    List.filter_eq_nil_iff.mpr fun item member larger =>
      absurd (of_decide_eq_true larger) (not_lt.mpr (none item member))
  rw [pickGreaterWeightedInt, empty, run_bind_ok]
  exact ⟨0, draws, run_lift_ok.mpr ⟨rfl, rfl⟩, rfl⟩

/-! ## The vault's rewards -/

/-- The rewards of a vault, with their weights. -/
def vaultRewards (config : Config) (allowFreeSpin : Bool) : List (VaultReward × Int) :=
  config.vaultMultipliers.map (fun item => (.multiplier item.value, item.weight)) ++
    if allowFreeSpin then [(.freeSpin, config.feature.vaultFreeSpinWeight)] else []

section Vault

variable {config : Config} {allowFreeSpin : Bool}

theorem vaultRewards_total :
    total Prod.snd (vaultRewards config allowFreeSpin) =
      if allowFreeSpin then
        total WeightedInt.weight config.vaultMultipliers + config.feature.vaultFreeSpinWeight
      else total WeightedInt.weight config.vaultMultipliers := by
  have multipliers : total Prod.snd (config.vaultMultipliers.map fun item =>
      (VaultReward.multiplier item.value, item.weight)) =
      total WeightedInt.weight config.vaultMultipliers := by
    rw [total, List.map_map]
    rfl
  rw [vaultRewards, total_append, multipliers]
  cases allowFreeSpin <;> simp

theorem vaultRewards_distinct (distinct : (config.vaultMultipliers.map (·.value)).Nodup) :
    ((vaultRewards config allowFreeSpin).map Prod.fst).Nodup := by
  have multipliers : ((config.vaultMultipliers.map fun item =>
      (VaultReward.multiplier item.value, item.weight)).map Prod.fst).Nodup := by
    have wrapped := distinct.map fun _ _ same => VaultReward.multiplier.inj same
    rw [List.map_map] at wrapped ⊢
    exact wrapped
  rw [vaultRewards, List.map_append]
  cases allowFreeSpin with
  | false => simpa using multipliers
  | true =>
      refine nodup_concat multipliers fun absurd => ?_
      rw [List.map_map] at absurd
      obtain ⟨item, _, same⟩ := List.mem_map.mp absurd
      cases same

theorem pickVaultReward_exact (facts : ConfigFacts config)
    (distinct : (config.vaultMultipliers.map (·.value)).Nodup)
    (fits : VaultDrawFits config allowFreeSpin) :
    Exact (pickVaultReward scripted config allowFreeSpin) (vaultRewards config allowFreeSpin) := by
  have table := facts.vault.table
  have nonneg := fun item member => (table.positive item member).le
  have freeNonneg := facts.feature.freeSpinWeight
  have rewardsNonneg : ∀ reward ∈ vaultRewards config allowFreeSpin, 0 ≤ reward.2 := by
    intro reward member
    rcases List.mem_append.mp member with member | member
    · obtain ⟨item, found, rfl⟩ := List.mem_map.mp member
      exact nonneg item found
    · cases allowFreeSpin with
      | false => cases member
      | true =>
          rw [List.mem_singleton.mp member]
          exact freeNonneg
  have exact := @exact_of_select _ _ _ (pickVaultReward scripted config allowFreeSpin) Prod.fst
    Prod.snd _ rewardsNonneg (vaultRewards_distinct distinct) ?_
  · rwa [List.map_id'] at exact
  intro pick reward least below selected
  rw [vaultRewards_total] at below ⊢
  have summed : totalWeight WeightedInt.weight "Vault reward weights overflow"
      config.vaultMultipliers = .ok (total WeightedInt.weight config.vaultMultipliers) :=
    totalWeight_eq nonneg table.bounded
  rw [pickVaultReward, run_bind_ok]
  refine ⟨total WeightedInt.weight config.vaultMultipliers, _, run_lift_ok.mpr ⟨summed, rfl⟩, ?_⟩
  rw [run_bind_ok]
  refine ⟨(), _, run_lift_ok.mpr ⟨refuse_ok.mpr ?_, rfl⟩, ?_⟩
  · rintro ⟨allow, overflows⟩
    have := fits allow
    omega
  rw [run_bind_ok]
  refine ⟨pick, [], scripted_intn _ pick [], ?_⟩
  rw [vaultRewards, select_append, select_map] at selected
  cases found : select WeightedInt.weight config.vaultMultipliers pick with
  | some item =>
      rw [show select (fun item : WeightedInt => item.weight) config.vaultMultipliers pick =
        some item from found, Option.map_some, Option.some_or] at selected
      rw [← Option.some.inj selected]
      rfl
  | none =>
      rw [show select (fun item : WeightedInt => item.weight) config.vaultMultipliers pick =
        none from found, Option.map_none, Option.none_or] at selected
      cases allowFreeSpin with
      | false => cases selected
      | true =>
          -- the tail stops only a pick below its own weight
          have past : total WeightedInt.weight config.vaultMultipliers ≤ pick := by
            by_contra within
            obtain ⟨item, _, stops⟩ := select_isSome (not_le.mp within) least
            rw [found] at stops
            cases stops
          rw [if_pos rfl] at below
          have tail : config.feature.vaultFreeSpinWeight > 0 := by omega
          dsimp only
          rw [if_pos ⟨rfl, tail⟩]
          simp only [if_true, select] at selected
          split at selected
          · rw [← Option.some.inj selected]
            rfl
          · cases selected

/-- A sum that overflows is refused, whatever is drawn. -/
theorem pickVaultReward_overflows (facts : ConfigFacts config)
    (overflows : ¬ VaultDrawFits config true) :
    ¬ Exact (pickVaultReward scripted config true) (vaultRewards config true) := by
  intro exact
  have table := facts.vault.table
  have nonneg := fun item member => (table.positive item member).le
  have large : config.feature.vaultFreeSpinWeight >
      maxInt64 - total WeightedInt.weight config.vaultMultipliers := by
    unfold VaultDrawFits at overflows
    simp only [true_implies, not_le] at overflows
    omega
  have sum : ((vaultRewards config true).map Prod.snd).sum =
      total WeightedInt.weight config.vaultMultipliers + config.feature.vaultFreeSpinWeight := by
    have same := @vaultRewards_total config true
    rwa [if_pos rfl] at same
  have positive := table.total_pos
  have freeNonneg := facts.feature.freeSpinWeight
  obtain ⟨reward, runs⟩ := exact.succeeds 0 (le_refl 0) (by omega)
  have summed : totalWeight WeightedInt.weight "Vault reward weights overflow"
      config.vaultMultipliers = .ok (total WeightedInt.weight config.vaultMultipliers) :=
    totalWeight_eq nonneg table.bounded
  rw [pickVaultReward, run_bind_ok] at runs
  obtain ⟨first, _, summing, runs⟩ := runs
  obtain ⟨same, _⟩ := run_lift_ok.mp summing
  rw [summed] at same
  obtain rfl := Except.ok.inj same
  rw [run_bind_ok] at runs
  obtain ⟨_, _, refused, _⟩ := runs
  exact refuse_ok.mp (run_lift_ok.mp refused).1 ⟨rfl, large⟩

end Vault

/-! ## Every table of a definition -/

/-- Each picker is exact on each table of the definition that it is used for. -/
structure ExactPickers (config : Config) : Prop where
  symbols : ∀ reel ∈ config.reels.toList,
    ∀ items ∈ [reel, Engine.withoutSymbol reel .surge],
      Exact (pickWeightedSymbol scripted items) (items.map fun item => (item.value, item.weight))
  integers : ∀ items ∈ [config.wildMultipliers, config.vaultMultipliers, config.feature.expansionRows],
    Exact (pickWeightedInt scripted items) (items.map fun item => (item.value, item.weight))
  wheel : Exact (pickWheel scripted config.feature.wheel)
    (config.feature.wheel.map fun item => (item, item.weight))
  greater : ∀ current,
    if ∃ item ∈ config.overdriveMultipliers, current < item.value then
      Exact (pickGreaterWeightedInt scripted config.overdriveMultipliers current)
        ((config.overdriveMultipliers.filter fun item => current < item.value).map fun item =>
          (some item.value, item.weight))
    else ∀ draws, pickGreaterWeightedInt scripted config.overdriveMultipliers current draws =
      .ok (none, draws)
  vaults : ∀ allowFreeSpin, Exact (pickVaultReward scripted config allowFreeSpin)
    (vaultRewards config allowFreeSpin)

theorem pickWeightedSymbol_exact {items : List WeightedSymbol}
    (table : WeightTable WeightedSymbol.weight items) (distinct : (items.map (·.value)).Nodup) :
    Exact (pickWeightedSymbol scripted items) (items.map fun item => (item.value, item.weight)) :=
  picker_exact table distinct

theorem pickWeightedInt_exact {items : List WeightedInt}
    (table : WeightTable WeightedInt.weight items) (distinct : (items.map (·.value)).Nodup) :
    Exact (pickWeightedInt scripted items) (items.map fun item => (item.value, item.weight)) :=
  picker_exact table distinct

theorem pickWheel_exact {items : List WeightedWheel}
    (table : WeightTable WeightedWheel.weight items) (distinct : items.Nodup) :
    Exact (pickWheel scripted items) (items.map fun item => (item, item.weight)) :=
  exact_of_select (fun item member => (table.positive item member).le)
    (by rwa [List.map_id']) fun _ _ _ _ selected => pickWeighted_walks table selected

/-- **The pickers are exact if and only if the weights of the vault's rewards, with that of
the free spin, have an `int` for a sum.** -/
theorem pickers_exact_iff {config : Config} (valid : config.Valid) :
    ExactPickers config ↔ VaultDrawFits config true := by
  have facts := valid.facts
  have distinct := valid.distinct
  constructor
  · intro exact
    by_contra overflows
    exact pickVaultReward_overflows facts overflows (exact.vaults true)
  · intro fits
    constructor
    · intro reel member items table
      obtain ⟨index, found⟩ := List.getElem?_of_mem member
      obtain ⟨reelTable, _, _, item, inReel, ordinary⟩ := facts.reels index reel found
      rcases List.mem_cons.mp table with rfl | table
      · exact pickWeightedSymbol_exact reelTable (distinct.reels items member)
      · obtain rfl := List.mem_singleton.mp table
        exact pickWeightedSymbol_exact
          (reelTable.filter _ ⟨item, inReel, decide_eq_true ordinary⟩)
          ((distinct.reels reel member).sublist (List.filter_sublist.map _))
    · intro items member
      simp only [List.mem_cons, List.not_mem_nil, or_false] at member
      rcases member with rfl | rfl | rfl
      · exact pickWeightedInt_exact facts.wild.table distinct.wild
      · exact pickWeightedInt_exact facts.vault.table distinct.vault
      · exact pickWeightedInt_exact facts.feature.rows.table distinct.rows
    · exact pickWheel_exact facts.feature.wheel.table distinct.wheel
    · intro current
      split
      next some => exact pickGreaterWeightedInt_exact facts.overdrive.table distinct.overdrive some
      next none =>
        refine fun draws => pickGreaterWeightedInt_none (fun item member => ?_) draws
        exact not_lt.mp fun larger => none ⟨item, member, larger⟩
    · intro allowFreeSpin
      cases allowFreeSpin with
      | false => exact pickVaultReward_exact facts distinct.vault fun absurd => by cases absurd
      | true => exact pickVaultReward_exact facts distinct.vault fits

theorem demoConfig_exact : ExactPickers demoConfig :=
  (pickers_exact_iff demoConfig_valid).mpr fun _ => by decide +kernel

/-- A definition whose free spin among the vault's rewards has the largest weight there is. -/
def heavyConfig : Config :=
  { demoConfig with feature := { demoConfig.feature with vaultFreeSpinWeight := maxInt64 } }

theorem heavyConfig_inexact : heavyConfig.Valid ∧ ¬ ExactPickers heavyConfig ∧
    ∀ draws, pickVaultReward scripted heavyConfig true draws =
      .error "Vault FREE SPIN weight overflows" := by
  have valid : heavyConfig.Valid := by decide +kernel
  refine ⟨valid, fun exact => ?_, fun draws => ?_⟩
  · obtain ⟨reward, runs⟩ := (exact.vaults true).succeeds 0 (by decide) (by decide +kernel)
    have refused : (pickVaultReward scripted heavyConfig true
        [(((vaultRewards heavyConfig true).map Prod.snd).sum, 0)]).isOk = false := by
      decide +kernel
    rw [runs] at refused
    cases refused
  · rfl

end SlotsGame.Game
