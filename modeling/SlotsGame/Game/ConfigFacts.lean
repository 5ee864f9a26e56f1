/-
# SlotsGame.Game.ConfigFacts -- what an accepted definition guarantees

`Config.validate` is a chain of guards; here is what each loop of it leaves
behind.  `WeightTable` is the property of every table the engine draws from.
-/
import SlotsGame.Game.Config
import SlotsGame.Theory.Weighted

namespace SlotsGame.Game

open SlotsGame.Theory Weighted

set_option autoImplicit false

/-- A table an engine can draw from: every weight is positive and their sum is
an `int`. -/
structure WeightTable {α : Type} (weight : α → Int) (items : List α) : Prop where
  nonempty : items ≠ []
  positive : ∀ item ∈ items, 0 < weight item
  bounded : total weight items ≤ maxInt64

namespace WeightTable

variable {α : Type} {weight : α → Int} {items : List α}

theorem total_pos (table : WeightTable weight items) : 0 < total weight items :=
  Weighted.total_pos table.nonempty table.positive

theorem total_filter_le (table : WeightTable weight items) (keep : α → Bool) :
    total weight (items.filter keep) ≤ maxInt64 := by
  refine le_trans ?_ table.bounded
  have positive := table.positive
  clear table
  induction items with
  | nil => simp
  | cons item rest ih =>
      have itemPos := positive item (by simp)
      have := ih fun i member => positive i (by simp [member])
      rw [List.filter_cons, total_cons]
      split
      · rw [total_cons]; omega
      · omega

/-- The items left by a filter are again a table, when there are any. -/
theorem filter (table : WeightTable weight items) (keep : α → Bool)
    (some : ∃ item ∈ items, keep item = true) : WeightTable weight (items.filter keep) where
  nonempty := by
    obtain ⟨item, member, kept⟩ := some
    exact List.ne_nil_of_mem (List.mem_filter.mpr ⟨member, kept⟩)
  positive item member := table.positive item (List.mem_filter.mp member).1
  bounded := table.total_filter_le keep

end WeightTable

/-! ## Tables -/

theorem validateWeightedItems_table {name rule : String} {least : Int} {items : List WeightedInt}
    (accepted : validateWeightedItems name rule least items = .ok ()) :
    WeightTable WeightedInt.weight items ∧ ∀ item ∈ items, least ≤ item.value := by
  simp only [validateWeightedItems, bind_ok, refuse_ok, exists_unit, pure_ok] at accepted
  obtain ⟨nonempty, final, run, _⟩ := accepted
  have scanned := foldlM_ok_invariant
    (fun before (scan : WeightScan) => scan.totalWeight = total WeightedInt.weight before ∧
      scan.totalWeight ≤ maxInt64 ∧
      ∀ item ∈ before, 0 < item.weight ∧ least ≤ item.value) run
    ⟨rfl, maxInt64_pos.le, by simp⟩ (by
      rintro before item scan next _ ⟨same, _, each⟩ stepped
      simp only [validateWeightedItem, bind_ok, refuse_ok, exists_unit, pure_ok] at stepped
      obtain ⟨values, _, fits, rfl⟩ := stepped
      refine ⟨by simp [same], by simp only; omega, fun i member => ?_⟩
      rcases List.mem_append.mp member with old | new
      · exact each i old
      · rw [List.mem_singleton.mp new]
        omega)
  obtain ⟨same, fits, each⟩ := scanned
  exact ⟨⟨nonempty, fun item member => (each item member).1, same ▸ fits⟩,
    fun item member => (each item member).2⟩

theorem validateSupported_ok {described : String} {supported : Int → Bool}
    {items : List WeightedInt} :
    validateSupported described supported items = .ok () ↔
      ∀ item ∈ items, supported item.value = true := by
  simp only [validateSupported, forM_ok, refuse_ok, Bool.not_eq_false]

/-- The items of one accepted reel. -/
structure ReelTable (index : Nat) (reel : List WeightedSymbol) : Prop where
  table : WeightTable WeightedSymbol.weight reel
  known : ∀ item ∈ reel, isKnownSymbol item.value = true
  middle : ∀ item ∈ reel, item.value = .wild ∨ item.value = .vault → index = 1
  ordinary : ∃ item ∈ reel, item.value ≠ .surge

theorem validateReel_table {index : Nat} {reel : List WeightedSymbol}
    (accepted : validateReel index reel = .ok ()) : ReelTable index reel := by
  simp only [validateReel, bind_ok, refuse_ok, exists_unit] at accepted
  obtain ⟨nonempty, final, run, ordinary⟩ := accepted
  have scanned := foldlM_ok_invariant
    (fun before (scan : ReelScan) => scan.totalWeight = total WeightedSymbol.weight before ∧
      scan.totalWeight ≤ maxInt64 ∧
      (∀ item ∈ before, 0 < item.weight ∧ isKnownSymbol item.value = true ∧
        (item.value = .wild ∨ item.value = .vault → index = 1)) ∧
      (scan.nonSurgeWeight ≠ 0 → ∃ item ∈ before, item.value ≠ .surge)) run
    ⟨rfl, maxInt64_pos.le, by simp, by simp⟩ (by
      rintro before item scan next _ ⟨same, _, each, some⟩ stepped
      simp only [validateReelItem, bind_ok, refuse_ok, exists_unit, pure_ok] at stepped
      obtain ⟨values, _, fits, middle, rfl⟩ := stepped
      refine ⟨by simp [same], by simp only; omega, fun i member => ?_, fun nonzero => ?_⟩
      · rcases List.mem_append.mp member with old | new
        · exact each i old
        · rw [List.mem_singleton.mp new]
          simp only [not_or, not_le, Bool.not_eq_false] at values
          exact ⟨values.1, values.2, fun special => by_contra fun outside =>
            middle ⟨outside, special⟩⟩
      · by_cases surge : item.value = .surge
        · simp only [surge, ne_eq, not_true_eq_false, ite_false] at nonzero
          obtain ⟨i, member, notSurge⟩ := some nonzero
          exact ⟨i, by simp [member], notSurge⟩
        · exact ⟨item, by simp, surge⟩)
  obtain ⟨same, fits, each, some⟩ := scanned
  exact ⟨⟨nonempty, fun item member => (each item member).1, same ▸ fits⟩,
    fun item member => (each item member).2.1, fun item member => (each item member).2.2,
    some ordinary⟩

theorem validateWheel_table {items : List WeightedWheel} {final : WheelScan}
    (nonempty : items ≠ []) (run : items.foldlM validateWheelItem {} = .ok final) :
    WeightTable WeightedWheel.weight items ∧ ∀ item ∈ items,
      (item.kind = .instant ∧ isSupportedWheelMultiplier item.multiplier = true) ∨
      ((item.kind = .expansion ∨ item.kind = .overdrive) ∧ item.multiplier = 0) := by
  have scanned := foldlM_ok_invariant
    (fun before (scan : WheelScan) => scan.totalWheelWeight = total WeightedWheel.weight before ∧
      scan.totalWheelWeight ≤ maxInt64 ∧
      ∀ item ∈ before, 0 < item.weight ∧
        ((item.kind = .instant ∧ isSupportedWheelMultiplier item.multiplier = true) ∨
        ((item.kind = .expansion ∨ item.kind = .overdrive) ∧ item.multiplier = 0))) run
    ⟨rfl, maxInt64_pos.le, by simp⟩ (by
      rintro before item scan next _ ⟨same, _, each⟩ stepped
      simp only [validateWheelItem, bind_ok, refuse_ok, exists_unit, pure_ok] at stepped
      obtain ⟨positive, fits, kind, _, supported, plain, _, rfl⟩ := stepped
      refine ⟨by simp [same], by simp only; omega, fun i member => ?_⟩
      rcases List.mem_append.mp member with old | new
      · exact each i old
      · rw [List.mem_singleton.mp new]
        refine ⟨not_le.mp positive, ?_⟩
        by_cases instant : item.kind = .instant
        · exact .inl ⟨instant, by simpa [instant] using supported⟩
        · refine .inr ⟨?_, by simpa [instant] using plain⟩
          by_contra neither
          exact kind ⟨instant, by tauto, by tauto⟩)
  obtain ⟨same, fits, each⟩ := scanned
  exact ⟨⟨nonempty, fun item member => (each item member).1, same ▸ fits⟩,
    fun item member => (each item member).2⟩

/-! ## Bounds -/

/-- A fold that only grows ends above its start and above every item it covers. -/
theorem foldl_covers {α : Type} {step : Int → α → Int} {value : α → Int} (covered : α → Prop)
    (grows : ∀ most item, most ≤ step most item)
    (covers : ∀ most item, covered item → value item ≤ step most item) (items : List α)
    (start : Int) :
    start ≤ items.foldl step start ∧
      ∀ item ∈ items, covered item → value item ≤ items.foldl step start := by
  induction items generalizing start with
  | nil => simp
  | cons item rest ih =>
      obtain ⟨above, each⟩ := ih (step start item)
      refine ⟨(grows start item).trans above, fun i member isCovered => ?_⟩
      rcases List.mem_cons.mp member with rfl | later
      · exact (covers start i isCovered).trans above
      · exact each i later isCovered

theorem maxWildMultiplier_covers (items : List WeightedInt) :
    1 ≤ maxWildMultiplier items ∧
      ∀ item ∈ items, wildFactor item.value ≤ maxWildMultiplier items := by
  obtain ⟨above, each⟩ := foldl_covers (fun _ => True)
    (fun most item => le_max_left most (wildFactor item.value))
    (fun most item _ => le_max_right most (wildFactor item.value)) items 1
  exact ⟨above, fun item member => each item member trivial⟩

theorem maxWheelMultiplier_covers (items : List WeightedWheel) :
    0 ≤ maxWheelMultiplier items ∧
      ∀ item ∈ items, item.kind = .instant → item.multiplier ≤ maxWheelMultiplier items := by
  refine foldl_covers _ (fun most item => ?_) (fun most item instant => ?_) items 0
  · split
    · exact le_max_left _ _
    · exact le_rfl
  · simp [instant]

/-- The most one symbol can pay in catalog units on the tallest grid. -/
def waysBound (config : Config) (symbol : Symbol) : Int :=
  config.paytable.value symbol * maxWildMultiplier config.wildMultipliers * maximumWaysPerSymbol

/-- The most one symbol can pay at the highest bet. -/
def scaledWaysBound (config : Config) (symbol : Symbol) : Int :=
  scaledAward (waysBound config symbol) config.bet.maxMinor config.bet.payUnitMinor

/-- The most a King Spin upgrade to an item can reach. -/
def kingVaultMost (item : WeightedInt) : Int :=
  if isBaseJackpotMultiplier item.value then item.value * 2 else item.value

/-- The largest multiplier a vault can reach. -/
def vaultMost (config : Config) : Int :=
  config.overdriveMultipliers.foldl (fun most item => max most (kingVaultMost item))
    (config.vaultMultipliers.foldl (fun most item => max most item.value) 0)

/-- No spin leaves 64 bits before the cap: the largest ways, vault and wheel
awards fit together. -/
structure Liability (config : Config) (maxVault maxWheel : Int) : Prop where
  ways : ∀ symbol ∈ payingSymbols, waysBound config symbol * config.bet.maxMinor ≤ maxInt64
  waysSum : (payingSymbols.map (waysBound config)).sum ≤ maxInt64
  vault : ∀ item ∈ config.vaultMultipliers, item.value ≤ maxVault
  king : ∀ item ∈ config.overdriveMultipliers,
    (if isBaseJackpotMultiplier item.value then item.value * 2 else item.value) ≤ maxVault
  wheel : ∀ item ∈ config.feature.wheel, item.kind = .instant → item.multiplier ≤ maxWheel
  vaultNonneg : 0 ≤ maxVault
  wheelNonneg : 0 ≤ maxWheel
  combined : (payingSymbols.map (scaledWaysBound config)).sum +
    config.bet.maxMinor * maxVault * maximumVaultsPerSpin + config.bet.maxMinor * maxWheel ≤
      maxInt64

theorem addWaysLiability_ok {config : Config} {scan next : LiabilityScan} {symbol : Symbol}
    (unit : 0 < config.bet.payUnitMinor)
    (stepped : addWaysLiability config scan symbol = .ok next) :
    waysBound config symbol * config.bet.maxMinor ≤ maxInt64 ∧
      next.rawTotal = scan.rawTotal + waysBound config symbol ∧
      next.scaledTotal = scan.scaledTotal + scaledWaysBound config symbol ∧
      next.rawTotal ≤ maxInt64 := by
  simp only [addWaysLiability, bind_ok, relabel_ok, safeMul_ok, safeAdd_ok,
    scaleWaysAward_ok unit, pure_ok] at stepped
  obtain ⟨_, ⟨_, _, _, rfl⟩, _, ⟨_, _, _, rfl⟩, _, ⟨_, _, rawFits, rfl⟩, _,
    ⟨_, _, scaledFits, rfl⟩, _, ⟨_, _, _, rfl⟩, rfl⟩ := stepped
  exact ⟨scaledFits, rfl, rfl, rawFits⟩

theorem addKingVaultLiability_ok {most next : Int} {item : WeightedInt}
    (stepped : addKingVaultLiability most item = .ok next) :
    next = max most (kingVaultMost item) := by
  simp only [addKingVaultLiability, bind_ok, pure_ok] at stepped
  obtain ⟨value, doubled, rfl⟩ := stepped
  split at doubled
  · next jackpot =>
    obtain ⟨_, _, _, rfl⟩ := safeMul_ok.mp (relabel_ok.mp doubled)
    rw [kingVaultMost, if_pos jackpot]
  · next plain =>
    rw [kingVaultMost, if_neg plain, pure_ok.mp doubled]

theorem validateSpinArithmeticBounds_liability {config : Config}
    (unit : 0 < config.bet.payUnitMinor)
    (accepted : config.validateSpinArithmeticBounds = .ok ()) :
    Liability config (vaultMost config) (maxWheelMultiplier config.feature.wheel) := by
  simp only [Config.validateSpinArithmeticBounds, bind_ok, refuse_ok, exists_unit, relabel_ok,
    pure_ok] at accepted
  obtain ⟨ways, waysRun, _, maxVault, kingRun, _, vaultFits, _, vaultsFit, _, wheelFits, _,
    combined, _, total, _⟩ := accepted
  have waysScan := foldlM_ok_invariant
    (fun before (scan : LiabilityScan) =>
      scan.rawTotal = (before.map (waysBound config)).sum ∧
      scan.scaledTotal = (before.map (scaledWaysBound config)).sum ∧
      scan.rawTotal ≤ maxInt64 ∧
      ∀ symbol ∈ before, waysBound config symbol * config.bet.maxMinor ≤ maxInt64) waysRun
    ⟨rfl, rfl, maxInt64_pos.le, by simp⟩ (by
      rintro before symbol scan next _ ⟨raw, scaled, _, each⟩ stepped
      obtain ⟨fits, rawNext, scaledNext, rawFits⟩ := addWaysLiability_ok unit stepped
      refine ⟨by simp [rawNext, raw], by simp [scaledNext, scaled], rawFits, fun s member => ?_⟩
      rcases List.mem_append.mp member with old | new
      · exact each s old
      · rwa [List.mem_singleton.mp new])
  obtain ⟨rawSame, scaledSame, rawFits, waysEach⟩ := waysScan
  have most := foldlM_ok_invariant
    (fun before (most : Int) =>
      most = before.foldl (fun most item => max most (kingVaultMost item))
        (config.vaultMultipliers.foldl (fun most item => max most item.value) 0))
    kingRun rfl (by
      rintro before item most next _ rfl stepped
      rw [List.foldl_append, addKingVaultLiability_ok stepped]
      rfl)
  obtain rfl : maxVault = vaultMost config := most
  obtain ⟨above, kingEach⟩ := foldl_covers (fun _ => True)
    (fun most item => le_max_left most (kingVaultMost item))
    (fun most item _ => le_max_right most (kingVaultMost item)) config.overdriveMultipliers
    (config.vaultMultipliers.foldl (fun most item => max most item.value) 0)
  obtain ⟨baseNonneg, baseEach⟩ := foldl_covers (fun _ => True)
    (fun most item => le_max_left most (WeightedInt.value item))
    (fun most item _ => le_max_right most (WeightedInt.value item)) config.vaultMultipliers 0
  obtain ⟨wheelNonneg, wheelEach⟩ := maxWheelMultiplier_covers config.feature.wheel
  obtain ⟨_, _, _, rfl⟩ := safeMul_ok.mp vaultFits
  obtain ⟨_, _, _, rfl⟩ := safeMul_ok.mp vaultsFit
  obtain ⟨_, _, _, rfl⟩ := safeMul_ok.mp wheelFits
  obtain ⟨_, _, _, rfl⟩ := safeAdd_ok.mp combined
  obtain ⟨_, _, totalFits, _⟩ := safeAdd_ok.mp total
  exact
    { ways := waysEach
      waysSum := rawSame ▸ rawFits
      vault := fun item member => (baseEach item member trivial).trans above
      king := fun item member => kingEach item member trivial
      wheel := wheelEach
      vaultNonneg := baseNonneg.trans above
      wheelNonneg := wheelNonneg
      combined := scaledSame ▸ totalFits }

/-! ## Everything an accepted definition guarantees -/

structure RowTable (items : List WeightedInt) : Prop where
  table : WeightTable WeightedInt.weight items
  rows : ∀ item ∈ items, 3 ≤ item.value ∧ item.value ≤ 8

structure WheelTable (items : List WeightedWheel) : Prop where
  table : WeightTable WeightedWheel.weight items
  kinds : ∀ item ∈ items,
    (item.kind = .instant ∧ isSupportedWheelMultiplier item.multiplier = true) ∨
    ((item.kind = .expansion ∨ item.kind = .overdrive) ∧ item.multiplier = 0)

structure FeatureFacts (feature : FeatureConfig) : Prop where
  initial : feature.initialFreeSpins = 8
  leastSpins : 8 ≤ feature.maxExpansionSpins
  mostSpins : feature.maxExpansionSpins ≤ maxFeatureSpins
  freeSpinWeight : 0 ≤ feature.vaultFreeSpinWeight
  rows : RowTable feature.expansionRows
  thresholds : 1 ≤ feature.rageLevelThresholds.length
  thresholdCount : (feature.rageLevelThresholds.length : Int) ≤ maxRageCollected
  wheel : WheelTable feature.wheel

/-- A table of multipliers the protocol supports. -/
structure MultiplierTable (supported : Int → Bool) (items : List WeightedInt) : Prop where
  table : WeightTable WeightedInt.weight items
  supported : ∀ item ∈ items, supported item.value = true

structure ConfigFacts (config : Config) : Prop where
  leastBet : 0 < config.bet.minMinor
  unit : 0 < config.bet.payUnitMinor
  cap : config.maxWinMultiplier = 2500
  capFits : config.bet.maxMinor * config.maxWinMultiplier ≤ maxInt64
  reels : ∀ (index : Nat) (reel : List WeightedSymbol),
    config.reels.toList[index]? = some reel → ReelTable index reel
  pays : ∀ symbol ∈ payingSymbols, 0 < config.paytable.value symbol
  wild : MultiplierTable isSupportedWildMultiplier config.wildMultipliers
  vault : MultiplierTable isSupportedBaseVaultMultiplier config.vaultMultipliers
  overdrive : MultiplierTable isSupportedKingVaultMultiplier config.overdriveMultipliers
  feature : FeatureFacts config.feature
  liability : ∃ maxVault maxWheel, Liability config maxVault maxWheel

theorem validateFeatureConfig_facts {feature : FeatureConfig}
    (accepted : validateFeatureConfig feature = .ok ()) : FeatureFacts feature := by
  simp only [validateFeatureConfig, validateExpansionRows, validateRageThresholds, bind_ok,
    refuse_ok, exists_unit, forM_ok, validateWeightedInts, pure_ok] at accepted
  obtain ⟨shape, _, ⟨rows, heights, _⟩, ⟨thresholds, _⟩, _, wheelRun, _⟩ := accepted
  obtain ⟨rowTable, _⟩ := validateWeightedItems_table rows
  simp only [not_or, not_not, not_lt] at shape thresholds
  obtain ⟨wheelNonempty, initial, least, most, freeSpin, _, _⟩ := shape
  obtain ⟨thresholdsNonempty, count, _⟩ := thresholds
  obtain ⟨wheelTable, kinds⟩ := validateWheel_table wheelNonempty wheelRun
  exact
    { initial := initial
      leastSpins := by omega
      mostSpins := by omega
      freeSpinWeight := freeSpin
      rows := ⟨rowTable, fun item member => by have := heights item member; omega⟩
      thresholds := List.length_pos_iff.mpr thresholdsNonempty
      thresholdCount := by omega
      wheel := ⟨wheelTable, kinds⟩ }

theorem Config.Valid.facts {config : Config} (valid : config.Valid) : ConfigFacts config := by
  simp only [Config.Valid, Config.validate, bind_ok, refuse_ok, exists_unit, validateWeightedInts,
    validateWildMultipliers] at valid
  obtain ⟨_, _, _, bet, reels, paytable, wildItems, wildSupported, vaultItems, vaultSupported,
    kingItems, kingSupported, feature, bounds⟩ := valid
  simp only [Config.validateBetConfig, bind_ok, refuse_ok, exists_unit, not_or, not_le, not_not,
    not_lt] at bet
  obtain ⟨⟨leastBet, _, _, unit⟩, cap, capFits, _⟩ := bet
  simp only [validatePaytable, bind_ok, refuse_ok, exists_unit, forM_ok, not_le] at paytable
  have capValue : config.maxWinMultiplier = 2500 := cap
  exact
    { leastBet := leastBet
      unit := unit
      cap := capValue
      capFits := by
        rw [capValue] at capFits ⊢
        omega
      reels := fun index reel found => validateReel_table (forM_zipIdx_ok.mp reels index reel found)
      pays := paytable.1
      wild := ⟨(validateWeightedItems_table wildItems).1, validateSupported_ok.mp wildSupported⟩
      vault := ⟨(validateWeightedItems_table vaultItems).1, validateSupported_ok.mp vaultSupported⟩
      overdrive :=
        ⟨(validateWeightedItems_table kingItems).1, validateSupported_ok.mp kingSupported⟩
      feature := validateFeatureConfig_facts feature
      liability := ⟨_, _, validateSpinArithmeticBounds_liability unit bounds⟩ }

/-- The liability an accepted definition was checked against. -/
theorem Config.Valid.liability {config : Config} (valid : config.Valid) :
    Liability config (vaultMost config) (maxWheelMultiplier config.feature.wheel) := by
  have unit := valid.facts.unit
  simp only [Config.Valid, Config.validate, bind_ok, refuse_ok, exists_unit] at valid
  obtain ⟨_, _, _, _, _, _, _, _, _, _, _, _, _, bounds⟩ := valid
  exact validateSpinArithmeticBounds_liability unit bounds

theorem validateBet_bounds {config : Config} {bet : Int}
    (legal : config.validateBet bet = .ok ()) :
    config.bet.minMinor ≤ bet ∧ bet ≤ config.bet.maxMinor := by
  simp only [Config.validateBet, Config.validateBetBounds, bind_ok, refuse_ok, exists_unit]
    at legal
  omega

/-- The cap of a legal bet is within 64 bits. -/
theorem ConfigFacts.capMinor {config : Config} (facts : ConfigFacts config) {bet : Int}
    (legal : config.validateBet bet = .ok ()) :
    safeMul bet config.maxWinMultiplier = .ok (bet * config.maxWinMultiplier) ∧
      0 ≤ bet * config.maxWinMultiplier := by
  obtain ⟨least, most⟩ := validateBet_bounds legal
  have positive := facts.leastBet
  have multiplier := facts.cap
  have nonneg : 0 ≤ bet := by omega
  have capped : bet * config.maxWinMultiplier ≤ maxInt64 := by
    have fits := facts.capFits
    rw [multiplier] at fits ⊢
    omega
  exact ⟨safeMul_ok.mpr ⟨nonneg, by omega, capped, rfl⟩, mul_nonneg nonneg (by omega)⟩

/-! ## No value twice -/

theorem nodup_concat {α : Type} {items : List α} {item : α} (distinct : items.Nodup)
    (new : item ∉ items) : (items ++ [item]).Nodup :=
  List.nodup_append'.mpr ⟨distinct, List.nodup_singleton item,
    List.disjoint_singleton.mpr new⟩

/-- A scan that refuses the keys it has seen leaves no key twice. -/
theorem foldlM_distinct {α β γ : Type} {step : β → α → Except String β} {key : α → γ}
    (seen : β → List γ) {items : List α} {start final : β}
    (run : items.foldlM step start = .ok final) (none : seen start = [])
    (each : ∀ scan item next, step scan item = .ok next →
      key item ∉ seen scan ∧ seen next = key item :: seen scan) : (items.map key).Nodup := by
  refine (foldlM_ok_invariant (fun before scan => (before.map key).Nodup ∧
    ∀ found, found ∈ seen scan ↔ found ∈ before.map key) run ?_ ?_).1
  · exact ⟨List.nodup_nil, fun found => by rw [none, List.map_nil]⟩
  · rintro before item scan next _ ⟨distinct, same⟩ stepped
    obtain ⟨new, grown⟩ := each scan item next stepped
    rw [List.map_append, List.map_singleton]
    refine ⟨nodup_concat distinct fun twice => new ((same _).mpr twice), fun found => ?_⟩
    rw [grown, List.mem_cons, List.mem_append, List.mem_singleton, same, or_comm]

theorem validateReel_distinct {index : Nat} {reel : List WeightedSymbol}
    (accepted : validateReel index reel = .ok ()) : (reel.map (·.value)).Nodup := by
  simp only [validateReel, bind_ok, refuse_ok, exists_unit] at accepted
  obtain ⟨_, final, run, _⟩ := accepted
  refine foldlM_distinct ReelScan.seenSymbols run rfl fun scan item next stepped => ?_
  simp only [validateReelItem, bind_ok, refuse_ok, exists_unit, pure_ok] at stepped
  obtain ⟨_, new, _, _, rfl⟩ := stepped
  exact ⟨new, rfl⟩

theorem validateWeightedItems_distinct {name rule : String} {least : Int}
    {items : List WeightedInt} (accepted : validateWeightedItems name rule least items = .ok ()) :
    (items.map (·.value)).Nodup := by
  simp only [validateWeightedItems, bind_ok, refuse_ok, exists_unit, pure_ok] at accepted
  obtain ⟨_, final, run, _⟩ := accepted
  refine foldlM_distinct WeightScan.seen run rfl fun scan item next stepped => ?_
  simp only [validateWeightedItem, bind_ok, refuse_ok, exists_unit, pure_ok] at stepped
  obtain ⟨_, new, _, rfl⟩ := stepped
  exact ⟨new, rfl⟩

theorem validateWheel_distinct {items : List WeightedWheel} {final : WheelScan}
    (run : items.foldlM validateWheelItem {} = .ok final) : items.Nodup := by
  have keys : (items.map fun item => item.kind.name ++ s!":{item.multiplier}").Nodup := by
    refine foldlM_distinct WheelScan.seenWheel run rfl fun scan item next stepped => ?_
    simp only [validateWheelItem, bind_ok, refuse_ok, exists_unit, pure_ok] at stepped
    obtain ⟨_, _, _, _, _, _, new, rfl⟩ := stepped
    exact ⟨new, rfl⟩
  exact keys.of_map _

/-- No table of an accepted definition has an item twice. -/
structure Distinct (config : Config) : Prop where
  reels : ∀ reel ∈ config.reels.toList, (reel.map (·.value)).Nodup
  wild : (config.wildMultipliers.map (·.value)).Nodup
  vault : (config.vaultMultipliers.map (·.value)).Nodup
  overdrive : (config.overdriveMultipliers.map (·.value)).Nodup
  rows : (config.feature.expansionRows.map (·.value)).Nodup
  wheel : config.feature.wheel.Nodup

theorem Config.Valid.distinct {config : Config} (valid : config.Valid) : Distinct config := by
  simp only [Config.Valid, Config.validate, bind_ok, refuse_ok, exists_unit, validateWeightedInts,
    validateWildMultipliers, validateFeatureConfig, validateExpansionRows, pure_ok] at valid
  obtain ⟨_, _, _, _, reels, _, wild, _, vault, _, overdrive, _, ⟨_, _, ⟨rows, _⟩, _, _, wheel, _⟩,
    _⟩ := valid
  exact
    { reels := fun reel member => by
        obtain ⟨index, found⟩ := List.getElem?_of_mem member
        exact validateReel_distinct (forM_zipIdx_ok.mp reels index reel found)
      wild := validateWeightedItems_distinct wild
      vault := validateWeightedItems_distinct vault
      overdrive := validateWeightedItems_distinct overdrive
      rows := validateWeightedItems_distinct rows
      wheel := validateWheel_distinct wheel }

end SlotsGame.Game
