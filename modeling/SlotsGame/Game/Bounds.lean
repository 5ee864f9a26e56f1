/-
# SlotsGame.Game.Bounds -- a spin stays within the checked liability

The definition is checked once against a closed-form worst case.  Every award a
spin makes is under its part of that bound: the ways of any settled grid, the
vaults of a reel (at most eight, none above the largest multiplier), and the
wheel.  So no product and no sum of a spin leaves 64 bits; what a spin can still
refuse is the weight sum of a free-spin vault draw and a full rage meter.
-/
import SlotsGame.Game.FreeSpins
import SlotsGame.Game.Scaling
import SlotsGame.Theory.Refusals

namespace SlotsGame.Game

open SlotsGame.Theory FeatureState Engine

set_option autoImplicit false

/-! ## Grids of the same symbols -/

/-- The same symbols at the same places; multipliers and prizes may differ. -/
def SameSymbols (first second : Grid) : Prop :=
  first.map (·.map Cell.symbol) = second.map (·.map Cell.symbol)

/-- The places of a symbol depend on the symbols alone. -/
theorem positionsWhere_symbols {first second : Grid} (same : SameSymbols first second)
    (keep : Symbol → Bool) :
    positionsWhere (fun cell => keep cell.symbol) first =
      positionsWhere (fun cell => keep cell.symbol) second := by
  have read (grid : Grid) : positionsWhere (fun cell => keep cell.symbol) grid =
      (grid.map (·.map Cell.symbol)).zipIdx.flatMap fun (symbols, reel) =>
        (symbols.zipIdx.filter fun (symbol, _) => keep symbol).map fun (_, row) =>
          ({ reel := reel, row := row } : Position) := by
    rw [positionsWhere, List.zipIdx_map, List.flatMap_map]
    refine List.flatMap_congr fun entry _ => ?_
    simp only [Prod.map, id_eq, List.zipIdx_map, List.filter_map, List.map_map]
    rfl
  rw [read, read, same]

theorem SameSymbols.modifyCell {first second : Grid} (same : SameSymbols first second)
    (position : Position) {update : Cell → Cell}
    (kept : ∀ cell, (update cell).symbol = cell.symbol) :
    SameSymbols (first.modifyCell position update) second := by
  rw [SameSymbols, ← same]
  refine List.ext_getElem? fun reel => ?_
  rw [List.getElem?_map, List.getElem?_map, Grid.modifyCell, List.getElem?_modify]
  cases first[reel]? with
  | none => rfl
  | some cells =>
      by_cases here : position.reel.toNat = reel
      · simp only [here, if_true, Option.map_eq_map, Option.map_some, Option.some.injEq]
        refine List.ext_getElem? fun row => ?_
        rw [List.getElem?_map, List.getElem?_map, List.getElem?_modify]
        cases cells[row]? with
        | none => rfl
        | some cell => by_cases there : position.row.toNat = row <;> simp [there, kept]
      · simp [here]

/-- The vaults of a settled grid stand on one reel. -/
theorem vaults_few {grid : Grid} {rows : Nat} (settled : grid.Settled rows) :
    (positionsForSymbol grid .vault).length ≤ 8 := by
  obtain ⟨first, middle, last, shape⟩ := List.length_eq_three.mp settled.reels
  have outer (reel : Nat) (cells : List Cell) (found : grid[reel]? = some cells)
      (away : reel ≠ 1) : cells.countP (fun cell => cell.symbol = .vault) = 0 := by
    rw [List.countP_eq_zero]
    intro cell member vault
    exact away ((settled.cells reel cells found cell member).middle
      (.inr (by simpa using vault)))
  have height := settled.height middle (by simp [shape])
  have inside : middle.countP (fun cell => cell.symbol = .vault) ≤ middle.length :=
    List.countP_le_length
  have none0 := outer 0 first (by simp [shape]) (by decide)
  have none2 := outer 2 last (by simp [shape]) (by decide)
  have most := settled.most
  rw [positionsForSymbol, positionsWhere_length, shape]
  simp only [List.map_cons, List.map_nil, List.sum_cons, List.sum_nil, none0, none2]
  omega

/-- Every cell is a rage symbol or is not. -/
theorem surges_split {grid : Grid} {rows : Nat} (settled : grid.Settled rows) :
    9 ≤ (positionsForSymbol grid .surge).length + (positionsExceptSymbol grid .surge).length := by
  obtain ⟨first, middle, last, shape⟩ := List.length_eq_three.mp settled.reels
  have split (cells : List Cell) : cells.countP (fun cell => decide (cell.symbol = .surge)) +
      cells.countP (fun cell => decide (cell.symbol ≠ .surge)) = cells.length := by
    have counted : cells.length = cells.countP (fun cell => decide (cell.symbol = .surge)) + _ :=
      List.length_eq_countP_add_countP _
    simpa using counted.symm
  have least := settled.least
  have height0 := settled.height first (by simp [shape])
  have height1 := settled.height middle (by simp [shape])
  have height2 := settled.height last (by simp [shape])
  have split0 := split first
  have split1 := split middle
  have split2 := split last
  rw [positionsForSymbol, positionsExceptSymbol, positionsWhere_length, positionsWhere_length, shape]
  simp only [List.map_cons, List.map_nil, List.sum_cons, List.sum_nil]
  omega

/-! ## Multipliers -/

section Multipliers

variable {config : Config}

theorem baseVault_pos {multiplier : Int}
    (supported : isSupportedBaseVaultMultiplier multiplier = true) : 0 < multiplier := by
  simp only [isSupportedBaseVaultMultiplier, isSupportedWheelMultiplier, List.contains_eq_mem,
    Bool.or_eq_true, Bool.and_eq_true, decide_eq_true_eq, List.mem_cons, List.not_mem_nil,
    or_false] at supported
  omega

theorem kingVault_pos {multiplier : Int}
    (supported : isSupportedKingVaultMultiplier multiplier = true) : 0 < multiplier := by
  simp only [isSupportedKingVaultMultiplier, Bool.or_eq_true, List.contains_eq_mem,
    decide_eq_true_eq, List.mem_cons, List.not_mem_nil, or_false] at supported
  rcases supported with base | king
  · exact baseVault_pos base
  · omega

/-- What the vaults of one spin can pay at a bet. -/
def vaultBound (config : Config) (bet : Int) (vaults : Nat) : Int :=
  bet * vaultMost config * vaults

/-- The parts of the liability the definition was checked against. -/
structure BetBound (config : Config) (bet : Int) : Prop where
  positive : 0 < bet
  most : 0 ≤ vaultMost config
  vaults : ∀ count : Nat, count ≤ 8 → vaultBound config bet count ≤
    config.bet.maxMinor * vaultMost config * maximumVaultsPerSpin
  vaultsFit : config.bet.maxMinor * vaultMost config * maximumVaultsPerSpin ≤ maxInt64
  doubleFits : vaultMost config ≤ maxInt64

theorem ConfigFacts.bound (valid : config.Valid) {bet : Int}
    (legal : config.bet.minMinor ≤ bet ∧ bet ≤ config.bet.maxMinor) : BetBound config bet := by
  have liability := valid.liability
  have least := valid.facts.leastBet
  have most := liability.vaultNonneg
  have vaultsNonneg : 0 ≤ config.bet.maxMinor * vaultMost config :=
    mul_nonneg (by omega) most
  have ways : 0 ≤ (payingSymbols.map (scaledWaysBound config)).sum := by
    refine List.sum_nonneg fun value member => ?_
    obtain ⟨symbol, paying, rfl⟩ := List.mem_map.mp member
    exact (scaledAward_pos valid.facts.unit (waysBound_pos (valid.facts.pays symbol paying))
      (by omega)).le
  have wheel : 0 ≤ config.bet.maxMinor * maxWheelMultiplier config.feature.wheel :=
    mul_nonneg (by omega) liability.wheelNonneg
  have combined := liability.combined
  have one : vaultMost config ≤ config.bet.maxMinor * vaultMost config :=
    le_mul_of_one_le_left most (by omega)
  refine ⟨by omega, most, fun count few => ?_, by omega, ?_⟩
  · have perBet : bet * vaultMost config ≤ config.bet.maxMinor * vaultMost config :=
      mul_le_mul_of_nonneg_right legal.2 most
    have counted : (count : Int) ≤ maximumVaultsPerSpin := by
      unfold maximumVaultsPerSpin
      omega
    exact mul_le_mul perBet counted (Int.natCast_nonneg _) vaultsNonneg
  · unfold maximumVaultsPerSpin at combined
    omega

/-- Paying one more vault stays within the bound. -/
theorem BetBound.pay {bet multiplier total : Int} {vaults : Nat} (bound : BetBound config bet)
    (few : vaults < 8) (positive : 0 < multiplier) (most : multiplier ≤ vaultMost config)
    (before : 0 ≤ total ∧ total ≤ vaultBound config bet vaults) :
    safeMul bet multiplier = .ok (bet * multiplier) ∧
      safeAdd total (bet * multiplier) = .ok (total + bet * multiplier) ∧
      0 ≤ total + bet * multiplier ∧
      total + bet * multiplier ≤ vaultBound config bet (vaults + 1) := by
  have award : bet * multiplier ≤ bet * vaultMost config :=
    mul_le_mul_of_nonneg_left most bound.positive.le
  have nonneg : 0 ≤ bet * multiplier := mul_nonneg bound.positive.le positive.le
  have grown : vaultBound config bet (vaults + 1) =
      vaultBound config bet vaults + bet * vaultMost config := by
    unfold vaultBound
    push_cast
    ring
  have within := bound.vaults (vaults + 1) (by omega)
  have fits := bound.vaultsFit
  exact ⟨safeMul_ok.mpr ⟨bound.positive.le, positive.le, by omega, rfl⟩,
    safeAdd_ok.mpr ⟨before.1, nonneg, by omega, rfl⟩, by omega, by omega⟩

end Multipliers

/-! ## Vaults outside King Spin -/

/-- What a spin can still refuse once its input is accepted. -/
def SpinRefusal (config : Config) (feature : FeatureState) (error : String) : Prop :=
  (error = "Vault FREE SPIN weight overflows" ∧ ¬ VaultDrawFits config (feature.mode = .expansion)) ∨
    (error = "Rage meter count exceeds the protocol limit" ∧
      maxRageCollected - 2 < feature.rageCollected)

section Spin

variable {σ : Type} {engine : Engine σ}

/-- A vault reward is drawn, or its weights overflow. -/
theorem pickVaultReward_or (lawful : engine.random.Lawful True) (allowFreeSpin : Bool) :
    EnsuresOr (fun error => error = "Vault FREE SPIN weight overflows" ∧
        ¬ VaultDrawFits engine.config allowFreeSpin)
      (pickVaultReward engine.random engine.config allowFreeSpin)
      (VaultReward.Offered engine.config allowFreeSpin) := by
  have facts := engine.valid.facts
  by_cases fits : VaultDrawFits engine.config allowFreeSpin
  · exact .of_ensures (pickVaultReward_ensures lawful facts fun _ => fits)
  · have table := facts.vault.table
    have nonneg := fun item member => (table.positive item member).le
    have overflows : allowFreeSpin = true ∧ engine.config.feature.vaultFreeSpinWeight >
        maxInt64 - Weighted.total WeightedInt.weight engine.config.vaultMultipliers := by
      simp only [VaultDrawFits, Classical.not_imp, not_le] at fits
      exact ⟨fits.1, by omega⟩
    refine (EnsuresOr.of_ensures (Ensures.known (totalWeight_eq nonneg table.bounded))).bind ?_
    rintro _ rfl
    refine (EnsuresOr.lift (fun _ => False) ?_ ?_).bind fun _ impossible => impossible.elim
    · intro _ accepted
      exact refuse_ok.mp accepted overflows
    · intro error refused
      rw [refuse, if_pos overflows] at refused
      exact ⟨(Except.error.inj refused).symm, fits⟩

/-- The vaults paid so far: the same grid but for them, and a total within their bound. -/
structure VaultsPaid (config : Config) (bet : Int) (grid : Grid) (paid : Nat) (after : Grid)
    (total : Int) : Prop where
  symbols : SameSymbols after grid
  total : 0 ≤ total ∧ total ≤ vaultBound config bet paid

theorem VaultsPaid.none (config : Config) (bet : Int) (grid : Grid) :
    VaultsPaid config bet grid 0 grid 0 :=
  ⟨rfl, le_rfl, by simp [vaultBound]⟩

/-- A later vault leaves what was paid and is itself within the bound. -/
theorem VaultsPaid.skip {config : Config} {bet : Int} {grid after : Grid} {paid : Nat}
    {total : Int} (bound : BetBound config bet)
    (before : VaultsPaid config bet grid paid after total) {next : Grid}
    (same : SameSymbols next grid) : VaultsPaid config bet grid (paid + 1) next total := by
  have grown : vaultBound config bet (paid + 1) =
      vaultBound config bet paid + bet * vaultMost config := by
    unfold vaultBound
    push_cast
    ring
  have more : 0 ≤ bet * vaultMost config := mul_nonneg bound.positive.le bound.most
  have total := before.total
  exact ⟨same, total.1, by omega⟩

theorem unlockVault_or (lawful : engine.random.Lawful True) {input : SpinInput}
    (bound : BetBound engine.config input.betMinor) {grid : Grid} {paid : Nat} (few : paid < 8)
    {state : VaultResolution}
    (before : VaultsPaid engine.config input.betMinor grid paid state.grid state.total)
    (position : Position) :
    EnsuresOr (SpinRefusal engine.config input.feature) (engine.unlockVault input state position)
      fun next => VaultsPaid engine.config input.betMinor grid (paid + 1) next.grid next.total := by
  have facts := engine.valid.facts
  have drawn : EnsuresOr (SpinRefusal engine.config input.feature)
      (pickVaultReward engine.random engine.config (decide (input.feature.mode = .expansion)))
      (VaultReward.Offered engine.config (decide (input.feature.mode = .expansion))) :=
    (pickVaultReward_or lawful _).weaken fun _ refused => .inl refused
  simp only [Engine.unlockVault]
  refine drawn.bind fun reward offered => ?_
  cases reward with
  | freeSpin =>
      have same : SameSymbols
          (state.grid.modifyCell position fun cell => { cell with prize := .freeSpin }) grid :=
        before.symbols.modifyCell position fun _ => rfl
      simp only
      split
      · exact .pure (before.skip bound same)
      · exact .pure (before.skip bound same)
  | multiplier multiplier =>
      obtain ⟨item, member, rfl⟩ := offered
      obtain ⟨award, total, nonneg, within⟩ := bound.pay few
        (baseVault_pos (facts.vault.supported item member))
        (engine.valid.liability.vault item member) before.total
      refine (EnsuresOr.of_ensures (Ensures.known award)).bind ?_
      rintro _ rfl
      refine (EnsuresOr.of_ensures (Ensures.known total)).bind ?_
      rintro _ rfl
      exact .pure ⟨before.symbols.modifyCell position fun _ => rfl, nonneg, within⟩

/-! ## King Spin -/

/-- The vaults of a King Spin while they are upgraded. -/
structure KingVaults (config : Config) (count : Nat) (resolved : List ResolvedVault) : Prop where
  length : resolved.length = count
  within : ∀ vault ∈ resolved, 0 < vault.multiplier ∧ vault.multiplier ≤ vaultMost config

theorem KingVaults.snoc {config : Config} {count : Nat} {resolved : List ResolvedVault}
    (before : KingVaults config count resolved) {vault : ResolvedVault}
    (within : 0 < vault.multiplier ∧ vault.multiplier ≤ vaultMost config) :
    KingVaults config (count + 1) (resolved ++ [vault]) := by
  refine ⟨by simp [before.length], fun v member => ?_⟩
  rcases List.mem_append.mp member with old | new
  · exact before.within v old
  · rwa [List.mem_singleton.mp new]

theorem doubleJackpot_ensures (lawful : engine.random.Lawful True) {item : WeightedInt}
    (member : item ∈ engine.config.overdriveMultipliers)
    (fits : vaultMost engine.config ≤ maxInt64) :
    Ensures True (engine.doubleJackpot item.value) fun upgraded =>
      0 < upgraded ∧ upgraded ≤ vaultMost engine.config := by
  have positive := kingVault_pos (engine.valid.facts.overdrive.supported item member)
  have most := engine.valid.liability.king item member
  simp only [Engine.doubleJackpot]
  split
  · next jackpot =>
    rw [if_pos jackpot] at most
    refine (chance_ensures lawful _).bind fun doubled _ => ?_
    split
    · exact (Ensures.known (safeMul_ok.mpr ⟨positive.le, by omega, by omega, rfl⟩)).mono
        fun _ same => by omega
    · exact .pure (by omega)
  · next plain =>
    rw [if_neg plain] at most
    exact .pure ⟨positive, most⟩

theorem upgradeKingVault_ensures (lawful : engine.random.Lawful True)
    (fits : vaultMost engine.config ≤ maxInt64) (step : Int) {count : Nat} {state : KingUpgrade}
    (before : KingVaults engine.config count state.resolved) {vault : ResolvedVault}
    (within : 0 < vault.multiplier ∧ vault.multiplier ≤ vaultMost engine.config) :
    Ensures True (engine.upgradeKingVault step state vault) fun next =>
      KingVaults engine.config (count + 1) next.resolved := by
  simp only [Engine.upgradeKingVault]
  refine (pickGreaterWeightedInt_ensures lawful engine.valid.facts.overdrive.table _).bind
    fun picked offered => ?_
  cases picked with
  | none => exact .pure (before.snoc within)
  | some value =>
      obtain ⟨_, item, member, rfl⟩ := offered value rfl
      exact (doubleJackpot_ensures lawful member fits).bind fun upgraded bounded =>
        .pure (before.snoc bounded)

theorem upgradeRounds_ensures (lawful : engine.random.Lawful True)
    (fits : vaultMost engine.config ≤ maxInt64) {count : Nat} (rounds : Nat) (step : Int)
    {state : KingUpgrade} (before : KingVaults engine.config count state.resolved) :
    Ensures True (engine.upgradeRounds rounds step state) fun next =>
      KingVaults engine.config count next.resolved := by
  induction rounds generalizing step state with
  | zero => exact .pure before
  | succ rounds ih =>
      rw [Engine.upgradeRounds]
      refine (chance_ensures lawful _).bind fun upgrade _ => ?_
      split
      · exact .pure before
      have each : Ensures True (state.resolved.foldlM (engine.upgradeKingVault step) {})
          fun next => KingVaults engine.config state.resolved.length next.resolved := by
        refine Ensures.foldlM (fun done (next : KingUpgrade) =>
          KingVaults engine.config done.length next.resolved) ⟨rfl, by simp⟩ ?_
        rintro done vault next ⟨after, split⟩ kept
        have within := before.within vault (by simp [split])
        have stepped := upgradeKingVault_ensures lawful fits step kept within
        simpa using stepped
      refine each.bind fun upgraded kept => ?_
      rw [before.length] at kept
      split
      · exact .pure before
      · exact ih (step + 1) kept

theorem payKingVaults_ok {bet : Int} {config : Config} (bound : BetBound config bet) {grid : Grid}
    {count : Nat} (few : count ≤ 8) {resolved : List ResolvedVault}
    (kept : KingVaults config count resolved) :
    ∃ payout, payKingVaults bet grid resolved = .ok payout ∧
      VaultsPaid config bet grid count payout.grid payout.total := by
  have steps : ∀ done vault payout, (∃ after, resolved = done ++ vault :: after) →
      VaultsPaid config bet grid (List.length done) (KingPayout.grid payout) payout.total →
      ∃ next, payKingVault bet payout vault = .ok next ∧
        VaultsPaid config bet grid (done ++ [vault]).length next.grid next.total := by
    rintro done vault payout ⟨after, split⟩ paid
    have length := kept.length
    obtain ⟨positive, most⟩ := kept.within vault (by simp [split])
    rw [split, List.length_append, List.length_cons] at length
    obtain ⟨award, total, nonneg, within⟩ := bound.pay (by omega) positive most paid.total
    simp only [payKingVault, bind_ok, award, total, Except.ok.injEq, pure_ok, exists_eq_left',
      List.length_append, List.length_singleton]
    exact ⟨paid.symbols.modifyCell _ fun _ => rfl, nonneg, within⟩
  have start : VaultsPaid config bet grid (List.length ([] : List ResolvedVault))
      ({ grid := grid } : KingPayout).grid ({ grid := grid } : KingPayout).total :=
    VaultsPaid.none config bet grid
  obtain ⟨payout, run, paid⟩ := foldlM_ok_of
    (fun done (payout : KingPayout) =>
      VaultsPaid config bet grid done.length payout.grid payout.total) start steps
  rw [kept.length] at paid
  exact ⟨payout, run, paid⟩

theorem resolveKingSpinVaults_ensures (lawful : engine.random.Lawful True) {bet : Int}
    (bound : BetBound engine.config bet) {grid : Grid} {positions : List Position}
    (few : positions.length ≤ 8) :
    Ensures True (engine.resolveKingSpinVaults grid positions bet) fun payout =>
      VaultsPaid engine.config bet grid positions.length payout.grid payout.total := by
  have facts := engine.valid.facts
  have reveals : Ensures True (positions.foldlM engine.revealKingVault {}) fun reveal =>
      KingVaults engine.config positions.length reveal.resolved := by
    refine Ensures.foldlM (fun done (reveal : KingReveal) =>
      KingVaults engine.config done.length reveal.resolved) ⟨rfl, by simp⟩ ?_
    intro done position reveal _ kept
    refine (pickWeightedInt_ensures lawful facts.vault.table).bind ?_
    rintro _ ⟨item, member, rfl⟩
    have positive := baseVault_pos (facts.vault.supported item member)
    have most := engine.valid.liability.vault item member
    have grown : KingVaults engine.config (done.length + 1)
        (reveal.resolved ++ [{ row := position.row, multiplier := item.value }]) :=
      kept.snoc ⟨positive, most⟩
    exact .pure (by simpa using grown)
  simp only [Engine.resolveKingSpinVaults]
  refine reveals.bind fun reveal kept => ?_
  refine (upgradeRounds_ensures lawful bound.doubleFits _ 1 kept).bind fun upgraded upgradedKept => ?_
  have paying : ∃ payout, payKingVaults bet grid upgraded.resolved = .ok payout ∧ _ :=
    payKingVaults_ok bound few upgradedKept
  obtain ⟨payout, run, paid⟩ := paying
  refine (Ensures.known run).bind ?_
  rintro _ rfl
  exact .pure paid

/-! ## All vaults of a spin -/

/-- **The vaults of a settled grid pay within their bound.** -/
theorem resolveVaults_or (lawful : engine.random.Lawful True) {input : SpinInput}
    (bound : BetBound engine.config input.betMinor) {grid : Grid} {rows : Nat}
    (settled : grid.Settled rows) (next : FeatureState) :
    EnsuresOr (SpinRefusal engine.config input.feature) (engine.resolveVaults grid input next)
      fun vaults => VaultsPaid engine.config input.betMinor grid
        (positionsForSymbol grid .vault).length vaults.grid vaults.total := by
  have few := vaults_few settled
  have nothing : VaultsPaid engine.config input.betMinor grid
      (positionsForSymbol grid .vault).length grid 0 := by
    have nonneg : 0 ≤ input.betMinor * vaultMost engine.config :=
      mul_nonneg bound.positive.le bound.most
    exact ⟨rfl, le_rfl, mul_nonneg nonneg (Int.natCast_nonneg _)⟩
  simp only [Engine.resolveVaults]
  split
  · exact .pure nothing
  split
  · exact (EnsuresOr.of_ensures (resolveKingSpinVaults_ensures lawful bound few)).bind
      fun payout paid => .pure paid
  refine (EnsuresOr.of_ensures (chance_ensures lawful _)).bind fun unlocked _ => ?_
  split
  · exact .pure nothing
  refine (EnsuresOr.foldlM (fun done (state : VaultResolution) =>
    VaultsPaid engine.config input.betMinor grid done.length state.grid state.total)
    (VaultsPaid.none _ _ grid) ?_).bind fun resolved paid => .pure paid
  rintro done position state ⟨after, split⟩ paid
  rw [split, List.length_append, List.length_cons] at few
  have stepped := unlockVault_or lawful bound (by omega) paid position
  simpa using stepped

/-! ## The meter and the wheel -/

/-- What the wheel can pay at the highest bet. -/
def wheelBound (config : Config) : Int :=
  config.bet.maxMinor * maxWheelMultiplier config.feature.wheel

theorem awardWheel_ok {input : SpinInput}
    (legal : 0 < input.betMinor ∧ input.betMinor ≤ engine.config.bet.maxMinor)
    {wheel : WeightedWheel} (member : wheel ∈ engine.config.feature.wheel)
    {state : RageResolution} (nonneg : 0 ≤ state.total)
    (fits : state.total + wheelBound engine.config ≤ maxInt64) :
    ∃ result, engine.awardWheel input wheel state = .ok result ∧ state.total ≤ result.total ∧
      result.total ≤ state.total + wheelBound engine.config := by
  have liability := engine.valid.liability
  have none : 0 ≤ wheelBound engine.config := mul_nonneg (by omega) liability.wheelNonneg
  rcases engine.valid.facts.feature.wheel.kinds wheel member with ⟨instant, supported⟩ | ⟨kinds, _⟩
  · have positive : 0 < wheel.multiplier := by
      simp only [isSupportedWheelMultiplier, List.contains_eq_mem, decide_eq_true_eq, List.mem_cons,
        List.not_mem_nil, or_false] at supported
      omega
    have most := liability.wheel wheel member instant
    have award : input.betMinor * wheel.multiplier ≤ wheelBound engine.config :=
      mul_le_mul legal.2 most positive.le (by omega)
    have awardNonneg : 0 ≤ input.betMinor * wheel.multiplier :=
      mul_nonneg legal.1.le positive.le
    simp only [Engine.awardWheel, instant, bind_ok, safeMul_ok, safeAdd_ok, pure_ok]
    exact ⟨_, ⟨_, ⟨legal.1.le, positive.le, by omega, rfl⟩, _, ⟨nonneg, awardNonneg, by omega, rfl⟩,
      rfl⟩, by simp only; omega, by simp only; omega⟩
  · rcases kinds with kind | kind
    · simp only [Engine.awardWheel, kind, pure_ok]
      exact ⟨_, rfl, le_rfl, by simp only; omega⟩
    · simp only [Engine.awardWheel, kind, pure_ok]
      exact ⟨_, rfl, le_rfl, by simp only; omega⟩

theorem resolveRage_or (lawful : engine.random.Lawful True) {input : SpinInput}
    (legal : 0 < input.betMinor ∧ input.betMinor ≤ engine.config.bet.maxMinor)
    {grid after : Grid} {rows : Nat} (settled : grid.Settled rows) (same : SameSymbols after grid)
    (few : (positionsForSymbol grid .surge).length ≤ 3) {total : Int} (nonneg : 0 ≤ total)
    (fits : total + wheelBound engine.config ≤ maxInt64) {next : FeatureState}
    (meter : next.rageCollected = input.feature.rageCollected) :
    EnsuresOr (SpinRefusal engine.config input.feature)
      (engine.resolveRage after input total next) fun rage =>
        total ≤ rage.total ∧ rage.total ≤ total + wheelBound engine.config := by
  have cells : positionsForSymbol after .surge = positionsForSymbol grid .surge :=
    positionsWhere_symbols same fun symbol => symbol = .surge
  have others : positionsExceptSymbol after .surge = positionsExceptSymbol grid .surge :=
    positionsWhere_symbols same fun symbol => symbol ≠ .surge
  have enough := surges_split settled
  have none : 0 ≤ wheelBound engine.config :=
    mul_nonneg (by omega) engine.valid.liability.wheelNonneg
  simp only [Engine.resolveRage, cells]
  refine (EnsuresOr.of_ensures (surgeTriggers_ensures lawful few)).bind fun triggered _ => ?_
  have credit : EnsuresOr (SpinRefusal engine.config input.feature)
      (if 0 < (positionsForSymbol grid .surge).length ∧ (positionsForSymbol grid .surge).length < 3
        then liftM (engine.creditRage (positionsForSymbol grid .surge).length next)
        else pure next : Random σ FeatureState) fun _ => True := by
    split
    · next some =>
      refine .lift _ (fun _ _ => trivial) fun error refused => .inr ?_
      by_cases full : next.rageCollected >
          maxRageCollected - ((positionsForSymbol grid .surge).length : Int)
      · rw [Engine.creditRage, refuse, if_pos full] at refused
        exact ⟨(Except.error.inj refused).symm, by omega⟩
      · rw [Engine.creditRage, refuse, if_neg full] at refused
        cases refused
    · exact .pure trivial
  refine credit.bind fun credited _ => ?_
  split
  · exact .pure ⟨le_rfl, by simp only; omega⟩
  refine EnsuresOr.bind (?_ : EnsuresOr _ _ fun (state : RageResolution) => state.total = total)
    fun state kept => ?_
  · split
    · next partial_ =>
      simp only [Engine.transformRage]
      have count : (3 : Int) - ((positionsForSymbol grid .surge).length : Int) =
          ((3 - (positionsForSymbol grid .surge).length : Nat) : Int) := by omega
      rw [count]
      exact (EnsuresOr.of_ensures (pickRageTransformCells_ensures lawful (by rw [others]; omega))).bind
        fun transformed _ => .pure rfl
    · exact .pure rfl
  · refine (EnsuresOr.of_ensures (pickWeighted_ensures lawful
      engine.valid.facts.feature.wheel.table)).bind fun wheel member => ?_
    have spun : ∃ result, engine.awardWheel input wheel
        { state with events := state.events ++ [{ type := .wheelStarted }] } = .ok result ∧
        state.total ≤ result.total ∧
        result.total ≤ state.total + wheelBound engine.config :=
      awardWheel_ok legal member (by rw [kept]; exact nonneg) (by rw [kept]; exact fits)
    obtain ⟨result, awarded, least, most⟩ := spun
    refine (EnsuresOr.of_ensures (Ensures.known awarded)).mono ?_
    rintro _ rfl
    simp only [kept] at least most
    exact ⟨least, most⟩

/-! ## The whole spin before the cap -/

/-- The bound of the liability check: ways, vaults and the wheel together. -/
def spinBound (config : Config) : Int :=
  (payingSymbols.map (scaledWaysBound config)).sum +
    config.bet.maxMinor * vaultMost config * maximumVaultsPerSpin + wheelBound config

theorem openSpin_or (lawful : engine.random.Lawful True) (feature : FeatureState) :
    Ensures True (engine.openSpin feature) fun opening =>
      (∃ rows : Nat, opening.rows = rows ∧ 3 ≤ rows ∧ rows ≤ 8) ∧
      opening.next.rageCollected = feature.rageCollected := by
  have plain : ∃ rows : Nat, (3 : Int) = rows ∧ 3 ≤ rows ∧ rows ≤ 8 := ⟨3, rfl, by omega, by omega⟩
  have table := engine.valid.facts.feature.rows
  simp only [openSpin]
  split
  · exact .pure ⟨plain, rfl⟩
  split
  · refine (pickWeightedInt_ensures lawful table.table).bind ?_
    rintro _ ⟨item, member, rfl⟩
    have bounds := table.rows item member
    exact .pure ⟨⟨item.value.toNat, by simp only; omega, by omega, by omega⟩, rfl⟩
  · exact .pure ⟨plain, rfl⟩

/-- The parts of a settled outcome that the liability bounds. -/
structure SpinWithin (config : Config) (total : Int) : Prop where
  nonneg : 0 ≤ total
  within : total ≤ spinBound config

theorem settle_or (lawful : engine.random.Lawful True) {input : SpinInput}
    (legal : engine.config.bet.minMinor ≤ input.betMinor ∧
      input.betMinor ≤ engine.config.bet.maxMinor)
    (accepted : AcceptedFeature engine.config input.betMinor input.feature) :
    EnsuresOr (SpinRefusal engine.config input.feature) (engine.settle input)
      fun outcome => SpinWithin engine.config outcome.totalWinMinor := by
  have facts := engine.valid.facts
  have liability := engine.valid.liability
  have least := facts.leastBet
  have bound := ConfigFacts.bound engine.valid legal
  have mode : PlayMode input.feature.mode := by
    cases isActive : input.feature.active with
    | false => exact .inl (accepted.base isActive).mode
    | true =>
        rcases (accepted.feature isActive).mode with ⟨expansion, _⟩ | ⟨overdrive, _⟩
        · exact .inr (.inl expansion)
        · exact .inr (.inr overdrive)
  have wheelNonneg : 0 ≤ wheelBound engine.config := mul_nonneg (by omega) liability.wheelNonneg
  have combined : spinBound engine.config ≤ maxInt64 := liability.combined
  unfold spinBound at combined
  simp only [Engine.settle]
  refine (EnsuresOr.of_ensures (openSpin_or lawful input.feature)).bind fun opening opened => ?_
  obtain ⟨⟨rows, tall, least3, most8⟩, meter⟩ := opened
  rw [tall]
  refine (EnsuresOr.of_ensures (generateGrid_ensures lawful least3 most8 mode)).bind
    fun grid generated => ?_
  have settled := generated.settled facts least3 most8
  have height : grid.rowCount = rows := by
    obtain ⟨first, _, _, shape⟩ := List.length_eq_three.mp settled.reels
    rw [Grid.rowCount, shape]
    exact settled.height first (by simp [shape])
  have counted : grid.Settled grid.rowCount := height ▸ settled
  have wilds := generated.wildsWithin facts
  have waysWithin := scaledForm_total_le facts legal counted wilds
  have evaluated := evaluateWaysForBet_bounded facts legal counted wilds
  refine (EnsuresOr.of_ensures (Ensures.known evaluated)).bind ?_
  rintro _ rfl
  have waysNonneg := scaledForm_total_nonneg facts.pays facts.unit (by omega : 0 < input.betMinor)
    settled
  refine ((resolveVaults_or lawful bound settled opening.next).and resolveVaults_extended).bind ?_
  rintro vaults ⟨paid, extended⟩
  have vaultsWithin := bound.vaults _ (vaults_few settled)
  obtain ⟨vaultNonneg, vaultMostPaid⟩ := paid.total
  have sum := safeAdd_ok.mpr ⟨waysNonneg, vaultNonneg, by omega, rfl⟩
  refine (EnsuresOr.of_ensures (Ensures.known sum)).bind ?_
  rintro _ rfl
  cases isActive : input.feature.active with
  | true =>
      simp only [if_true, pure_bind]
      exact .pure ⟨by simp only; omega, by simp only [spinBound]; omega⟩
  | false =>
      have base := (accepted.base isActive).mode
      have kept : vaults.next = opening.next := extended.2 (by rw [base]; decide)
      simp only [Bool.false_eq_true, if_false]
      refine (resolveRage_or lawful ⟨by omega, legal.2⟩ settled paid.symbols
        (generated.base base) (by omega) (by omega) (by rw [kept, meter])).bind
        fun rage within => .pure ?_
      exact ⟨by simp only; omega, by simp only [spinBound]; omega⟩

end Spin

/-- **The liability check covers every spin.**  For an accepted definition and a
legal bet: the ways of any settled grid with the definition's wilds evaluate,
each win and their sum within the checked bound; every vault resolution pays
within the bound of eight vaults; every wheel award fits on top; and a whole spin
ends within the sum of the three, or is refused for a reason that is no award. -/
theorem spin_arithmetic_bounded (config : Config) (bet : Int) (valid : config.Valid)
    (legal : config.validateBet bet = .ok ()) :
    (payingSymbols.map (waysBound config)).sum ≤ maxInt64 ∧ spinBound config ≤ maxInt64 ∧
    (∀ grid : Grid, grid.Settled grid.rowCount →
      WildsWithin grid (maxWildMultiplier config.wildMultipliers) →
      ∃ nominal scaled, evaluateWays grid config.paytable 1 = .ok nominal ∧
        evaluateWaysForBet grid config.paytable bet config.bet.payUnitMinor = .ok scaled ∧
        (∀ win ∈ nominal.wins, win.amountMinor ≤ waysBound config win.symbol ∧
          win.amountMinor * bet ≤ waysBound config win.symbol * config.bet.maxMinor) ∧
        nominal.total ≤ (payingSymbols.map (waysBound config)).sum ∧
        (∀ win ∈ scaled.wins, win.amountMinor ≤ scaledWaysBound config win.symbol) ∧
        scaled.total ≤ (payingSymbols.map (scaledWaysBound config)).sum) ∧
    (∀ {σ : Type} (engine : Engine σ) (input : SpinInput), engine.config = config →
      engine.random.Lawful True → input.betMinor = bet →
      (∀ (grid : Grid) (rows : Nat) (next : FeatureState), grid.Settled rows →
        EnsuresOr (SpinRefusal config input.feature) (engine.resolveVaults grid input next)
          fun vaults => 0 ≤ vaults.total ∧
            vaults.total ≤ config.bet.maxMinor * vaultMost config * maximumVaultsPerSpin) ∧
      (∀ wheel ∈ config.feature.wheel, ∀ state : RageResolution, 0 ≤ state.total →
        state.total + wheelBound config ≤ maxInt64 →
        ∃ result, engine.awardWheel input wheel state = .ok result ∧
          state.total ≤ result.total ∧ result.total ≤ state.total + wheelBound config) ∧
      (validateFeatureState input.feature bet config = .ok () →
        EnsuresOr (SpinRefusal config (canonicalFeatureState input.feature))
          (engine.settle { input with feature := canonicalFeatureState input.feature })
          fun outcome => 0 ≤ outcome.totalWinMinor ∧ outcome.totalWinMinor ≤ spinBound config)) := by
  have facts := valid.facts
  have liability := valid.liability
  have bounds := validateBet_bounds legal
  have least := facts.leastBet
  refine ⟨liability.waysSum, liability.combined, fun grid settled wilds => ?_, ?_⟩
  · have evaluated := (evaluateWays_ok one_pos facts.pays).mpr
      ⟨settled, closedForm_fits facts settled wilds, rfl⟩
    refine ⟨_, _, evaluated, evaluateWaysForBet_bounded facts bounds settled wilds, ?_, ?_, ?_,
      scaledForm_total_le facts bounds settled wilds⟩
    · intro win member
      obtain ⟨symbol, matched, rfl⟩ := List.mem_map.mp member
      obtain ⟨paying, keeps⟩ := List.mem_filter.mp matched
      have pay := facts.pays symbol paying
      exact ⟨waysAward_le settled wilds pay,
        (scaledAward_le_bound facts bounds settled wilds pay (by simpa using keeps)).1⟩
    · exact List.sum_le_sum fun symbol paying => waysAward_le settled wilds (facts.pays symbol paying)
    · intro win member
      obtain ⟨unscaled, inWins, rfl⟩ := List.mem_map.mp member
      obtain ⟨symbol, matched, rfl⟩ := List.mem_map.mp inWins
      obtain ⟨paying, keeps⟩ := List.mem_filter.mp matched
      exact (scaledAward_le_bound facts bounds settled wilds (facts.pays symbol paying)
        (by simpa using keeps)).2
  · rintro σ engine input rfl lawful rfl
    have bound := ConfigFacts.bound engine.valid bounds
    refine ⟨fun grid rows next settled => ?_, fun wheel member state nonneg fits => ?_,
      fun accepted => ?_⟩
    · refine (resolveVaults_or lawful bound settled next).mono fun vaults paid => ?_
      exact ⟨paid.total.1, paid.total.2.trans (bound.vaults _ (vaults_few settled))⟩
    · exact awardWheel_ok ⟨by omega, bounds.2⟩ member nonneg fits
    · let canonical : SpinInput := { input with feature := canonicalFeatureState input.feature }
      have start : AcceptedFeature engine.config canonical.betMinor canonical.feature :=
        validateFeatureState_accepted accepted
      have spun : EnsuresOr (SpinRefusal engine.config canonical.feature)
          (engine.settle canonical) fun outcome =>
            SpinWithin engine.config outcome.totalWinMinor := settle_or lawful bounds start
      exact spun.mono fun outcome within => ⟨within.nonneg, within.within⟩

/-- A source that always picks the first item. -/
def firstSource : Source Unit where
  intn n state := if n ≤ 0 then .error s!"rng: n must be positive: {n}" else .ok (0, state)

theorem firstSource_lawful : firstSource.Lawful True := by
  intro n positive state
  simp only [firstSource, not_le.mpr positive, if_false]
  exact ⟨le_rfl, positive⟩

/-- A first spin of the demonstration definition settles within its bound. -/
theorem demo_arithmetic_bounded :
    let engine : Engine Unit :=
      { config := demoConfig, random := firstSource, valid := demoConfig_valid }
    ∃ outcome state, engine.settle { betMinor := 10, feature := emptyFeatureState } () =
        .ok (outcome, state) ∧ outcome.totalWinMinor ≤ spinBound demoConfig := by
  intro engine
  obtain ⟨_, _, _, spins⟩ :=
    spin_arithmetic_bounded demoConfig 10 demoConfig_valid (by decide +kernel)
  obtain ⟨_, _, settles⟩ := spins engine { betMinor := 10, feature := emptyFeatureState } rfl
    firstSource_lawful rfl
  rcases (settles (by decide +kernel)).result () with
    ⟨outcome, state, ran, within⟩ | ⟨error, _, ⟨_, overflows⟩ | ⟨_, full⟩⟩
  · exact ⟨outcome, state, ran, within.2⟩
  · exact absurd (fun expansion => by cases expansion) overflows
  · exact absurd full (by decide)

end SlotsGame.Game
