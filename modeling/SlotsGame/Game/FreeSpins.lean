/-
# SlotsGame.Game.FreeSpins -- how a feature starts, extends and ends

A free spin uses one spin up and may win more of them, so the remaining count can
rise; the number played, awarded minus remaining, goes up by one each time.  The
facts about the next state are read off the engine, those about the completion
event off the validator, and `played_free_spins` puts both along a whole chain.
-/
import SlotsGame.Game.Runs

namespace SlotsGame.Game

open SlotsGame.Theory FeatureState Engine

set_option autoImplicit false

variable {σ : Type}

/-! ## Accepted feature states -/

/-- A rage meter the definition allows: the level is the one the count has reached. -/
structure Meter (config : Config) (collected level : Int) : Prop where
  nonneg : 0 ≤ collected
  bounded : collected ≤ maxRageCollected
  least : defaultRageLevel ≤ level
  most : level ≤ config.feature.rageLevelThresholds.length
  empty : collected = 0 → level = defaultRageLevel
  reached : 0 < collected → level = rageLevelFor collected config.feature.rageLevelThresholds

/-- How many free spins a feature may have. -/
def AwardLimit (config : Config) (mode : FeatureMode) (awarded : Int) : Prop :=
  (mode = .expansion ∧ awarded ≤ config.feature.maxExpansionSpins) ∨
    (mode = .overdrive ∧ awarded = config.feature.initialFreeSpins)

/-- The counters of an active feature. -/
structure FreeSpinCounters (config : Config) (bet : Int) (state : FeatureState) : Prop where
  mode : AwardLimit config state.mode state.awarded
  sameBet : state.betMinor = bet
  winNonneg : 0 ≤ state.winMinor
  winCapped : state.winMinor ≤ bet * config.maxWinMultiplier
  left : state.remaining ≤ state.awarded
  some : 0 < state.awarded
  bounded : state.awarded ≤ maxFeatureSpins

/-- A base game state carries nothing but the meter. -/
structure NoFreeSpins (state : FeatureState) : Prop where
  mode : state.mode = .none
  remaining : state.remaining = 0
  awarded : state.awarded = 0
  bet : state.betMinor = 0
  win : state.winMinor = 0

/-- What `validateFeatureState` asks of a canonical state. -/
structure AcceptedFeature (config : Config) (bet : Int) (state : FeatureState) : Prop where
  meter : Meter config state.rageCollected state.rageLevel
  base : state.active = false → NoFreeSpins state
  feature : state.active = true → FreeSpinCounters config bet state

theorem canonicalFeatureState_mode (state : FeatureState) :
    (canonicalFeatureState state).mode ≠ .unset := by
  simp only [canonicalFeatureState]
  split
  · decide
  · rename_i set
    exact set

theorem validateFeatureState_accepted {state : FeatureState} {bet : Int} {config : Config}
    (accepted : validateFeatureState state bet config = .ok ()) :
    AcceptedFeature config bet (canonicalFeatureState state) := by
  have noUnset := canonicalFeatureState_mode state
  simp only [validateFeatureState] at accepted
  generalize canonicalFeatureState state = state at accepted noUnset ⊢
  simp only [bind_ok, refuse_ok, exists_unit, not_or, not_lt, not_and, not_not] at accepted
  obtain ⟨⟨nonneg, bounded, least, most⟩, empty, reached, rest⟩ := accepted
  refine ⟨⟨nonneg, bounded, least, most, empty, reached⟩, fun inactive => ?_, fun isActive => ?_⟩
  · rw [if_pos inactive] at rest
    simp only [bind_ok, refuse_ok, exists_unit, not_or, not_not, not_and] at rest
    obtain ⟨mode, remaining, awarded, betZero, win⟩ := rest
    exact ⟨mode noUnset, remaining, awarded, betZero, win⟩
  · rw [if_neg (by simp [isActive])] at rest
    simp only [bind_ok, refuse_ok, exists_unit, relabel_ok, safeMul_ok, not_or, not_lt, not_le,
      not_not, not_and] at rest
    obtain ⟨mode, betSame, winNonneg, _, ⟨_, _, _, rfl⟩, winCapped, ⟨left, some⟩, ⟨_, limit⟩,
      expansion, overdrive⟩ := rest
    refine ⟨?_, betSame, winNonneg, winCapped, left, some, limit⟩
    by_cases isExpansion : state.mode = .expansion
    · exact .inl ⟨isExpansion, expansion isExpansion⟩
    · have isOverdrive := mode isExpansion
      exact .inr ⟨isOverdrive, overdrive isOverdrive⟩

theorem validateFeatureState_of_accepted {state : FeatureState} {bet : Int} {config : Config}
    (fits : safeMul bet config.maxWinMultiplier = .ok (bet * config.maxWinMultiplier))
    (accepted : AcceptedFeature config bet (canonicalFeatureState state)) :
    validateFeatureState state bet config = .ok () := by
  obtain ⟨meter, base, feature⟩ := accepted
  simp only [validateFeatureState]
  generalize canonicalFeatureState state = state at meter base feature ⊢
  simp only [bind_ok, refuse_ok, exists_unit, not_or, not_lt, not_and, not_not]
  refine ⟨⟨meter.nonneg, meter.bounded, meter.least, meter.most⟩, meter.empty, meter.reached, ?_⟩
  cases isActive : state.active with
  | false =>
      have none := base isActive
      simp [none.mode, none.remaining, none.awarded, none.bet, none.win, bind_ok]
  | true =>
      have counters := feature isActive
      have limit := counters.bounded
      have left := counters.left
      simp only [Bool.true_eq_false, if_false, bind_ok, refuse_ok, exists_unit, relabel_ok, fits,
        Except.ok.injEq, exists_eq_left', not_or, not_lt, not_le, not_not, not_and]
      refine ⟨?_, counters.sameBet, counters.winNonneg, counters.winCapped, ⟨left, counters.some⟩,
        ⟨by omega, limit⟩, ?_, ?_⟩
      · rcases counters.mode with ⟨mode, _⟩ | ⟨mode, _⟩ <;> simp [mode]
      · rcases counters.mode with ⟨mode, most⟩ | ⟨mode, _⟩ <;> simp [*]
      · rcases counters.mode with ⟨mode, _⟩ | ⟨mode, same⟩ <;> simp [*]

/-! ## Vaults extend a feature -/

/-- More free spins, up to the limit of the definition. -/
def Extended (config : Config) (before after : FeatureState) : Prop :=
  ∃ extra : Int, 0 ≤ extra ∧
    after = { before with
              remaining := before.remaining + extra
              awarded := before.awarded + extra } ∧
    (0 < extra → after.awarded ≤ config.feature.maxExpansionSpins)

theorem Extended.refl {config : Config} (state : FeatureState) : Extended config state state :=
  ⟨0, le_rfl, by simp, fun positive => absurd positive (lt_irrefl 0)⟩

theorem Extended.step {config : Config} {before state : FeatureState}
    (extended : Extended config before state)
    (room : state.awarded < config.feature.maxExpansionSpins) :
    Extended config before
      { state with remaining := state.remaining + 1, awarded := state.awarded + 1 } := by
  obtain ⟨extra, nonneg, rfl, _⟩ := extended
  refine ⟨extra + 1, by omega, ?_, fun _ => ?_⟩
  · simp only [FeatureState.mk.injEq, true_and, and_true]
    omega
  · show before.awarded + extra + 1 ≤ config.feature.maxExpansionSpins
    have : before.awarded + extra < config.feature.maxExpansionSpins := room
    omega

/-- Only Kong Quest's vaults win free spins. -/
def ExtendedIn (config : Config) (mode : FeatureMode) (before after : FeatureState) : Prop :=
  Extended config before after ∧ (mode ≠ .expansion → after = before)

section Engine

variable {engine : Engine σ}

theorem pickVaultReward_freeSpin {random : Source σ} {config : Config} {allowFreeSpin : Bool} :
    Ensures False (pickVaultReward random config allowFreeSpin) fun reward =>
      reward = .freeSpin → allowFreeSpin = true := by
  simp only [pickVaultReward]
  refine Ensures.any.bind fun total _ => Ensures.any.bind fun _ _ =>
    Ensures.any.bind fun pick _ => ?_
  split
  · refine .pure ?_
    intro won
    cases won
  split
  · rename_i allowed
    exact .pure fun _ => allowed.1
  · exact .throw not_false

theorem unlockVault_extended {input : SpinInput} {before : FeatureState} {state : VaultResolution}
    {position : Position} (extended : ExtendedIn engine.config input.feature.mode before state.next) :
    Ensures False (engine.unlockVault input state position) fun result =>
      ExtendedIn engine.config input.feature.mode before result.next := by
  simp only [Engine.unlockVault]
  refine pickVaultReward_freeSpin.bind fun reward allowed => ?_
  cases reward with
  | multiplier multiplier =>
      exact Ensures.any.bind fun award _ => Ensures.any.bind fun total _ => .pure extended
  | freeSpin =>
      have expansion : input.feature.mode = .expansion := of_decide_eq_true (allowed rfl)
      simp only
      split
      · rename_i room
        exact .pure ⟨extended.1.step room, fun other => absurd expansion other⟩
      · exact .pure extended

theorem resolveVaults_extended {grid : Grid} {input : SpinInput} {next : FeatureState} :
    Ensures False (engine.resolveVaults grid input next) fun result =>
      ExtendedIn engine.config input.feature.mode next result.next := by
  have unchanged : ExtendedIn engine.config input.feature.mode next next :=
    ⟨.refl next, fun _ => rfl⟩
  simp only [Engine.resolveVaults]
  split
  · exact .pure unchanged
  split
  · exact Ensures.any.bind fun payout _ => .pure unchanged
  refine Ensures.any.bind fun unlocked _ => ?_
  split
  · exact .pure unchanged
  refine (Ensures.foldlM (fun _ (resolved : VaultResolution) =>
    ExtendedIn engine.config input.feature.mode next resolved.next) unchanged ?_).bind
      fun resolved extended => .pure extended
  intro _ position state _ extended
  exact unlockVault_extended extended

end Engine

/-! ## The meter and the wheel start a feature -/

theorem rageLevelFor_bounds {collected : Int} (positive : 0 < collected) {thresholds : List Int}
    (some : 1 ≤ thresholds.length) :
    1 ≤ rageLevelFor collected thresholds ∧
      rageLevelFor collected thresholds ≤ thresholds.length := by
  have general : ∀ (entries : List (Int × Nat)) (level : Int),
      (∀ entry ∈ entries, entry.2 < thresholds.length) →
      1 ≤ level ∧ level ≤ thresholds.length →
      1 ≤ entries.foldl (fun level entry =>
          if collected ≥ entry.1 then (entry.2 : Int) + 1 else level) level ∧
        entries.foldl (fun level entry =>
          if collected ≥ entry.1 then (entry.2 : Int) + 1 else level) level ≤
            thresholds.length := by
    intro entries
    induction entries with
    | nil => exact fun level _ inside => inside
    | cons entry rest ih =>
        intro level indexes inside
        refine ih _ (fun e member => indexes e (by simp [member])) ?_
        have index := indexes entry (by simp)
        simp only
        split
        · omega
        · exact inside
  rw [rageLevelFor, if_neg (by omega)]
  refine general _ 1 (fun entry member => ?_) (by omega)
  have found := List.mk_mem_zipIdx_iff_getElem?.mp (show (entry.1, entry.2) ∈ _ from member)
  exact (List.getElem?_eq_some_iff.mp found).1

/-- The meter after a reset. -/
theorem Meter.reset {config : Config} (some : 1 ≤ config.feature.rageLevelThresholds.length) :
    Meter config 0 defaultRageLevel where
  nonneg := le_rfl
  bounded := by decide
  least := le_rfl
  most := by simp only [defaultRageLevel]; omega
  empty _ := rfl
  reached positive := absurd positive (lt_irrefl 0)

/-- What a base spin leaves: nothing, or a feature that starts with the next spin. -/
structure BaseNext (config : Config) (bet : Int) (after : FeatureState) : Prop where
  meter : Meter config after.rageCollected after.rageLevel
  started : NoFreeSpins after ∨
    ((after.mode = .expansion ∨ after.mode = .overdrive) ∧
      after.remaining = config.feature.initialFreeSpins ∧
      after.awarded = config.feature.initialFreeSpins ∧
      after.betMinor = bet ∧ after.winMinor = 0)

section Rage

variable {engine : Engine σ}

theorem creditRage_meter {surgeCount : Nat} {next after : FeatureState} (some : 0 < surgeCount)
    (none : NoFreeSpins next) (meter : Meter engine.config next.rageCollected next.rageLevel)
    (credited : engine.creditRage surgeCount next = .ok after) :
    NoFreeSpins after ∧ Meter engine.config after.rageCollected after.rageLevel := by
  simp only [creditRage, bind_ok, refuse_ok, exists_unit, pure_ok, not_lt] at credited
  obtain ⟨fits, rfl⟩ := credited
  have nonneg := meter.nonneg
  have positive : 0 < next.rageCollected + surgeCount := by omega
  have level := rageLevelFor_bounds positive engine.valid.facts.feature.thresholds
  refine ⟨⟨none.mode, none.remaining, none.awarded, none.bet, none.win⟩, ?_⟩
  exact
    { nonneg := positive.le
      bounded := by simp only; omega
      least := level.1
      most := level.2
      empty := fun zero => absurd zero positive.ne'
      reached := fun _ => rfl }

theorem awardWheel_next {input : SpinInput} {wheel : WeightedWheel} {state result : RageResolution}
    (awarded : engine.awardWheel input wheel state = .ok result) (none : NoFreeSpins state.next)
    (meter : Meter engine.config state.next.rageCollected state.next.rageLevel) :
    BaseNext engine.config input.betMinor result.next := by
  simp only [awardWheel] at awarded
  split at awarded
  · simp only [bind_ok, pure_ok] at awarded
    obtain ⟨_, _, _, _, rfl⟩ := awarded
    exact ⟨meter, .inl none⟩
  · rename_i kind
    simp only [pure_ok, kind] at awarded
    obtain rfl := awarded
    exact ⟨meter, .inr ⟨.inl rfl, rfl, rfl, rfl, rfl⟩⟩
  · rename_i kind
    simp only [pure_ok, kind] at awarded
    obtain rfl := awarded
    exact ⟨meter, .inr ⟨.inr rfl, rfl, rfl, rfl, rfl⟩⟩
  · cases awarded

theorem resolveRage_next {grid : Grid} {input : SpinInput} {total : Int} {next : FeatureState}
    (none : NoFreeSpins next) (meter : Meter engine.config next.rageCollected next.rageLevel) :
    Ensures False (engine.resolveRage grid input total next) fun result =>
      BaseNext engine.config input.betMinor result.next := by
  simp only [resolveRage]
  refine Ensures.any.bind fun triggered _ => ?_
  -- the meter after the surges are credited
  have credit : Ensures False
      (if 0 < (positionsForSymbol grid .surge).length ∧ (positionsForSymbol grid .surge).length < 3
        then liftM (engine.creditRage (positionsForSymbol grid .surge).length next)
        else pure next : Random σ FeatureState)
      fun after => NoFreeSpins after ∧ Meter engine.config after.rageCollected after.rageLevel := by
    split
    · rename_i few
      exact .lift _ (fun after credited => creditRage_meter few.1 none meter credited) nofun
    · exact .pure ⟨none, meter⟩
  refine credit.bind fun credited after => ?_
  split
  · exact .pure ⟨after.2, .inl after.1⟩
  refine Ensures.bind (?_ : Ensures False _ fun (state : RageResolution) =>
    NoFreeSpins state.next ∧ Meter engine.config state.next.rageCollected state.next.rageLevel)
      fun state settled => Ensures.any.bind fun wheel _ =>
        .lift _ (fun result awarded => awardWheel_next awarded settled.1 settled.2) nofun
  split
  · simp only [transformRage]
    refine Ensures.any.bind fun transformed _ => .pure ?_
    have reset := Meter.reset engine.valid.facts.feature.thresholds
    exact ⟨⟨after.1.mode, after.1.remaining, after.1.awarded, after.1.bet, after.1.win⟩, reset⟩
  · exact .pure after

end Rage

/-! ## One spin -/

/-- A free spin plays one spin and wins `extra` more. -/
structure FreeSpinPlayed (config : Config) (feature : FeatureState) (extra : Int)
    (outcome : SpinOutcome) : Prop where
  nonneg : 0 ≤ extra
  limit : 0 < extra → feature.mode = .expansion ∧
    feature.awarded + extra ≤ config.feature.maxExpansionSpins
  goesOn : feature.remaining - 1 + extra ≠ 0 → ∃ win, outcome.nextFeature =
    { feature with
      remaining := feature.remaining - 1 + extra
      awarded := feature.awarded + extra
      winMinor := win }
  ends : feature.remaining - 1 + extra = 0 → outcome.nextFeature = feature.withoutFreeSpins ∧
    ∃ events win, outcome.events = events ++
      [completedEvent feature.mode (feature.awarded + extra) win]

/-- What the engine leaves behind, from a canonical state. -/
structure SpinNext (config : Config) (bet : Int) (feature : FeatureState)
    (outcome : SpinOutcome) : Prop where
  base : feature.active = false → ∃ raw, BaseNext config bet raw ∧ ∃ win,
    outcome.nextFeature = if raw.active then { raw with winMinor := win } else raw
  free : feature.active = true → ∃ extra, FreeSpinPlayed config feature extra outcome

theorem applyWinCap_settles {config : Config} {input : SpinInput} {outcome capped : SpinOutcome}
    (applied : applyWinCap config input outcome = .ok capped) :
    ∃ wins events totalPaid cycleWin, capped =
      settleFeature (canonicalFeatureState input.feature) totalPaid cycleWin
        { outcome with wins := wins, events := events, totalWinMinor := totalPaid } := by
  simp only [applyWinCap, bind_ok, refuse_ok, exists_unit, pure_ok] at applied
  obtain ⟨_, _, _, _, clipped, _, cycleWin, _, rfl⟩ := applied
  exact ⟨_, _, clipped.totalPaid, cycleWin, rfl⟩

/-! A canonical state passes through `settleFeature` in one of three ways. -/

section Settle

variable {feature : FeatureState} {totalPaid cycleWin : Int} {outcome : SpinOutcome}

theorem settleFeature_base (inactive : feature.active = false) :
    (settleFeature feature totalPaid cycleWin outcome).nextFeature =
      if outcome.nextFeature.active then { outcome.nextFeature with winMinor := totalPaid }
      else outcome.nextFeature := by
  simp only [settleFeature, inactive, Bool.false_eq_true, if_false]
  split <;> rfl

theorem settleFeature_goesOn (isActive : feature.active = true)
    (left : outcome.nextFeature.remaining ≠ 0) :
    settleFeature feature totalPaid cycleWin outcome =
      { outcome with nextFeature := { outcome.nextFeature with winMinor := cycleWin } } := by
  simp only [settleFeature, isActive, if_true, left, if_false]

theorem settleFeature_ends (isActive : feature.active = true)
    (spent : outcome.nextFeature.remaining = 0) :
    settleFeature feature totalPaid cycleWin outcome =
      { outcome with
        events := outcome.events ++
          [completedEvent feature.mode outcome.nextFeature.awarded cycleWin]
        nextFeature := outcome.nextFeature.withoutFreeSpins } := by
  simp only [settleFeature, isActive, if_true, spent]

end Settle

/-- The free spin before the cap, and the state after it. -/
theorem FreeSpinPlayed.of_extended {config : Config} {feature : FeatureState}
    {totalPaid cycleWin : Int} {outcome : SpinOutcome} (isActive : feature.active = true)
    (extended : ExtendedIn config feature.mode
      { feature with remaining := feature.remaining - 1 } outcome.nextFeature) :
    ∃ extra, FreeSpinPlayed config feature extra
      (settleFeature feature totalPaid cycleWin outcome) := by
  obtain ⟨⟨extra, nonneg, same, limit⟩, plain⟩ := extended
  have remaining : outcome.nextFeature.remaining = feature.remaining - 1 + extra := by rw [same]
  have awarded : outcome.nextFeature.awarded = feature.awarded + extra := by rw [same]
  refine ⟨extra, nonneg, fun positive => ⟨?_, ?_⟩, fun left => ?_, fun spent => ?_⟩
  · by_contra other
    have unchanged : outcome.nextFeature.remaining = feature.remaining - 1 := by rw [plain other]
    omega
  · rw [← awarded]
    exact limit positive
  · rw [settleFeature_goesOn isActive (by rwa [remaining])]
    exact ⟨cycleWin, by simp only [same]⟩
  · rw [settleFeature_ends isActive (by rwa [remaining])]
    refine ⟨by simp only [same, withoutFreeSpins], outcome.events, cycleWin, ?_⟩
    simp only [awarded]

section Spin

variable (engine : Engine σ)

theorem openSpin_next {feature : FeatureState} :
    Ensures False (engine.openSpin feature) fun opening =>
      opening.next = if feature.active = false then feature.withoutFreeSpins
        else { feature with remaining := feature.remaining - 1 } := by
  simp only [openSpin]
  split
  · exact .pure rfl
  split
  · exact Ensures.any.bind fun rows _ => .pure rfl
  · exact .pure rfl

theorem settle_base (input : SpinInput) (inactive : input.feature.active = false)
    (accepted : AcceptedFeature engine.config input.betMinor input.feature) :
    Ensures False (engine.settle input) fun outcome =>
      BaseNext engine.config input.betMinor outcome.nextFeature := by
  have none := accepted.base inactive
  simp only [Engine.settle]
  refine (openSpin_next engine).bind fun opening opened => ?_
  rw [if_pos inactive] at opened
  refine Ensures.any.bind fun grid _ => Ensures.any.bind fun ways _ => ?_
  refine resolveVaults_extended.bind fun vaults extended => Ensures.any.bind fun total _ => ?_
  have kept : vaults.next = input.feature.withoutFreeSpins := by
    rw [extended.2 (by rw [none.mode]; decide), opened]
  have meter : Meter engine.config vaults.next.rageCollected vaults.next.rageLevel := by
    rw [kept]
    simp only [withoutFreeSpins]
    split
    · rename_i zero
      rw [zero]
      exact Meter.reset engine.valid.facts.feature.thresholds
    · exact accepted.meter
  rw [inactive]
  simp only [Bool.false_eq_true, if_false]
  exact (resolveRage_next ⟨by rw [kept]; rfl, by rw [kept]; rfl, by rw [kept]; rfl,
    by rw [kept]; rfl, by rw [kept]; rfl⟩ meter).bind fun rage next => .pure next

theorem settle_free (input : SpinInput) (isActive : input.feature.active = true) :
    Ensures False (engine.settle input) fun outcome =>
      ExtendedIn engine.config input.feature.mode
        { input.feature with remaining := input.feature.remaining - 1 } outcome.nextFeature := by
  simp only [Engine.settle]
  refine (openSpin_next engine).bind fun opening opened => ?_
  rw [if_neg (by simp [isActive])] at opened
  refine Ensures.any.bind fun grid _ => Ensures.any.bind fun ways _ => ?_
  refine resolveVaults_extended.bind fun vaults extended => Ensures.any.bind fun total _ => ?_
  rw [opened] at extended
  rw [isActive]
  simp only [if_true, pure_bind]
  exact .pure extended

theorem produce_next (input : SpinInput)
    (accepted : validateFeatureState input.feature input.betMinor engine.config = .ok ()) :
    Ensures False (engine.produce input) fun outcome =>
      SpinNext engine.config input.betMinor (canonicalFeatureState input.feature) outcome := by
  have start := validateFeatureState_accepted accepted
  simp only [produce]
  cases isActive : (canonicalFeatureState input.feature).active with
  | false =>
      refine (settle_base engine { input with feature := canonicalFeatureState input.feature }
        isActive start).bind fun raw next => .lift _ (fun outcome applied => ?_) nofun
      obtain ⟨_, _, totalPaid, _, rfl⟩ := applyWinCap_settles applied
      rw [canonicalFeatureState_idem]
      refine ⟨fun _ => ⟨raw.nextFeature, next, totalPaid, settleFeature_base isActive⟩, ?_⟩
      simp [isActive]
  | true =>
      refine (settle_free engine { input with feature := canonicalFeatureState input.feature }
        isActive).bind fun raw extended => .lift _ (fun outcome applied => ?_) nofun
      obtain ⟨_, _, _, _, rfl⟩ := applyWinCap_settles applied
      rw [canonicalFeatureState_idem]
      exact ⟨by simp [isActive], fun _ => FreeSpinPlayed.of_extended isActive extended⟩

end Spin

/-! ## A chain of spins -/

/-- The completion events of a spin, by what the state was and became. -/
theorem validateFeatureCompletion_completed {feature : FeatureState} {outcome : SpinOutcome}
    (accepted : validateFeatureCompletion feature outcome = .ok ()) :
    eventIndexes outcome.events .freeSpinsCompleted =
      if feature.active = true ∧ outcome.nextFeature.active = false then
        [outcome.events.length - 1]
      else [] := by
  simp only [validateFeatureCompletion] at accepted
  split at accepted
  · rename_i inactive
    simp only [bind_ok, refuse_ok, exists_unit, not_not] at accepted
    simp [inactive, accepted.1]
  rename_i isActive
  rw [Bool.not_eq_false] at isActive
  simp only [bind_ok, refuse_ok, exists_unit] at accepted
  obtain ⟨_, _, _, _, _, rest⟩ := accepted
  split at rest
  · rename_i goesOn
    simp only [refuse_ok, not_or, not_not] at rest
    simp [goesOn, rest.1]
  · rename_i ends
    rw [Bool.not_eq_true] at ends
    simp only [bind_ok, refuse_ok, exists_unit, not_or, not_not] at rest
    simp [isActive, ends, rest.1.2]

/-- What a returned spin says of the feature. -/
structure SpunFeature (config : Config) (bet : Int) (feature : FeatureState)
    (outcome : SpinOutcome) : Prop where
  legal : config.validateBet bet = .ok ()
  before : AcceptedFeature config bet feature
  next : SpinNext config bet feature outcome
  completed : eventIndexes outcome.events .freeSpinsCompleted =
    if feature.active = true ∧ outcome.nextFeature.active = false then
      [outcome.events.length - 1]
    else []

theorem spin_feature {engine : Engine σ} {input : SpinInput} {outcome : SpinOutcome} {s s' : σ}
    (spun : engine.spin input s = .ok (outcome, s')) :
    SpunFeature engine.config input.betMinor (canonicalFeatureState input.feature) outcome := by
  obtain ⟨legal, feature, produced, accepted⟩ := spin_ok.mp spun
  obtain ⟨_, structured, _⟩ := validateOutcomeAgainstValidatedConfig_ok.mp accepted
  obtain ⟨_, _, _, _, _, _, _, ordered⟩ := validateOutcomeStructure_ok.mp structured
  obtain ⟨_, _, _, _, completion⟩ := validateFeatureEventOrder_ok.mp ordered
  rw [canonicalFeatureState_idem] at completion
  exact ⟨legal, validateFeatureState_accepted feature, (produce_next engine input feature).of_ok produced,
    validateFeatureCompletion_completed completion⟩

/-- The game `before ++ [last]` is over: the last free spin, if any was played,
has the one completion event, and it reports the number of free spins. -/
structure GameOver (config : Config) (before : List SpinOutcome) (last : SpinOutcome) : Prop where
  earlier : ∀ spin ∈ before, eventIndexes spin.events .freeSpinsCompleted = []
  baseOnly : before = [] → eventIndexes last.events .freeSpinsCompleted = []
  once : before ≠ [] → ∃ (events : List Event) (event : Event), last.events = events ++ [event] ∧
    eventIndexes last.events .freeSpinsCompleted = [events.length] ∧
    event.awarded = before.length ∧ AwardLimit config event.mode event.awarded

/-- What holds after every spin of a game. -/
structure GameInvariant (config : Config) (bet : Int) (before : List SpinOutcome)
    (last : SpinOutcome) : Prop where
  legal : config.validateBet bet = .ok ()
  canonical : last.nextFeature.mode ≠ .unset
  accepted : AcceptedFeature config bet last.nextFeature
  running : last.nextFeature.active = true →
    last.nextFeature.awarded - last.nextFeature.remaining = before.length ∧
      ∀ spin ∈ before ++ [last], eventIndexes spin.events .freeSpinsCompleted = []
  finished : last.nextFeature.active = false → GameOver config before last
  earlier : ∀ spin ∈ before, spin.nextFeature.active = true ∧
    spin.nextFeature.rageLevel = last.nextFeature.rageLevel ∧
    spin.nextFeature.rageCollected = last.nextFeature.rageCollected

theorem canonicalFeatureState_of_level {state : FeatureState} (mode : state.mode ≠ .unset)
    (least : defaultRageLevel ≤ state.rageLevel) : canonicalFeatureState state = state := by
  have level : state.rageLevel ≠ 0 := by
    simp only [defaultRageLevel] at least
    omega
  simp [canonicalFeatureState, mode, level]

theorem canonicalFeatureState_of_meter {config : Config} {state : FeatureState}
    (mode : state.mode ≠ .unset) (meter : Meter config state.rageCollected state.rageLevel) :
    canonicalFeatureState state = state :=
  canonicalFeatureState_of_level mode meter.least

theorem NoFreeSpins.ended {state : FeatureState} (none : NoFreeSpins state) :
    state.active = false := by
  simp [active, none.mode]

theorem AwardLimit.active {config : Config} {state : FeatureState}
    (limit : AwardLimit config state.mode state.awarded) (left : 0 < state.remaining) :
    state.active = true := by
  rcases limit with ⟨mode, _⟩ | ⟨mode, _⟩ <;> simp [FeatureState.active, mode, left]

theorem AwardLimit.set {config : Config} {mode : FeatureMode} {awarded : Int}
    (limit : AwardLimit config mode awarded) : mode ≠ .unset := by
  rcases limit with ⟨rfl, _⟩ | ⟨rfl, _⟩ <;> decide

/-- Free spins won in Kong Quest stay within the limit. -/
theorem FreeSpinPlayed.awardLimit {config : Config} {feature : FeatureState} {extra : Int}
    {outcome : SpinOutcome} (played : FreeSpinPlayed config feature extra outcome)
    (limit : AwardLimit config feature.mode feature.awarded) :
    AwardLimit config feature.mode (feature.awarded + extra) := by
  rcases played.nonneg.eq_or_lt with none | positive
  · rw [← none, add_zero]
    exact limit
  · exact .inl (played.limit positive)

theorem AwardLimit.bounded {config : Config} {mode : FeatureMode} {awarded : Int}
    (facts : FeatureFacts config.feature) (limit : AwardLimit config mode awarded) :
    awarded ≤ config.feature.maxExpansionSpins ∧ awarded ≤ maxFeatureSpins := by
  have initial := facts.initial
  have least := facts.leastSpins
  have most := facts.mostSpins
  rcases limit with ⟨_, limit⟩ | ⟨_, same⟩ <;> omega

/-- A base spin opens a game. -/
theorem SpunFeature.opens {config : Config} {bet : Int} {feature : FeatureState}
    {outcome : SpinOutcome} (spun : SpunFeature config bet feature outcome)
    (facts : FeatureFacts config.feature) (inactive : feature.active = false)
    (win : outcome.nextFeature.active = true → 0 ≤ outcome.nextFeature.winMinor ∧
      outcome.nextFeature.winMinor ≤ bet * config.maxWinMultiplier) :
    GameInvariant config bet [] outcome := by
  have none : eventIndexes outcome.events .freeSpinsCompleted = [] := by
    simp [spun.completed, inactive]
  have finished : GameOver config [] outcome := ⟨by simp, fun _ => none, fun some => absurd rfl some⟩
  have initial := facts.initial
  have least := facts.leastSpins
  obtain ⟨raw, ⟨meter, started⟩, paid, same⟩ := spun.next.base inactive
  rcases started with empty | ⟨mode, remaining, awarded, sameBet, _⟩
  · -- no feature
    have next : outcome.nextFeature = raw := by rw [same, if_neg (by simp [empty.ended])]
    have ended : outcome.nextFeature.active = false := by rw [next, empty.ended]
    rw [← next] at meter empty
    refine ⟨spun.legal, by rw [empty.mode]; decide, ⟨meter, fun _ => empty, fun isActive => ?_⟩,
      fun isActive => ?_, fun _ => finished, by simp⟩
    all_goals
      rw [ended] at isActive
      cases isActive
  · -- a feature starts
    have limit : AwardLimit config raw.mode raw.awarded := by
      rcases mode with mode | mode
      · exact .inl ⟨mode, by omega⟩
      · exact .inr ⟨mode, awarded⟩
    have rawActive : raw.active = true := limit.active (by omega)
    have next : outcome.nextFeature = { raw with winMinor := paid } := by rw [same, if_pos rawActive]
    have isActive : outcome.nextFeature.active = true := by rw [next]; exact rawActive
    have winBounds := win isActive
    have bounded := limit.bounded facts
    rw [next] at winBounds
    refine ⟨spun.legal, by rw [next]; exact limit.set,
      ⟨by rw [next]; exact meter, fun ended => ?_, fun _ => ?_⟩,
      fun _ => ⟨?_, by simpa using none⟩, fun _ => finished, by simp⟩
    · rw [isActive] at ended
      cases ended
    · rw [next]
      exact ⟨limit, sameBet, winBounds.1, winBounds.2, by simp only; omega, by simp only; omega,
        bounded.2⟩
    · rw [next]
      simp only [List.length_nil]
      omega

/-- The end of a feature leaves the meter as it is. -/
theorem Meter.withoutFreeSpins {config : Config} {state : FeatureState}
    (meter : Meter config state.rageCollected state.rageLevel) :
    state.withoutFreeSpins.rageLevel = state.rageLevel := by
  simp only [FeatureState.withoutFreeSpins]
  split
  · rename_i zero
    rw [meter.empty zero]
  · rfl

/-- An engine leaves its states in one spelling. -/
theorem SpunFeature.canonical {config : Config} {bet : Int} {feature : FeatureState}
    {outcome : SpinOutcome} (spun : SpunFeature config bet feature outcome) :
    canonicalFeatureState outcome.nextFeature = outcome.nextFeature := by
  cases isActive : feature.active with
  | false =>
      obtain ⟨raw, ⟨meter, started⟩, win, same⟩ := spun.next.base isActive
      have mode : raw.mode ≠ .unset := by
        rcases started with empty | ⟨mode | mode, _⟩
        · simp [empty.mode]
        · simp [mode]
        · simp [mode]
      rw [same]
      split
      · exact canonicalFeatureState_of_level mode meter.least
      · exact canonicalFeatureState_of_meter mode meter
  | true =>
      obtain ⟨extra, played⟩ := spun.next.free isActive
      have meter := spun.before.meter
      by_cases spent : feature.remaining - 1 + extra = 0
      · rw [(played.ends spent).1]
        refine canonicalFeatureState_of_level (by simp [withoutFreeSpins]) ?_
        rw [Meter.withoutFreeSpins meter]
        exact meter.least
      · obtain ⟨win, next⟩ := played.goesOn spent
        rw [next]
        exact canonicalFeatureState_of_level (spun.before.feature isActive).mode.set meter.least
/-- A free spin continues the game of the spin before it. -/
theorem SpunFeature.continues {config : Config} {bet : Int} {before : List SpinOutcome}
    {prev outcome : SpinOutcome} (game : GameInvariant config bet before prev)
    (facts : FeatureFacts config.feature) (spun : SpunFeature config bet prev.nextFeature outcome)
    (isActive : prev.nextFeature.active = true)
    (win : outcome.nextFeature.active = true → 0 ≤ outcome.nextFeature.winMinor ∧
      outcome.nextFeature.winMinor ≤ bet * config.maxWinMultiplier) :
    GameInvariant config bet (before ++ [prev]) outcome := by
  obtain ⟨extra, played⟩ := spun.next.free isActive
  obtain ⟨count, none⟩ := game.running isActive
  have counters := game.accepted.feature isActive
  have meter := game.accepted.meter
  have limit := played.awardLimit counters.mode
  have bounded := limit.bounded facts
  have nonneg := played.nonneg
  have left := counters.left
  have some : 0 < prev.nextFeature.remaining := by
    simp only [active, Bool.and_eq_true, decide_eq_true_eq] at isActive
    exact isActive.2
  have length : ((before ++ [prev]).length : Int) = before.length + 1 := by simp
  -- every earlier spin of the game has the meter of the new state
  have earlier : outcome.nextFeature.rageLevel = prev.nextFeature.rageLevel →
      outcome.nextFeature.rageCollected = prev.nextFeature.rageCollected →
      ∀ spin ∈ before ++ [prev], spin.nextFeature.active = true ∧
        spin.nextFeature.rageLevel = outcome.nextFeature.rageLevel ∧
        spin.nextFeature.rageCollected = outcome.nextFeature.rageCollected := by
    intro level collected spin member
    rw [level, collected]
    rcases List.mem_append.mp member with old | new
    · exact game.earlier spin old
    · rw [List.mem_singleton.mp new]
      exact ⟨isActive, rfl, rfl⟩
  by_cases spent : prev.nextFeature.remaining - 1 + extra = 0
  · -- the last free spin
    obtain ⟨next, events, cycleWin, same⟩ := played.ends spent
    have empty : NoFreeSpins outcome.nextFeature := by
      rw [next]
      exact ⟨rfl, rfl, rfl, rfl, rfl⟩
    have ended := empty.ended
    have level : outcome.nextFeature.rageLevel = prev.nextFeature.rageLevel := by
      rw [next, meter.withoutFreeSpins]
    have collected : outcome.nextFeature.rageCollected = prev.nextFeature.rageCollected := by
      rw [next, withoutFreeSpins]
    refine ⟨spun.legal, by rw [empty.mode]; decide, ⟨by rwa [level, collected], fun _ => empty, ?_⟩, ?_,
      fun _ => ⟨none, by simp, fun _ => ⟨events, _, same, ?_, ?_, limit⟩⟩,
      earlier level collected⟩
    · simp [ended]
    · simp [ended]
    · rw [spun.completed, if_pos ⟨isActive, ended⟩, same]
      simp
    · rw [length]
      simp only [completedEvent]
      omega
  · -- the feature goes on
    obtain ⟨cycleWin, next⟩ := played.goesOn spent
    have goesOn : outcome.nextFeature.active = true := by
      rw [next]
      exact AwardLimit.active limit (show 0 < prev.nextFeature.remaining - 1 + extra by omega)
    have winBounds := win goesOn
    rw [next] at winBounds
    refine ⟨spun.legal, by rw [next]; exact limit.set,
      ⟨by rw [next]; exact meter, by simp [goesOn], fun _ => ?_⟩, fun _ => ⟨?_, ?_⟩,
      by simp [goesOn], earlier (by rw [next]) (by rw [next])⟩
    · rw [next]
      exact ⟨limit, counters.sameBet, winBounds.1, winBounds.2, by simp only; omega,
        by simp only; omega, bounded.2⟩
    · rw [next, length]
      simp only
      omega
    · intro spin member
      rcases List.mem_append.mp member with old | new
      · exact none spin old
      · rw [List.mem_singleton.mp new, spun.completed, if_neg (by simp [goesOn])]

/-- The states of a chain that has played: the invariant of its game. -/
def ChainInvariant (config : Config) (bet : Int) (state : ChainState) : Prop :=
  ∀ before last, state.game = before ++ [last] →
    state.feature = last.nextFeature ∧ GameInvariant config bet before last

/-- The win a running feature carries is within the cap. -/
theorem CapInvariant.win_bounds {bet cap : Int} (before : List SpinOutcome)
    {outcome : SpinOutcome} (capNonneg : 0 ≤ cap)
    (holds : CapInvariant bet cap
      { feature := outcome.nextFeature, game := before ++ [outcome] })
    (isActive : outcome.nextFeature.active = true) :
    0 ≤ outcome.nextFeature.winMinor ∧ outcome.nextFeature.winMinor ≤ cap := by
  obtain ⟨_, canonical⟩ := holds.next outcome (by simp)
  have paid := holds.paid (by simp)
  have rawNonneg := holds.rawNonneg
  have carried : outcome.nextFeature.winMinor = paidTotal (before ++ [outcome]) :=
    (holds.carried (canonical.trans isActive)).2
  rw [carried, paid]
  exact ⟨le_min rawNonneg capNonneg, min_le_right _ _⟩

theorem ChainInvariant.snoc {config : Config} {bet : Int} {game : List SpinOutcome}
    {outcome : SpinOutcome} (holds : GameInvariant config bet game outcome) :
    ChainInvariant config bet { feature := outcome.nextFeature, game := game ++ [outcome] } := by
  intro before last same
  obtain ⟨rfl, singleton⟩ := List.append_inj' same rfl
  obtain rfl : outcome = last := by simpa using singleton
  exact ⟨rfl, holds⟩

theorem spinStep_gameInvariant {engine : Engine σ} {bet : Int} {state after : ChainState}
    (played : Played engine bet state) (holds : ChainInvariant engine.config bet state)
    (step : SpinStep engine bet state after) : ChainInvariant engine.config bet after := by
  have capped := played_capInvariant (played.next step)
  have facts := engine.valid.facts
  cases step with
  | base inactive spun =>
      have spin := spin_feature spun
      exact .snoc (spin.opens facts.feature inactive
        (CapInvariant.win_bounds [] (facts.capMinor spin.legal).2 capped))
  | free isActive spun =>
      have spin := spin_feature spun
      obtain ⟨started, _⟩ := (played_capInvariant played).carried isActive
      obtain ⟨before, prev, played⟩ := (List.eq_nil_or_concat' _).resolve_left started
      obtain ⟨same, game⟩ := holds before prev played
      simp only [same, played,
        canonicalFeatureState_of_meter game.canonical game.accepted.meter] at isActive spin capped ⊢
      exact .snoc (spin.continues game facts.feature isActive
        (CapInvariant.win_bounds _ (facts.capMinor spin.legal).2 capped))

theorem played_gameInvariant {engine : Engine σ} {bet : Int} {state : ChainState}
    (played : Played engine bet state) : ChainInvariant engine.config bet state := by
  refine Reachable.invariant (ChainInvariant engine.config bet) (fun state base => ?_)
    (fun state after reached holds step => spinStep_gameInvariant reached holds step) played
  intro before last same
  rw [base.2] at same
  simp at same

/-- **A feature runs for exactly the spins it was awarded.**  Every state the
chain passes on is accepted again; the spins played are awarded minus remaining;
the one completion event comes with the last free spin and reports their number;
and free spins leave the meter alone. -/
theorem played_free_spins {engine : Engine σ} {bet : Int} {feature : FeatureState}
    {before : List SpinOutcome} {last : SpinOutcome}
    (played : Played engine bet { feature := feature, game := before ++ [last] }) :
    feature = last.nextFeature ∧
      validateFeatureState last.nextFeature bet engine.config = .ok () ∧
      (last.nextFeature.active = true →
        ((last.nextFeature.mode = .expansion ∧
            last.nextFeature.awarded ≤ engine.config.feature.maxExpansionSpins) ∨
          (last.nextFeature.mode = .overdrive ∧ last.nextFeature.awarded = 8)) ∧
        last.nextFeature.awarded - last.nextFeature.remaining = before.length ∧
        ∀ spin ∈ before ++ [last], eventIndexes spin.events .freeSpinsCompleted = []) ∧
      (last.nextFeature.active = false →
        last.nextFeature.mode = .none ∧ last.nextFeature.remaining = 0 ∧
        (∀ spin ∈ before, eventIndexes spin.events .freeSpinsCompleted = []) ∧
        (before = [] → eventIndexes last.events .freeSpinsCompleted = []) ∧
        (before ≠ [] → ∃ (events : List Event) (event : Event),
          last.events = events ++ [event] ∧
          eventIndexes last.events .freeSpinsCompleted = [events.length] ∧
          event.awarded = before.length ∧
          ((event.mode = .expansion ∧
              event.awarded ≤ engine.config.feature.maxExpansionSpins) ∨
            (event.mode = .overdrive ∧ event.awarded = 8)))) ∧
      ∀ spin ∈ before, spin.nextFeature.active = true ∧
        spin.nextFeature.rageLevel = last.nextFeature.rageLevel ∧
        spin.nextFeature.rageCollected = last.nextFeature.rageCollected := by
  obtain ⟨same, game⟩ := played_gameInvariant played before last rfl
  have initial := engine.valid.facts.feature.initial
  have canonical := canonicalFeatureState_of_meter game.canonical game.accepted.meter
  refine ⟨same, ?_, fun isActive => ⟨?_, game.running isActive⟩, fun ended => ?_, game.earlier⟩
  · refine validateFeatureState_of_accepted (engine.valid.facts.capMinor game.legal).1 ?_
    rw [canonical]
    exact game.accepted
  · have mode := (game.accepted.feature isActive).mode
    rwa [AwardLimit, initial] at mode
  · have none := game.accepted.base ended
    have finished := game.finished ended
    refine ⟨none.mode, none.remaining, finished.earlier, finished.baseOnly, fun some => ?_⟩
    have once := finished.once some
    simpa only [AwardLimit, initial] using once

theorem demo_free_spins :
    validateFeatureState freeSpinOutcome.nextFeature 10 demoConfig = .ok () :=
  (played_free_spins demo_played).2.1

end SlotsGame.Game
