/-
# SlotsGame.Game.Runs -- chains of spins

A chain plays one bet: every spin starts from the feature state the spin before
it left.  `ChainState.game` is the part of the chain that shares one budget, a
base spin and the free spins it triggered.  Everything here follows from what
the validator accepts, so it needs no fact about the source of randomness.
-/
import SlotsGame.Game.ConfigFacts
import SlotsGame.Game.Payment
import SlotsGame.Theory.Runs

namespace SlotsGame.Game

open SlotsGame.Theory FeatureState Budget

set_option autoImplicit false

variable {σ : Type}

/-! ## The chain -/

structure ChainState where
  /-- The feature state the next spin starts from. -/
  feature : FeatureState
  /-- The last base spin and the free spins after it, oldest first. -/
  game : List SpinOutcome

/-- Waiting for a base spin. -/
def ChainState.Base (state : ChainState) : Prop :=
  (canonicalFeatureState state.feature).active = false ∧ state.game = []

/-- One spin of the chain, from whatever state the source is in. -/
inductive SpinStep (engine : Engine σ) (bet : Int) : ChainState → ChainState → Prop
  | base {state : ChainState} {outcome : SpinOutcome} {s s' : σ}
      (inactive : (canonicalFeatureState state.feature).active = false)
      (spun : engine.spin { betMinor := bet, feature := state.feature } s = .ok (outcome, s')) :
      SpinStep engine bet state { feature := outcome.nextFeature, game := [outcome] }
  | free {state : ChainState} {outcome : SpinOutcome} {s s' : σ}
      (active : (canonicalFeatureState state.feature).active = true)
      (spun : engine.spin { betMinor := bet, feature := state.feature } s = .ok (outcome, s')) :
      SpinStep engine bet state
        { feature := outcome.nextFeature, game := state.game ++ [outcome] }

/-- The states a chain of one bet leads to. -/
abbrev Played (engine : Engine σ) (bet : Int) (state : ChainState) : Prop :=
  Reachable ChainState.Base (SpinStep engine bet) state

/-! ## Sums over a game -/

/-- The awards of one spin before the cap. -/
def nominalTotal (bet : Int) (outcome : SpinOutcome) : Int :=
  (outcome.wins.map (·.amountMinor)).sum + (nominalAwards bet outcome.events).sum

def rawTotal (bet : Int) (game : List SpinOutcome) : Int := (game.map (nominalTotal bet)).sum

def paidTotal (game : List SpinOutcome) : Int := (game.map (·.totalWinMinor)).sum

@[simp] theorem rawTotal_snoc (bet : Int) (game : List SpinOutcome) (outcome : SpinOutcome) :
    rawTotal bet (game ++ [outcome]) = rawTotal bet game + nominalTotal bet outcome := by
  simp [rawTotal]

@[simp] theorem paidTotal_snoc (game : List SpinOutcome) (outcome : SpinOutcome) :
    paidTotal (game ++ [outcome]) = paidTotal game + outcome.totalWinMinor := by
  simp [paidTotal]

/-! ## One spin -/

theorem validateFeatureCompletion_reported {feature : FeatureState} {outcome : SpinOutcome}
    (accepted : validateFeatureCompletion feature outcome = .ok ()) :
    (∀ event ∈ outcome.events, event.type = .freeSpinsCompleted →
        event.cumulativeWinMinor = priorWinMinor feature + outcome.totalWinMinor) ∧
      (outcome.nextFeature.active = true →
        outcome.nextFeature.winMinor = priorWinMinor feature + outcome.totalWinMinor) := by
  simp only [validateFeatureCompletion] at accepted
  split at accepted
  · rename_i inactive
    simp only [bind_ok, refuse_ok, exists_unit, not_not, not_and] at accepted
    obtain ⟨none, carried⟩ := accepted
    rw [eventIndexes_eq_nil] at none
    refine ⟨fun event member type => absurd type (none event member), fun active => ?_⟩
    simpa [priorWinMinor, inactive] using carried active
  rename_i active
  have prior : priorWinMinor feature = feature.winMinor := by
    simp [priorWinMinor, Bool.not_eq_false _ ▸ active]
  simp only [bind_ok, refuse_ok, exists_unit, addOutcomeMoney_ok, prior] at accepted ⊢
  obtain ⟨_, ⟨_, _, _, rfl⟩, want, _, _, rest⟩ := accepted
  split at rest
  · simp only [refuse_ok, not_or, not_not] at rest
    obtain ⟨none, _, _, carried, _⟩ := rest
    rw [eventIndexes_eq_nil] at none
    exact ⟨fun event member type => absurd type (none event member), fun _ => carried⟩
  · rename_i ended
    simp only [bind_ok, refuse_ok, exists_unit, not_or, not_not] at rest
    obtain ⟨⟨_, only⟩, _, _, reported⟩ := rest
    refine ⟨fun event member type => ?_, fun active => absurd active ended⟩
    obtain ⟨index, found⟩ := List.getElem?_of_mem member
    have listed := mem_eventIndexes.mpr ⟨event, found, type⟩
    rw [only, List.mem_singleton] at listed
    rwa [← listed, eventAt_of_getElem? found] at reported

theorem validateOutcomeFeature_active {state : FeatureState} {bet : Int}
    (accepted : validateOutcomeFeature state bet = .ok ()) :
    (canonicalFeatureState state).active = state.active := by
  simp only [validateOutcomeFeature, bind_ok, refuse_ok, exists_unit] at accepted
  obtain ⟨_, accepted⟩ := accepted
  split at accepted
  · rename_i inactive
    simp only [refuse_ok, not_or, not_not] at accepted
    obtain ⟨_, spent, _⟩ := accepted
    have none : state.remaining = 0 := spent
    rw [inactive]
    simp [active, none]
  · rename_i isActive
    rw [Bool.not_eq_false] at isActive
    have mode : state.mode ≠ .unset := by
      intro unset
      simp [active, canonicalFeatureState, unset] at isActive
    simp [active, canonicalFeatureState, mode]

/-- What acceptance says of a spin against the cap of its game. -/
structure CapFacts (bet cap prior : Int) (outcome : SpinOutcome) : Prop where
  solvent : 0 ≤ cap - prior
  nominalNonneg : 0 ≤ nominalTotal bet outcome
  total : outcome.totalWinMinor = min (nominalTotal bet outcome) (cap - prior)
  boundary : (eventIndexes outcome.events .winCapReached).length =
    if 0 < nominalTotal bet outcome ∧ cap - prior ≤ nominalTotal bet outcome then 1 else 0
  reported : ∀ event ∈ outcome.events, event.type = .freeSpinsCompleted →
    event.cumulativeWinMinor = prior + outcome.totalWinMinor
  carried : outcome.nextFeature.active = true →
    outcome.nextFeature.winMinor = prior + outcome.totalWinMinor
  canonical : (canonicalFeatureState outcome.nextFeature).active = outcome.nextFeature.active

theorem validateWinCapEvent_atMost {betMinor : Int} {feature : FeatureState}
    {outcome : SpinOutcome} (accepted : validateWinCapEvent betMinor feature outcome = .ok ()) :
    (eventIndexes outcome.events .winCapReached).length ≤ 1 := by
  simp only [validateWinCapEvent] at accepted
  split at accepted
  · rename_i none
    simp [none]
  · rename_i one
    simp [one]
  · cases accepted

theorem accepted_capFacts {config : Config} {input : SpinInput} {outcome : SpinOutcome}
    (accepted : validateOutcomeAgainstValidatedConfig config input outcome = .ok ()) :
    CapFacts input.betMinor (input.betMinor * config.maxWinMultiplier)
      (priorWinMinor (canonicalFeatureState input.feature)) outcome := by
  obtain ⟨_, structured, raw, evaluated, capped⟩ :=
    validateOutcomeAgainstValidatedConfig_ok.mp accepted
  obtain ⟨_, _, _, _, _, _, next, ordered⟩ := validateOutcomeStructure_ok.mp structured
  obtain ⟨capEvent, _, _, _, completion⟩ := validateFeatureEventOrder_ok.mp ordered
  obtain ⟨raw', evaluated', pays⟩ := accepted_paysProjection accepted
  obtain rfl : raw = raw' := by rw [evaluated] at evaluated'; exact Except.ok.inj evaluated'
  obtain ⟨solvent, _, _, scan, run, _, boundary⟩ := validateCapped_ok capped
  obtain ⟨nominalNonneg, _, _, rawTotal⟩ := checkCappedEvents_ok run
  have totalled := evaluateWaysForBet_totalled evaluated
  have amounts : (outcome.wins.map (·.amountMinor)).sum = raw.total := by
    have firsts := congrArg (List.map Prod.fst) pays.nominal
    simp only [List.map_map, Function.comp_def] at firsts
    rw [firsts, totalled.total]
  have nominal : nominalTotal input.betMinor outcome =
      raw.total + (nominalAwards input.betMinor outcome.events).sum := by
    rw [nominalTotal, amounts]
  obtain ⟨reported, carried⟩ := validateFeatureCompletion_reported completion
  refine ⟨solvent, ?_, ?_, ?_, reported, carried, validateOutcomeFeature_active next⟩
  · rw [nominal, totalled.total]
    refine add_nonneg (List.sum_nonneg ?_) (List.sum_nonneg nominalNonneg)
    simpa using totalled.nonneg
  · rw [pays.total, nominal, budgetLeft]
  · have atMost := validateWinCapEvent_atMost capEvent
    simp only [rawTotal, ← nominal, budgetLeft] at boundary
    split
    · rename_i reached
      exact boundary.mpr reached
    · rename_i missed
      have : (eventIndexes outcome.events .winCapReached).length ≠ 1 := fun one =>
        missed (boundary.mp one)
      omega

/-! ## One budget for the whole game -/

/-- What holds after every spin of a game with cap `cap`. -/
structure CapInvariant (bet cap : Int) (state : ChainState) : Prop where
  next : ∀ last ∈ state.game.getLast?, state.feature = last.nextFeature ∧
    (canonicalFeatureState last.nextFeature).active = last.nextFeature.active
  rawNonneg : 0 ≤ rawTotal bet state.game
  paid : state.game ≠ [] → paidTotal state.game = min (rawTotal bet state.game) cap
  carried : (canonicalFeatureState state.feature).active = true →
    state.game ≠ [] ∧ state.feature.winMinor = paidTotal state.game
  boundary : ∀ last ∈ state.game.getLast?, (eventIndexes last.events .winCapReached).length =
    if 0 < nominalTotal bet last ∧ cap ≤ rawTotal bet state.game then 1 else 0
  reported : ∀ last ∈ state.game.getLast?, ∀ event ∈ last.events,
    event.type = .freeSpinsCompleted → event.cumulativeWinMinor = paidTotal state.game

/-- A spin behind the game `before` of which `prior` has been paid. -/
theorem CapInvariant.extend {bet cap prior : Int} (before : List SpinOutcome)
    {outcome : SpinOutcome} (facts : CapFacts bet cap prior outcome)
    (rawNonneg : 0 ≤ rawTotal bet before) (paid : paidTotal before = prior)
    (projected : prior = min (rawTotal bet before) cap) :
    CapInvariant bet cap
      { feature := outcome.nextFeature, game := before ++ [outcome] } := by
  have nominalNonneg := facts.nominalNonneg
  refine ⟨?_, ?_, fun _ => ?_, fun active => ⟨by simp, ?_⟩, ?_, ?_⟩
  · simp [facts.canonical]
  · simpa using add_nonneg rawNonneg nominalNonneg
  · simp only [rawTotal_snoc, paidTotal_snoc, paid, facts.total]
    omega
  · rw [facts.canonical] at active
    simpa [paid] using facts.carried active
  · intro last isLast
    obtain rfl : outcome = last := by simpa using isLast
    rw [facts.boundary, rawTotal_snoc]
    refine if_congr (and_congr_right fun positive => ?_) rfl rfl
    omega
  · intro last isLast event member type
    obtain rfl : outcome = last := by simpa using isLast
    simpa [paid] using facts.reported event member type

theorem spinStep_capInvariant {engine : Engine σ} {bet : Int} {state after : ChainState}
    (holds : CapInvariant bet (bet * engine.config.maxWinMultiplier) state)
    (step : SpinStep engine bet state after) :
    CapInvariant bet (bet * engine.config.maxWinMultiplier) after := by
  cases step with
  | base inactive spun =>
      obtain ⟨_, _, _, accepted⟩ := Engine.spin_ok.mp spun
      have facts := accepted_capFacts accepted
      simp only [canonicalFeatureState_idem, priorWinMinor, inactive] at facts
      have capNonneg : 0 ≤ bet * engine.config.maxWinMultiplier := by simpa using facts.solvent
      exact CapInvariant.extend [] facts (by simp [rawTotal]) rfl (by simp [rawTotal, capNonneg])
  | free active spun =>
      obtain ⟨_, _, _, accepted⟩ := Engine.spin_ok.mp spun
      have facts := accepted_capFacts accepted
      obtain ⟨started, carried⟩ := holds.carried active
      simp only [canonicalFeatureState_idem, priorWinMinor, active] at facts
      exact CapInvariant.extend state.game facts holds.rawNonneg carried.symm
        (carried.trans (holds.paid started))

theorem played_capInvariant {engine : Engine σ} {bet : Int} {state : ChainState}
    (played : Played engine bet state) :
    CapInvariant bet (bet * engine.config.maxWinMultiplier) state := by
  refine Reachable.invariant (CapInvariant bet (bet * engine.config.maxWinMultiplier))
    (fun state base => ?_) (fun _ _ _ holds step => spinStep_capInvariant holds step) played
  obtain ⟨inactive, empty⟩ := base
  exact ⟨by simp [empty], by simp [empty, rawTotal], fun started => absurd empty started,
    fun active => by simp [inactive] at active, by simp [empty], by simp [empty]⟩

def demoEngine : Engine (List Nat) :=
  { config := demoConfig, random := sequenceSource, valid := demoConfig_valid }

/-- Three surges on the first reel, and the wheel stops at the expansion. -/
def triggerOutcome : SpinOutcome :=
  { grid :=
      [[⟨.surge, 0, .empty⟩, ⟨.surge, 0, .empty⟩, ⟨.surge, 0, .empty⟩],
        [⟨.orbit, 0, .empty⟩, ⟨.orbit, 0, .empty⟩, ⟨.orbit, 0, .empty⟩],
        [⟨.orbit, 0, .empty⟩, ⟨.orbit, 0, .empty⟩, ⟨.orbit, 0, .empty⟩]]
    wins := []
    events :=
      [{ type := .surgeCollected, count := 3, cells := [⟨0, 0⟩, ⟨0, 1⟩, ⟨0, 2⟩],
         triggered := true, guaranteed := true, level := 1 },
        { type := .wheelStarted },
        { type := .wheelAwarded, outcome := some .expansion },
        { type := .freeSpinsStarted, mode := .expansion, awarded := 8 }]
    totalWinMinor := 0
    nextFeature :=
      { mode := .expansion, remaining := 8, awarded := 8, betMinor := 10, rageLevel := 1 } }

/-- The free spin after it, with one win. -/
def freeSpinOutcome : SpinOutcome :=
  { grid := nearCapOutcome.grid
    wins :=
      [{ id := "orbit-3", symbol := .orbit, ways := 1, amountMinor := 3, paidAmountMinor := 3
         cells := pathCells 0 0 0
         pathAwards :=
          [{ cells := pathCells 0 0 0, multiplier := 1, baseAmountMinor := 3, amountMinor := 3
             paidAmountMinor := 3 }] }]
    events := [{ type := .gridExpanded, rows := 3, ways := 27 }]
    totalWinMinor := 3
    nextFeature :=
      { mode := .expansion, remaining := 7, awarded := 8, betMinor := 10, winMinor := 3,
        rageLevel := 1 } }

theorem demo_played :
    Played demoEngine 10
      { feature := freeSpinOutcome.nextFeature, game := [triggerOutcome] ++ [freeSpinOutcome] } := by
  have base : Played demoEngine 10 { feature := emptyFeatureState, game := [] } :=
    .start ⟨by decide, rfl⟩
  have triggered : demoEngine.spin { betMinor := 10, feature := emptyFeatureState }
      [99, 99, 99, 0, 0, 0, 0, 0, 0, 90] = .ok (triggerOutcome, []) := by decide +kernel
  have free : demoEngine.spin { betMinor := 10, feature := triggerOutcome.nextFeature }
      [0, 0, 22, 22, 0, 54, 54, 0, 22, 42] = .ok (freeSpinOutcome, []) := by decide +kernel
  exact (base.next (.base (by decide) triggered)).next (.free (by decide) free)

end SlotsGame.Game
