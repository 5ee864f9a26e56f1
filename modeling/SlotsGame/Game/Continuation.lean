/-
# SlotsGame.Game.Continuation -- where an accepted outcome leaves the game

The outcome validator checks a feature state by its transition and without the
definition; `validateFeatureState` checks it on its own and against the
definition.  An accepted outcome leaves a state the next spin accepts but for
two things only the second one knows: the level a collected surge shows, and the
largest number of free spins.  What the engine returns has both.
-/
import SlotsGame.Game.FreeSpins

namespace SlotsGame.Game

open SlotsGame.Theory FeatureState

set_option autoImplicit false

/-! ## What the validator leaves open -/

/-- One or two surges that are collected and do not trigger the wheel. -/
structure FailedCollection (feature : FeatureState) (outcome : SpinOutcome) : Prop where
  base : feature.active = false
  some : 0 < (positionsForSymbol outcome.grid .surge).length
  few : (positionsForSymbol outcome.grid .surge).length < 3
  failed : ∃ event ∈ outcome.events, event.type = .surgeCollected ∧ event.triggered = false

/-- The wheel stops at a feature. -/
def FeatureWheel (outcome : SpinOutcome) : Prop :=
  ∃ event ∈ outcome.events, event.type = .wheelAwarded ∧
    (event.outcome = some .expansion ∨ event.outcome = some .overdrive)

/-! ## The meter -/

section Accepted

variable {config : Config} {feature : FeatureState} {bet : Int} {outcome : SpinOutcome}

theorem eventAt_mem {kind : EventType} {index : Nat} {rest : List Nat}
    (listed : eventIndexes outcome.events kind = index :: rest) :
    eventAt outcome.events index ∈ outcome.events ∧
      (eventAt outcome.events index).type = kind := by
  have member : index ∈ eventIndexes outcome.events kind := by simp [listed]
  obtain ⟨event, found, same⟩ := mem_eventIndexes.mp member
  rw [eventAt_of_getElem? found]
  exact ⟨List.mem_of_getElem? found, same⟩

/-- The one surge event of an outcome. -/
theorem FailedCollection.only {index : Nat} (failed : FailedCollection feature outcome)
    (only : eventIndexes outcome.events .surgeCollected = [index]) :
    (eventAt outcome.events index).triggered = false := by
  obtain ⟨event, member, kind, missed⟩ := failed.failed
  obtain ⟨place, found⟩ := List.getElem?_of_mem member
  have listed : place ∈ eventIndexes outcome.events .surgeCollected :=
    mem_eventIndexes.mpr ⟨event, found, kind⟩
  rw [only, List.mem_singleton] at listed
  rwa [← listed, eventAt_of_getElem? found]

/-- A base spin credits a failed collection; else it leaves the meter or resets it. -/
theorem rage_meter (accepted : validateRageAndWheelEvents bet feature outcome = .ok ())
    (base : feature.active = false) :
    (FailedCollection feature outcome ∧
      outcome.nextFeature.rageCollected = feature.rageCollected +
        (positionsForSymbol outcome.grid .surge).length ∧
      outcome.nextFeature.rageCollected ≤ maxRageCollected ∧
      defaultRageLevel ≤ outcome.nextFeature.rageLevel) ∨
    (¬ FailedCollection feature outcome ∧
      ((outcome.nextFeature.rageCollected = feature.rageCollected ∧
        outcome.nextFeature.rageLevel = feature.rageLevel) ∨
      (outcome.nextFeature.rageCollected = 0 ∧
        outcome.nextFeature.rageLevel = defaultRageLevel))) := by
  simp only [validateRageAndWheelEvents, base, Bool.false_eq_true, if_false] at accepted
  split at accepted
  · next none =>
    simp only [bind_ok, refuse_ok, exists_unit, not_or, not_not] at accepted
    refine .inr ⟨fun failed => ?_, .inl accepted.2⟩
    have some := failed.some
    simp [none] at some
  next some =>
  have positive : 0 < (positionsForSymbol outcome.grid .surge).length :=
    List.length_pos_iff.mpr some
  simp only [bind_ok, refuse_ok, exists_unit, not_lt] at accepted
  obtain ⟨atMost, accepted⟩ := accepted
  split at accepted
  case h_2 => cases accepted
  next index only =>
  obtain ⟨member, kind⟩ := eventAt_mem only
  simp only [bind_ok, refuse_ok, exists_unit] at accepted
  obtain ⟨fits, collection, accepted⟩ := accepted
  simp only [validateSurgeCollection, bind_ok, refuse_ok, exists_unit, not_or, not_not, not_lt,
    not_and] at collection
  obtain ⟨⟨_, _, _, least, three⟩, _, _, _⟩ := collection
  split at accepted
  · -- the wheel: a reset behind one or two surges, nothing behind three
    next triggered =>
    refine .inr ⟨fun failed => by simp [failed.only only] at triggered, ?_⟩
    simp only [validateTriggeredRage] at accepted
    split at accepted
    case h_2 => cases accepted
    simp only [bind_ok, refuse_ok, exists_unit] at accepted
    obtain ⟨_, source, _⟩ := accepted
    simp only [validateRageSource] at source
    split at source
    · split at source
      case h_2 => cases source
      simp only [validateRageTransformation, bind_ok, refuse_ok, exists_unit, not_or, not_not]
        at source
      obtain ⟨_, _, _, level, collected⟩ := source
      exact .inr ⟨collected, level⟩
    · simp only [bind_ok, refuse_ok, exists_unit, not_or, not_not] at source
      exact .inl ⟨source.2.2, source.2.1⟩
  · next failed =>
    simp only [bind_ok, refuse_ok, exists_unit, not_or, not_not] at accepted
    obtain ⟨_, collected, level⟩ := accepted
    have two : (positionsForSymbol outcome.grid .surge).length < 3 := by
      by_contra more
      exact three (by omega) (by simpa using failed)
    have credited : ((positionsForSymbol outcome.grid .surge).length : Int) < 3 := by omega
    rw [if_pos credited] at collected
    refine .inl ⟨⟨base, positive, two, _, member, kind, by simpa using failed⟩, collected,
      ?_, by rw [level]; exact least⟩
    have room : ¬ feature.rageCollected >
        maxRageCollected - ((positionsForSymbol outcome.grid .surge).length : Int) :=
      fun full => fits ⟨credited, full⟩
    omega

/-- A free spin keeps the meter. -/
theorem completion_meter (accepted : validateFeatureCompletion feature outcome = .ok ())
    (isActive : feature.active = true) :
    outcome.nextFeature.rageLevel = feature.rageLevel ∧
      outcome.nextFeature.rageCollected = feature.rageCollected := by
  simp only [validateFeatureCompletion, isActive, Bool.true_eq_false, if_false, bind_ok, refuse_ok,
    exists_unit, not_or, not_not] at accepted
  obtain ⟨_, _, _, _, kept, _⟩ := accepted
  exact kept

/-! ## The free spins -/

/-- A feature the wheel starts is within the limit of every definition. -/
theorem featureWheel_limit (facts : FeatureFacts config.feature)
    (accepted : validateRageAndWheelEvents bet feature outcome = .ok ())
    (base : feature.active = false) (wheel : FeatureWheel outcome) :
    AwardLimit config outcome.nextFeature.mode outcome.nextFeature.awarded := by
  obtain ⟨event, member, kind, feature_⟩ := wheel
  obtain ⟨index, found⟩ := List.getElem?_of_mem member
  have listed : index ∈ eventIndexes outcome.events .wheelAwarded :=
    mem_eventIndexes.mpr ⟨event, found, kind⟩
  have present : eventIndexes outcome.events .rageTransformed ++
      eventIndexes outcome.events .wheelStarted ++ eventIndexes outcome.events .wheelAwarded ++
      eventIndexes outcome.events .freeSpinsStarted ≠ [] := by
    intro none
    simp only [List.append_eq_nil_iff] at none
    simp [none] at listed
  have initial := facts.initial
  have least := facts.leastSpins
  simp only [validateRageAndWheelEvents, base, Bool.false_eq_true, if_false] at accepted
  split at accepted
  · simp only [bind_ok, refuse_ok, exists_unit] at accepted
    tauto
  simp only [bind_ok, refuse_ok, exists_unit] at accepted
  obtain ⟨_, accepted⟩ := accepted
  split at accepted
  case h_2 => cases accepted
  simp only [bind_ok, refuse_ok, exists_unit] at accepted
  obtain ⟨_, _, accepted⟩ := accepted
  split at accepted
  · simp only [validateTriggeredRage] at accepted
    split at accepted
    case h_2 => cases accepted
    next started awarded _ onlyAwarded =>
    simp only [bind_ok, refuse_ok, exists_unit] at accepted
    obtain ⟨_, _, award⟩ := accepted
    rw [onlyAwarded, List.mem_singleton] at listed
    subst listed
    have same := eventAt_of_getElem? found
    simp only [validateWheelAward, same] at award
    rcases feature_ with outcome_ | outcome_
    · simp only [outcome_, Option.getD_some, bind_ok, refuse_ok, exists_unit, not_or, not_not]
        at award
      exact .inl ⟨award.1.2.1, by omega⟩
    · simp only [outcome_, Option.getD_some, bind_ok, refuse_ok, exists_unit, not_or, not_not]
        at award
      exact .inr ⟨award.1.2.1, by omega⟩
  · simp only [bind_ok, refuse_ok, exists_unit] at accepted
    tauto

/-- Only Kong Quest reports free spins won. -/
theorem freeSpinAwarded_expansion (accepted : validateVaultEvents bet feature outcome = .ok ())
    {event : Event} (member : event ∈ outcome.events) (kind : event.type = .freeSpinAwarded) :
    feature.mode ≠ .overdrive := by
  intro overdrive
  have semantic : isVaultSemanticEvent event.type = true := by rw [kind]; rfl
  have counted : (outcome.events.filter fun event => isVaultSemanticEvent event.type).length ≠ 0 := by
    rw [ne_eq, List.length_eq_zero_iff, List.filter_eq_nil_iff]
    exact fun none => none event member semantic
  simp only [validateVaultEvents] at accepted
  split at accepted
  · simp only [refuse_ok, not_not] at accepted
    exact counted accepted
  simp only [bind_ok, refuse_ok, exists_unit] at accepted
  obtain ⟨_, _, accepted⟩ := accepted
  split at accepted
  · simp only [validateLockedVaults, bind_ok, refuse_ok, exists_unit, not_or] at accepted
    exact accepted.1.1 overdrive
  · next started completed _ _ _ =>
    simp only [bind_ok, refuse_ok, exists_unit, validateUnlockedVaults] at accepted
    obtain ⟨_, scan, walked, _⟩ := accepted
    obtain ⟨index, found⟩ := List.getElem?_of_mem member
    have each := foldlM_ok_forall
      (fun entry : Event × Nat => entry.1.type ≠ .freeSpinAwarded) walked (by
        rintro state ⟨event, index⟩ next stepped kind
        have awards : event.type = .freeSpinAwarded := kind
        simp only [scanVaultEvent] at stepped
        rw [awards] at stepped
        simp only [bind_ok, refuse_ok, exists_unit, not_or] at stepped
        exact stepped.1.1 (by rw [overdrive]; decide))
    exact each (event, index) (List.mk_mem_zipIdx_iff_getElem?.mpr found) kind
  · cases accepted

theorem countFreeSpinAwards_none {events : List Event} {start final : SpinCounters}
    (none : ∀ event ∈ events, event.type ≠ .freeSpinAwarded)
    (counted : events.foldlM countFreeSpinAward start = .ok final) : final = start := by
  induction events generalizing start with
  | nil => exact (pure_ok.mp counted).symm
  | cons event rest ih =>
      rw [List.foldlM_cons, countFreeSpinAward, if_pos (none event (by simp)), bind_ok] at counted
      obtain ⟨_, same, counted⟩ := counted
      rw [pure_ok] at same
      subst same
      exact ih (fun e member => none e (by simp [member])) counted

/-- A free spin that goes on keeps its mode, and in King Spin its number of spins. -/
theorem completion_counters (accepted : validateFeatureCompletion feature outcome = .ok ())
    (isActive : feature.active = true) (goesOn : outcome.nextFeature.active = true) :
    outcome.nextFeature.mode = feature.mode ∧
      ((∀ event ∈ outcome.events, event.type ≠ .freeSpinAwarded) →
        outcome.nextFeature.awarded = feature.awarded) := by
  simp only [validateFeatureCompletion, isActive, goesOn, Bool.true_eq_false, if_false, if_true,
    bind_ok, refuse_ok, exists_unit, not_or, not_not] at accepted
  obtain ⟨_, _, want, counted, _, _, mode, _, _, _, _, awarded⟩ := accepted
  refine ⟨mode, fun none => ?_⟩
  rw [awarded, countFreeSpinAwards_none none counted]

/-! ## The next state -/

/-- The counters and the bet the validator does check. -/
theorem validateOutcomeFeature_next (accepted : validateOutcomeFeature outcome.nextFeature bet = .ok ()) :
    (canonicalFeatureState outcome.nextFeature).active = outcome.nextFeature.active ∧
    ((canonicalFeatureState outcome.nextFeature).active = false →
      NoFreeSpins (canonicalFeatureState outcome.nextFeature)) ∧
    (outcome.nextFeature.active = true →
      (canonicalFeatureState outcome.nextFeature).mode = outcome.nextFeature.mode ∧
      outcome.nextFeature.betMinor = bet ∧ 0 ≤ outcome.nextFeature.winMinor ∧
      outcome.nextFeature.remaining ≤ outcome.nextFeature.awarded ∧
      0 < outcome.nextFeature.awarded ∧ outcome.nextFeature.awarded ≤ maxFeatureSpins) := by
  have same := validateOutcomeFeature_active accepted
  simp only [validateOutcomeFeature, bind_ok, refuse_ok, exists_unit] at accepted
  obtain ⟨_, accepted⟩ := accepted
  refine ⟨same, fun inactive => ?_, fun isActive => ?_⟩
  · rw [if_pos inactive] at accepted
    simp only [refuse_ok, not_or, not_not] at accepted
    obtain ⟨mode, remaining, awarded, bet, win⟩ := accepted
    exact ⟨mode, remaining, awarded, bet, win⟩
  · rw [← same] at isActive
    rw [if_neg (by simp [isActive])] at accepted
    simp only [bind_ok, refuse_ok, exists_unit, not_or, not_not, not_lt, not_le, not_and] at accepted
    obtain ⟨mode, counters⟩ := accepted
    simp only [canonicalFeatureState] at counters
    have set : outcome.nextFeature.mode ≠ .unset := by
      intro unset
      simp [canonicalFeatureState, unset] at mode
    refine ⟨by simp [canonicalFeatureState, set], ?_⟩
    omega

/-- What `validateFeatureState` asks of the next state that acceptance does not give. -/
structure Continues (config : Config) (feature : FeatureState) (outcome : SpinOutcome) : Prop where
  level : FailedCollection feature outcome → outcome.nextFeature.rageLevel =
    rageLevelFor outcome.nextFeature.rageCollected config.feature.rageLevelThresholds
  limit : outcome.nextFeature.active = true →
    AwardLimit config outcome.nextFeature.mode outcome.nextFeature.awarded

/-- The meter of the next state: right, but for the level of a failed collection. -/
theorem next_meter (before : AcceptedFeature config bet feature)
    (facts : FeatureFacts config.feature)
    (rage : validateRageAndWheelEvents bet feature outcome = .ok ())
    (completion : validateFeatureCompletion feature outcome = .ok ()) :
    defaultRageLevel ≤ outcome.nextFeature.rageLevel ∧
    (FailedCollection feature outcome → 0 < outcome.nextFeature.rageCollected) ∧
    ((FailedCollection feature outcome → outcome.nextFeature.rageLevel =
        rageLevelFor outcome.nextFeature.rageCollected config.feature.rageLevelThresholds) →
      Meter config outcome.nextFeature.rageCollected outcome.nextFeature.rageLevel) := by
  have meter := before.meter
  have nonneg := meter.nonneg
  cases isActive : feature.active with
  | true =>
      obtain ⟨level, collected⟩ := completion_meter completion isActive
      have free : ¬ FailedCollection feature outcome := fun failed => by
        simp [failed.base] at isActive
      rw [level, collected]
      exact ⟨meter.least, fun failed => absurd failed free, fun _ => meter⟩
  | false =>
      rcases rage_meter rage isActive with
        ⟨failed, collected, bounded, least⟩ | ⟨other, ⟨collected, level⟩ | ⟨collected, level⟩⟩
      · have some := failed.some
        have positive : 0 < outcome.nextFeature.rageCollected := by omega
        refine ⟨least, fun _ => positive, fun reached => ?_⟩
        have bounds := rageLevelFor_bounds positive facts.thresholds
        exact
          { nonneg := positive.le
            bounded := bounded
            least := least
            most := by rw [reached failed]; exact bounds.2
            empty := fun zero => absurd zero positive.ne'
            reached := fun _ => reached failed }
      · rw [level, collected]
        exact ⟨meter.least, fun failed => absurd failed other, fun _ => meter⟩
      · rw [level, collected]
        exact ⟨le_rfl, fun failed => absurd failed other, fun _ => Meter.reset facts.thresholds⟩

end Accepted

section Next

variable {config : Config} {input : SpinInput} {outcome : SpinOutcome}

/-- **The next spin accepts the state exactly when the level of a failed
collection and the number of free spins are those of the definition.** -/
theorem nextFeature_accepted (valid : config.Valid)
    (before : validateFeatureState input.feature input.betMinor config = .ok ())
    (accepted : validateOutcomeAgainstValidatedConfig config input outcome = .ok ()) :
    validateFeatureState outcome.nextFeature input.betMinor config = .ok () ↔
      Continues config (canonicalFeatureState input.feature) outcome := by
  have start := validateFeatureState_accepted before
  have cap := accepted_capFacts accepted
  obtain ⟨legal, structured, _⟩ := validateOutcomeAgainstValidatedConfig_ok.mp accepted
  obtain ⟨_, _, _, _, _, _, next, ordered⟩ := validateOutcomeStructure_ok.mp structured
  obtain ⟨_, _, _, rage, completion⟩ := validateFeatureEventOrder_ok.mp ordered
  obtain ⟨least, credited, meter⟩ := next_meter start valid.facts.feature rage completion
  obtain ⟨sameActive, base, counters⟩ := validateOutcomeFeature_next next
  have level : (canonicalFeatureState outcome.nextFeature).rageLevel =
      outcome.nextFeature.rageLevel := by
    have set : outcome.nextFeature.rageLevel ≠ 0 := by
      unfold defaultRageLevel at least
      omega
    simp [canonicalFeatureState, set]
  constructor
  · intro continues
    have after := validateFeatureState_accepted continues
    refine ⟨fun failed => ?_, fun isActive => ?_⟩
    · rw [← level]
      exact after.meter.reached (credited failed)
    · rw [← (counters isActive).1]
      exact (after.feature (sameActive.trans isActive)).mode
  · intro continues
    refine validateFeatureState_of_accepted (valid.facts.capMinor legal).1
      ⟨?_, base, fun isActive => ?_⟩
    · rw [level]
      exact meter continues.level
    · rw [sameActive] at isActive
      obtain ⟨mode, sameBet, winNonneg, left, some, bounded⟩ := counters isActive
      have carried := cap.carried isActive
      have total := cap.total
      exact
        { mode := by rw [mode]; exact continues.limit isActive
          sameBet := sameBet
          winNonneg := winNonneg
          winCapped := by
            show outcome.nextFeature.winMinor ≤ _
            omega
          left := left
          some := some
          bounded := bounded }

/-- A feature past the limit of the definition: Kong Quest extended too far, or
one that no wheel started. -/
theorem nextFeature_limit (valid : config.Valid)
    (before : validateFeatureState input.feature input.betMinor config = .ok ())
    (accepted : validateOutcomeAgainstValidatedConfig config input outcome = .ok ())
    (isActive : outcome.nextFeature.active = true)
    (past : ¬ AwardLimit config outcome.nextFeature.mode outcome.nextFeature.awarded) :
    ((canonicalFeatureState input.feature).active = true ∧
      (canonicalFeatureState input.feature).mode = .expansion ∧
      config.feature.maxExpansionSpins < outcome.nextFeature.awarded) ∨
    ((canonicalFeatureState input.feature).active = false ∧ ¬ FeatureWheel outcome) := by
  have start := validateFeatureState_accepted before
  obtain ⟨_, structured, _⟩ := validateOutcomeAgainstValidatedConfig_ok.mp accepted
  obtain ⟨_, _, _, _, _, _, _, ordered⟩ := validateOutcomeStructure_ok.mp structured
  obtain ⟨_, _, vaults, rage, completion⟩ := validateFeatureEventOrder_ok.mp ordered
  cases wasActive : (canonicalFeatureState input.feature).active with
  | false =>
      exact .inr ⟨rfl, fun wheel =>
        past (featureWheel_limit valid.facts.feature rage wasActive wheel)⟩
  | true =>
      obtain ⟨mode, awarded⟩ := completion_counters completion wasActive isActive
      rcases (start.feature wasActive).mode with ⟨expansion, _⟩ | ⟨overdrive, same⟩
      · refine .inl ⟨rfl, expansion, ?_⟩
        by_contra within
        exact past (.inl ⟨mode.trans expansion, not_lt.mp within⟩)
      · refine absurd (.inr ⟨mode.trans overdrive, ?_⟩) past
        rw [awarded fun event member kind =>
          freeSpinAwarded_expansion vaults member kind overdrive]
        exact same

theorem Meter.level {collected level : Int} (meter : Meter config collected level) :
    level = rageLevelFor collected config.feature.rageLevelThresholds := by
  rcases meter.nonneg.eq_or_lt with zero | positive
  · rw [meter.empty zero.symm, rageLevelFor, if_pos zero.ge]
  · exact meter.reached positive

/-- What the engine returns has the level and the limit of its definition. -/
theorem spin_continues {σ : Type} {engine : Engine σ} {s s' : σ}
    (spun : engine.spin input s = .ok (outcome, s')) :
    Continues engine.config (canonicalFeatureState input.feature) outcome := by
  have feature := spin_feature spun
  have initial := engine.valid.facts.feature.initial
  have least := engine.valid.facts.feature.leastSpins
  cases isActive : (canonicalFeatureState input.feature).active with
  | false =>
      obtain ⟨raw, ⟨meter, started⟩, win, same⟩ := feature.next.base isActive
      have kept : outcome.nextFeature.rageLevel = raw.rageLevel ∧
          outcome.nextFeature.rageCollected = raw.rageCollected ∧
          outcome.nextFeature.mode = raw.mode ∧ outcome.nextFeature.awarded = raw.awarded ∧
          outcome.nextFeature.active = raw.active := by
        rw [same]
        split <;> exact ⟨rfl, rfl, rfl, rfl, rfl⟩
      obtain ⟨level, collected, mode, awarded, running⟩ := kept
      refine ⟨fun _ => ?_, fun goesOn => ?_⟩
      · rw [level, collected]
        exact meter.level
      · rw [mode, awarded]
        rcases started with empty | ⟨feature_ | feature_, _, spins, _⟩
        · rw [running, empty.ended] at goesOn
          cases goesOn
        · exact .inl ⟨feature_, by omega⟩
        · exact .inr ⟨feature_, spins⟩
  | true =>
      obtain ⟨extra, played⟩ := feature.next.free isActive
      refine ⟨fun failed => ?_, fun goesOn => ?_⟩
      · have base := failed.base
        rw [isActive] at base
        cases base
      · by_cases spent : (canonicalFeatureState input.feature).remaining - 1 + extra = 0
        · rw [(played.ends spent).1] at goesOn
          simp [active, withoutFreeSpins] at goesOn
        · obtain ⟨win, next⟩ := played.goesOn spent
          rw [next]
          exact played.awardLimit (feature.before.feature isActive).mode

/-- **An accepted outcome can be continued, but for the level of a failed
collection and the number of free spins, which acceptance does not compare with
the definition.**  The number is past its limit only in a Kong Quest extended too
far or a feature no wheel started, and no outcome the engine returns has either. -/
theorem accepted_outcome_continues (config : Config) (input : SpinInput) (outcome : SpinOutcome)
    (before : validateFeatureState input.feature input.betMinor config = .ok ())
    (accepted : validateOutcomeAgainstConfig config input outcome = .ok ()) :
    (validateFeatureState outcome.nextFeature input.betMinor config = .ok () ↔
      Continues config (canonicalFeatureState input.feature) outcome) ∧
    (outcome.nextFeature.active = true →
      ¬ AwardLimit config outcome.nextFeature.mode outcome.nextFeature.awarded →
      ((canonicalFeatureState input.feature).active = true ∧
        (canonicalFeatureState input.feature).mode = .expansion ∧
        config.feature.maxExpansionSpins < outcome.nextFeature.awarded) ∨
      ((canonicalFeatureState input.feature).active = false ∧ ¬ FeatureWheel outcome)) ∧
    (∀ {σ : Type} (engine : Engine σ) (s s' : σ), engine.config = config →
      engine.spin input s = .ok (outcome, s') →
      validateFeatureState outcome.nextFeature input.betMinor config = .ok ()) := by
  obtain ⟨valid, accepted⟩ := validateOutcomeAgainstConfig_ok.mp accepted
  refine ⟨nextFeature_accepted valid before accepted,
    fun isActive past => nextFeature_limit valid before accepted isActive past, ?_⟩
  rintro σ engine s s' rfl spun
  exact (nextFeature_accepted valid before accepted).mpr (spin_continues spun)

end Next

/-! ## An accepted outcome that does not continue -/

/-- One surge is collected, the wheel is not triggered, and the level shown is 2. -/
def overLevelOutcome : SpinOutcome :=
  { grid :=
      [[⟨.surge, 0, .empty⟩, ⟨.prism, 0, .empty⟩, ⟨.prism, 0, .empty⟩],
        [⟨.orbit, 0, .empty⟩, ⟨.nova, 0, .empty⟩, ⟨.nova, 0, .empty⟩],
        [⟨.circuit, 0, .empty⟩, ⟨.tank, 0, .empty⟩, ⟨.pulse, 0, .empty⟩]]
    wins := []
    events := [{ type := .surgeCollected, count := 1, cells := [⟨0, 0⟩], level := 2, total := 1 }]
    totalWinMinor := 0
    nextFeature := { mode := .none, rageLevel := 2, rageCollected := 1 } }

/-- The validator takes the outcome, and the next spin refuses its state: one
collected surge is level 1 of the demonstration definition. -/
theorem overLevelOutcome_stuck :
    validateOutcomeAgainstConfig demoConfig
      { betMinor := 10, feature := emptyFeatureState } overLevelOutcome = .ok () ∧
    validateFeatureState emptyFeatureState 10 demoConfig = .ok () ∧
    validateFeatureState overLevelOutcome.nextFeature 10 demoConfig ≠ .ok () := by
  refine ⟨?_, ?_, ?_⟩ <;> decide +kernel

/-- The outcome of one collected surge at its level goes on. -/
theorem creditedOutcome_continues :
    validateFeatureState { mode := .none, rageLevel := 1, rageCollected := 1 } 10 demoConfig =
      .ok () := by
  let credited : SpinOutcome :=
    { overLevelOutcome with
      events := [{ type := .surgeCollected, count := 1, cells := [⟨0, 0⟩], level := 1, total := 1 }]
      nextFeature := { mode := .none, rageLevel := 1, rageCollected := 1 } }
  have accepted : validateOutcomeAgainstConfig demoConfig
      { betMinor := 10, feature := emptyFeatureState } credited = .ok () := by decide +kernel
  have continued := accepted_outcome_continues demoConfig
    { betMinor := 10, feature := emptyFeatureState } credited (by decide +kernel) accepted
  exact continued.1.mpr ⟨fun _ => by decide +kernel, fun running => by cases running⟩

end SlotsGame.Game
