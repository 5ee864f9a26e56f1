/-
# SlotsGame.Client.Origin -- the feature state a recovered round started from

A recovery ledger of the first version keeps only the mode of the state a round
was sent from.  `reconstructOriginFeatureState` undoes the round: it takes the
free spins, the win and the meter the result reports back to what they were, and
throws where the result does not fix them.
-/
import SlotsGame.Client.RgsDecoder
import SlotsGame.Client.Awards
import SlotsGame.Game.Continuation

namespace SlotsGame.Client

open SlotsGame.Theory
open SlotsGame.Game (maxInt64)
open SlotsGame.Game.FeatureState (canonicalFeatureState)

set_option autoImplicit false

/-! ## The reconstruction -/

/-- What a recovery ledger says of the state its round was sent from. -/
inductive RecoveryLedger
  | version1 (betMinor : Int) (originMode : FeatureMode)
  | version2 (betMinor : Int) (originFeatureState : FeatureState)

namespace RecoveryLedger

def betMinor : RecoveryLedger → Int
  | version1 betMinor _ => betMinor
  | version2 betMinor _ => betMinor

/-- `ledgerOriginMode` -/
def originMode : RecoveryLedger → FeatureMode
  | version1 _ originMode => originMode
  | version2 _ originFeatureState => originFeatureState.mode

end RecoveryLedger

structure PendingRound where
  ledger : RecoveryLedger
  originFeatureState : Option FeatureState := none

def subtractMoney (left right : Int) (path : String) : Except String Int := do
  let result := left - right
  refuse (result < 0 ∨ result > maxInt64) s!"{path} cannot be reconstructed safely"
  pure result

structure RageMeter where
  rageLevel : Int
  rageCollected : Int

def provableLegacyRageOriginForBase (result : SpinResult) : Except String RageMeter :=
  match result.events.findSome? (·.surge?) with
  | none => pure { rageLevel := result.featureState.rageLevel
                   rageCollected := result.featureState.rageCollected }
  | some collection => do
      -- the new level does not prove the old one across a threshold
      refuse (collection.count ≠ 3)
        "committed v1 Base recovery cannot reconstruct a one/two-Rage origin safely"
      pure { rageLevel := collection.level, rageCollected := collection.total }

/-- A free spin that leaves the feature running. -/
def reconstructActiveOrigin (pending : PendingRound) (result : SpinResult)
    (awardedThisRound : Int) : Except String FeatureState := do
  let next := result.featureState
  let remaining := next.freeSpinsRemaining + 1 - awardedThisRound
  match next.freeSpinsPlayed, next.freeSpinsWinMinor with
  | some played, some runningWin => do
      refuse (played < 1 ∨ remaining < 1) "active Free Spins origin cannot be reconstructed"
      let winMinor ← subtractMoney runningWin result.totalWinMinor "Free Spins running win"
      pure { mode := pending.ledger.originMode, freeSpinsRemaining := remaining
             freeSpinsPlayed := some (played - 1), baseBetMinor := some pending.ledger.betMinor
             freeSpinsWinMinor := some winMinor, rageLevel := next.rageLevel
             rageCollected := next.rageCollected }
  | _, _ => throw "active Free Spins origin cannot be reconstructed"

/-- The last free spin of a feature. -/
def reconstructTerminalOrigin (pending : PendingRound) (result : SpinResult)
    (awardedThisRound : Int) : Except String FeatureState := do
  let next := result.featureState
  match result.events.findSome? (·.completion?) with
  | none => throw "terminal Free Spins origin cannot be reconstructed"
  | some completion => do
      refuse (completion.mode ≠ pending.ledger.originMode ∨ awardedThisRound ≠ 0)
        "terminal Free Spins origin cannot be reconstructed"
      let winMinor ← subtractMoney completion.cumulativeWinMinor result.totalWinMinor
        "terminal Free Spins running win"
      pure { mode := pending.ledger.originMode, freeSpinsRemaining := 1
             freeSpinsPlayed := some (completion.awarded - 1)
             baseBetMinor := some pending.ledger.betMinor, freeSpinsWinMinor := some winMinor
             rageLevel := next.rageLevel, rageCollected := next.rageCollected }

def reconstructOriginFeatureState (pending : PendingRound) (result : SpinResult) :
    Except String FeatureState :=
  match pending.originFeatureState with
  | some origin => pure origin
  | none =>
      if pending.ledger.originMode = .base then do
        let meter ← provableLegacyRageOriginForBase result
        pure { mode := .base, freeSpinsRemaining := 0, freeSpinsPlayed := some 0
               rageLevel := meter.rageLevel, rageCollected := meter.rageCollected }
      else
        let awardedThisRound := (result.events.map (·.freeSpins)).sum
        if result.featureState.mode = pending.ledger.originMode then
          reconstructActiveOrigin pending result awardedThisRound
        else reconstructTerminalOrigin pending result awardedThisRound

/-! ## What the client decodes -/

theorem decodeMode_ok {mode : Game.FeatureMode} {path : String} {decoded : FeatureMode} :
    decodeMode mode path = .ok decoded ↔ (mode = .none ∧ .base = decoded) ∨
      (mode = .expansion ∧ .expansion = decoded) ∨ (mode = .overdrive ∧ .overdrive = decoded) := by
  cases mode <;> simp [decodeMode, throw, throwThe, MonadExceptOf.throw]

/-- The projection of a base game state, and of a running feature. -/
def baseProjection (state : Game.FeatureState) : FeatureState :=
  { mode := .base, freeSpinsRemaining := 0, freeSpinsPlayed := some 0
    rageLevel := state.rageLevel, rageCollected := state.rageCollected }

def activeProjection (mode : FeatureMode) (state : Game.FeatureState) : FeatureState :=
  { mode := mode, freeSpinsRemaining := state.remaining
    freeSpinsPlayed := some (state.awarded - state.remaining)
    baseBetMinor := some state.betMinor, freeSpinsWinMinor := some state.winMinor
    rageLevel := state.rageLevel, rageCollected := state.rageCollected }

/-- What the wire can carry of any state. -/
structure WireState (state : Game.FeatureState) : Prop where
  remaining : 0 ≤ state.remaining ∧ state.remaining ≤ 1000000
  awarded : 0 ≤ state.awarded ∧ state.awarded ≤ 1000000
  betMinor : 0 ≤ state.betMinor ∧ state.betMinor ≤ maxInt64
  winMinor : 0 ≤ state.winMinor ∧ state.winMinor ≤ maxInt64
  rageLevel : 1 ≤ state.rageLevel ∧ state.rageLevel ≤ 1000000
  rageCollected : 0 ≤ state.rageCollected ∧ state.rageCollected ≤ 1000000

theorem featureState_ok {state : Game.FeatureState} {path : String} {decoded : FeatureState} :
    featureState state path = .ok decoded ↔ WireState state ∧
      ∃ mode, decodeMode state.mode s!"{path}.mode" = .ok mode ∧
        if mode = .base then
          (state.remaining = 0 ∧ state.awarded = 0 ∧ state.betMinor = 0 ∧ state.winMinor = 0) ∧
            decoded = baseProjection state
        else (1 ≤ state.remaining ∧ state.remaining ≤ state.awarded ∧ state.betMinor ≠ 0) ∧
          decoded = activeProjection mode state := by
  simp only [featureState, bind_ok, integer_ok, decimal_ok]
  constructor
  · rintro ⟨mode, decodes, _, ⟨remaining, rfl⟩, _, ⟨awarded, rfl⟩, _, ⟨bet, rfl⟩, _, ⟨win, rfl⟩, _,
      ⟨level, rfl⟩, _, ⟨collected, rfl⟩, rest⟩
    refine ⟨⟨remaining, awarded, bet, win, level, collected⟩, mode, decodes, ?_⟩
    split at rest
    · rename_i base
      simp only [bind_ok, refuse_ok, exists_unit, pure_ok, not_or, not_not] at rest
      rw [if_pos base]
      exact ⟨rest.1, rest.2.symm⟩
    · rename_i active
      simp only [bind_ok, refuse_ok, exists_unit, pure_ok, not_or, not_lt] at rest
      rw [if_neg active]
      exact ⟨rest.1, rest.2.symm⟩
  · rintro ⟨⟨remaining, awarded, bet, win, level, collected⟩, mode, decodes, rest⟩
    refine ⟨mode, decodes, _, ⟨remaining, rfl⟩, _, ⟨awarded, rfl⟩, _, ⟨bet, rfl⟩, _, ⟨win, rfl⟩, _,
      ⟨level, rfl⟩, _, ⟨collected, rfl⟩, ?_⟩
    split at rest
    · rename_i base
      rw [if_pos base]
      simp only [bind_ok, refuse_ok, exists_unit, pure_ok, not_or, not_not]
      exact ⟨rest.1, rest.2.symm⟩
    · rename_i active
      rw [if_neg active]
      simp only [bind_ok, refuse_ok, exists_unit, pure_ok, not_or, not_lt]
      exact ⟨rest.1, rest.2.symm⟩

theorem makeFeatureStateResponse_of_set {state : Game.FeatureState} (set : state.mode ≠ .unset) :
    makeFeatureStateResponse state = state := by
  simp [makeFeatureStateResponse, set]

/-- The mode of a projection tells whether free spins are running. -/
theorem projected_state {state : Game.FeatureState} {path : String} {decoded : FeatureState}
    (set : state.mode ≠ .unset)
    (projected : featureState (makeFeatureStateResponse state) path = .ok decoded) :
    if state.active then decoded.mode ≠ .base ∧ decoded = activeProjection decoded.mode state ∧
        ∃ path, decodeMode state.mode path = .ok decoded.mode
      else decoded = baseProjection state := by
  rw [makeFeatureStateResponse_of_set set] at projected
  obtain ⟨_, mode, decodes, rest⟩ := featureState_ok.mp projected
  split at rest
  · rename_i base
    obtain ⟨⟨remaining, _⟩, rfl⟩ := rest
    have inactive : state.active = false := by simp [Game.FeatureState.active, remaining]
    simp [inactive]
  · rename_i feature
    obtain ⟨⟨running, _⟩, rfl⟩ := rest
    have notNone : state.mode ≠ .none := by
      intro none
      rw [none] at decodes
      exact feature (Except.ok.inj decodes).symm
    have isActive : state.active = true := by
      simp only [Game.FeatureState.active, Bool.and_eq_true, decide_eq_true_eq]
      exact ⟨notNone, by omega⟩
    rw [if_pos isActive]
    exact ⟨feature, rfl, _, decodes⟩

/-- **Every state the engine accepts has a projection.** -/
theorem accepted_projects {config : Game.Config} (facts : Game.ConfigFacts config) {bet : Int}
    {state : Game.FeatureState} (legal : config.validateBet bet = .ok ())
    (accepted : Game.AcceptedFeature config bet state) (path : String) :
    ∃ origin, featureState (makeFeatureStateResponse state) path = .ok origin := by
  obtain ⟨leastBet, mostBet⟩ := Game.validateBet_bounds legal
  obtain ⟨capFits, _⟩ := facts.capMinor legal
  obtain ⟨_, _, capBound, _⟩ := Game.safeMul_ok.mp capFits
  have cap := facts.cap
  have positive := facts.leastBet
  have meter := accepted.meter
  have most := meter.most
  have levels := facts.feature.thresholdCount
  have level : 1 ≤ state.rageLevel ∧ state.rageLevel ≤ 1000000 := by
    have least := meter.least
    simp only [Game.defaultRageLevel] at least
    simp only [Game.maxRageCollected] at levels
    omega
  have collected : 0 ≤ state.rageCollected ∧ state.rageCollected ≤ 1000000 :=
    ⟨meter.nonneg, meter.bounded⟩
  cases isActive : state.active with
  | false =>
      have none := accepted.base isActive
      have set : state.mode ≠ .unset := by simp [none.mode]
      rw [makeFeatureStateResponse_of_set set]
      refine ⟨baseProjection state, featureState_ok.mpr ⟨?_, .base, ?_, ?_⟩⟩
      · refine ⟨?_, ?_, ?_, ?_, level, collected⟩
        · rw [none.remaining]; decide
        · rw [none.awarded]; decide
        · rw [none.bet]; decide
        · rw [none.win]; decide
      · exact decodeMode_ok.mpr (.inl ⟨none.mode, rfl⟩)
      · rw [if_pos rfl]
        exact ⟨⟨none.remaining, none.awarded, none.bet, none.win⟩, rfl⟩
  | true =>
      have counters := accepted.feature isActive
      have left := counters.left
      have bounded := counters.bounded
      have winCapped := counters.winCapped
      have running : 0 < state.remaining := by
        simp only [Game.FeatureState.active, Bool.and_eq_true, decide_eq_true_eq] at isActive
        exact isActive.2
      simp only [Game.maxFeatureSpins] at bounded
      rw [makeFeatureStateResponse_of_set counters.mode.set]
      obtain ⟨mode, decodes, feature⟩ : ∃ mode,
          decodeMode state.mode s!"{path}.mode" = .ok mode ∧ mode ≠ .base := by
        rcases counters.mode with ⟨mode, _⟩ | ⟨mode, _⟩
        · exact ⟨.expansion, decodeMode_ok.mpr (.inr (.inl ⟨mode, rfl⟩)), by decide⟩
        · exact ⟨.overdrive, decodeMode_ok.mpr (.inr (.inr ⟨mode, rfl⟩)), by decide⟩
      refine ⟨activeProjection mode state, featureState_ok.mpr ⟨?_, mode, decodes, ?_⟩⟩
      · refine ⟨by omega, by omega, ?_, ⟨counters.winNonneg, by omega⟩, level, collected⟩
        rw [counters.sameBet]
        rw [cap] at capBound
        omega
      · rw [if_neg feature]
        exact ⟨⟨by omega, left, by rw [counters.sameBet]; omega⟩, rfl⟩

/-! ## The events of the round -/

theorem forall₂_mem_right {α β : Type} {related : α → β → Prop} {left : List α} {right : List β}
    (all : List.Forall₂ related left right) {b : β} (member : b ∈ right) :
    ∃ a ∈ left, related a b := by
  induction all with
  | nil => simp at member
  | @cons a _ _ _ here _ ih =>
      rcases List.mem_cons.mp member with rfl | later
      · exact ⟨a, List.mem_cons_self, here⟩
      · obtain ⟨found, inRest, holds⟩ := ih later
        exact ⟨found, List.mem_cons_of_mem _ inRest, holds⟩

/-- The free spins an event of the server awards. -/
def spinsAwarded (event : Game.Event) : Int :=
  if event.type = .freeSpinAwarded then event.count else 0

section Decoded

variable {betMinor : Int} {events : List Game.Event} {decoded : List FeatureEvent}

theorem reads_of_translated (betMinor : Int)
    (translated : translatedEvents (events.map makeEventResponse) = .ok decoded) :
    List.Forall₂ (fun event decoded => ∃ path, Reads betMinor event path decoded) events decoded := by
  have related := translatedEvents_ok translated
  rw [List.forall₂_map_left_iff] at related
  exact related.imp fun event decoded ⟨path, _, body⟩ => ⟨path, eventBody_reads betMinor body⟩

theorem decoded_freeSpins
    (reads : List.Forall₂ (fun event decoded => ∃ path, Reads betMinor event path decoded)
      events decoded) :
    (decoded.map (·.freeSpins)).sum = (events.map spinsAwarded).sum := by
  induction reads with
  | nil => rfl
  | cons here _ ih =>
      obtain ⟨path, reads⟩ := here
      rw [List.map_cons, List.sum_cons, List.map_cons, List.sum_cons, ih, reads.freeSpins]
      rfl

/-- The collection the client finds is one the server reports, and it finds any. -/
theorem decoded_surge
    (reads : List.Forall₂ (fun event decoded => ∃ path, Reads betMinor event path decoded)
      events decoded) :
    match decoded.findSome? (·.surge?) with
    | none => ∀ event ∈ events, event.type ≠ .surgeCollected
    | some collection => ∃ event ∈ events, event.type = .surgeCollected ∧
        collection = { count := event.count, level := event.level, total := event.total } := by
  cases found : decoded.findSome? (·.surge?) with
  | none =>
      rw [List.findSome?_eq_none_iff] at found
      intro event member type
      obtain ⟨decodedEvent, there, path, reads⟩ := forall₂_mem_right reads.flip member
      have missing := found decodedEvent there
      rw [reads.surge, if_pos type] at missing
      cases missing
  | some collection =>
      obtain ⟨decodedEvent, there, same⟩ := List.exists_of_findSome?_eq_some found
      obtain ⟨event, member, path, reads⟩ := forall₂_mem_right reads there
      rw [reads.surge] at same
      split at same
      · rename_i type
        exact ⟨event, member, type, (Option.some.inj same).symm⟩
      · cases same

theorem decoded_completion {completion : Completion}
    (reads : List.Forall₂ (fun event decoded => ∃ path, Reads betMinor event path decoded)
      events decoded)
    (found : decoded.findSome? (·.completion?) = some completion) :
    ∃ event ∈ events, event.type = .freeSpinsCompleted ∧ ∃ path mode,
      decodeMode (makeEventResponse event).mode path = .ok mode ∧
        completion = { mode := mode, awarded := event.awarded
                       cumulativeWinMinor := event.cumulativeWinMinor } := by
  obtain ⟨decodedEvent, there, same⟩ := List.exists_of_findSome?_eq_some found
  obtain ⟨event, member, path, reads⟩ := forall₂_mem_right reads there
  by_cases type : event.type = .freeSpinsCompleted
  · obtain ⟨mode, decodes, shown⟩ := reads.completed type
    rw [shown] at same
    exact ⟨event, member, type, _, mode, decodes, (Option.some.inj same).symm⟩
  · rw [reads.running type] at same
    cases same

end Decoded

/-! ## What the validator fixes -/

section Validated

variable {betMinor : Int} {feature : Game.FeatureState} {outcome : Game.SpinOutcome}

/-- An event of a kind that occurs once is that one. -/
theorem eventAt_only {kind : Game.EventType} {index : Nat} {event : Game.Event}
    (only : Game.eventIndexes outcome.events kind = [index]) (member : event ∈ outcome.events)
    (type : event.type = kind) : Game.eventAt outcome.events index = event := by
  obtain ⟨place, found⟩ := List.getElem?_of_mem member
  have listed : place ∈ Game.eventIndexes outcome.events kind :=
    Game.mem_eventIndexes.mpr ⟨event, found, type⟩
  rw [only, List.mem_singleton] at listed
  rw [← listed, Game.eventAt_of_getElem? found]

/-- The meter a base spin started from: the next one where nothing was collected,
and the one three surges report. -/
theorem rage_origin
    (accepted : Game.validateRageAndWheelEvents betMinor feature outcome = .ok ())
    (base : feature.active = false) :
    ((∀ event ∈ outcome.events, event.type ≠ .surgeCollected) →
      outcome.nextFeature.rageLevel = feature.rageLevel ∧
        outcome.nextFeature.rageCollected = feature.rageCollected) ∧
    (∀ event ∈ outcome.events, event.type = .surgeCollected → event.count = 3 →
      event.level = feature.rageLevel ∧ event.total = feature.rageCollected) := by
  simp only [Game.validateRageAndWheelEvents, base, Bool.false_eq_true, if_false] at accepted
  split at accepted
  · simp only [bind_ok, refuse_ok, exists_unit, not_or, not_not] at accepted
    obtain ⟨⟨none, _⟩, collected, level⟩ := accepted
    rw [Game.eventIndexes_eq_nil] at none
    exact ⟨fun _ => ⟨level, collected⟩, fun event member type => absurd type (none event member)⟩
  simp only [bind_ok, refuse_ok, exists_unit] at accepted
  obtain ⟨_, accepted⟩ := accepted
  split at accepted
  case h_2 => cases accepted
  rename_i index only
  obtain ⟨there, kind⟩ := Game.eventAt_mem only
  refine ⟨fun none => absurd kind (none _ there), fun event member type three => ?_⟩
  simp only [bind_ok, refuse_ok, exists_unit] at accepted
  obtain ⟨_, collection, _⟩ := accepted
  rw [eventAt_only only member type] at collection
  simp only [Game.validateSurgeCollection, bind_ok, refuse_ok, exists_unit, not_or, not_not,
    not_and] at collection
  obtain ⟨⟨count, _⟩, snapshot, _⟩ := collection
  exact snapshot (count.symm.trans three)

theorem countFreeSpinAwards_sum {events : List Game.Event} {start final : Game.SpinCounters}
    (counted : events.foldlM Game.countFreeSpinAward start = .ok final) :
    final.remaining = start.remaining + (events.map spinsAwarded).sum ∧
      final.awarded = start.awarded + (events.map spinsAwarded).sum := by
  induction events generalizing start with
  | nil =>
      cases pure_ok.mp counted
      simp
  | cons event rest ih =>
      rw [List.foldlM_cons, bind_ok] at counted
      obtain ⟨next, stepped, ran⟩ := counted
      obtain ⟨remaining, awarded⟩ := ih ran
      have step : next.remaining = start.remaining + spinsAwarded event ∧
          next.awarded = start.awarded + spinsAwarded event := by
        unfold Game.countFreeSpinAward at stepped
        unfold spinsAwarded
        split at stepped
        · rename_i other
          cases pure_ok.mp stepped
          simp [other]
        · rename_i won
          rw [not_not] at won
          simp only [bind_ok, refuse_ok, exists_unit, pure_ok] at stepped
          obtain ⟨_, rfl⟩ := stepped
          simp [won]
      rw [List.map_cons, List.sum_cons]
      omega

/-- What a free spin leaves of the state it started from. -/
structure FreeSpinUndone (feature : Game.FeatureState) (outcome : Game.SpinOutcome) : Prop where
  rageLevel : outcome.nextFeature.rageLevel = feature.rageLevel
  rageCollected : outcome.nextFeature.rageCollected = feature.rageCollected
  goesOn : outcome.nextFeature.active = true → outcome.nextFeature.mode = feature.mode ∧
    outcome.nextFeature.winMinor = feature.winMinor + outcome.totalWinMinor ∧
    outcome.nextFeature.remaining =
      feature.remaining - 1 + (outcome.events.map spinsAwarded).sum ∧
    outcome.nextFeature.awarded = feature.awarded + (outcome.events.map spinsAwarded).sum
  ends : outcome.nextFeature.active = false →
    feature.remaining - 1 + (outcome.events.map spinsAwarded).sum = 0 ∧
    ∀ event ∈ outcome.events, event.type = .freeSpinsCompleted → event.mode = feature.mode ∧
      event.awarded = feature.awarded + (outcome.events.map spinsAwarded).sum ∧
      event.cumulativeWinMinor = feature.winMinor + outcome.totalWinMinor

theorem completion_undone (accepted : Game.validateFeatureCompletion feature outcome = .ok ())
    (isActive : feature.active = true) : FreeSpinUndone feature outcome := by
  obtain ⟨level, collected⟩ := Game.completion_meter accepted isActive
  simp only [Game.validateFeatureCompletion, isActive, Bool.true_eq_false, if_false, bind_ok,
    refuse_ok, exists_unit, Game.addOutcomeMoney_ok] at accepted
  obtain ⟨_, ⟨_, _, _, rfl⟩, want, counted, _, rest⟩ := accepted
  obtain ⟨remaining, awarded⟩ := countFreeSpinAwards_sum counted
  refine ⟨level, collected, fun goesOn => ?_, fun ended => ?_⟩
  · rw [if_pos goesOn] at rest
    simp only [refuse_ok, not_or, not_not] at rest
    obtain ⟨_, mode, _, win, _, left, total⟩ := rest
    exact ⟨mode, win, left.trans remaining, total.trans awarded⟩
  · rw [if_neg (by simp [ended])] at rest
    simp only [bind_ok, refuse_ok, exists_unit, not_or, not_not] at rest
    obtain ⟨⟨none, only⟩, mode, spins, win⟩ := rest
    refine ⟨remaining.symm.trans none, fun event member type => ?_⟩
    rw [eventAt_only only member type] at mode spins win
    exact ⟨mode, spins.trans awarded, win⟩

end Validated

/-! ## The origin of a committed round -/

theorem decodedSpinData_ok {betMinor : Int} {outcome : Game.SpinOutcome} {result : SpinResult}
    (decoded : decodedSpinData betMinor outcome = .ok result) :
    translatedEvents (outcome.events.map makeEventResponse) = .ok result.events ∧
      featureState (makeFeatureStateResponse outcome.nextFeature) "response.data.feature" =
        .ok result.featureState ∧
      result.totalWinMinor = outcome.totalWinMinor := by
  simp only [decodedSpinData, bind_ok, exists_unit, pure_ok, decimal_ok] at decoded
  obtain ⟨_, _, _, events, _, feature, _, _, _, ⟨_, rfl⟩, _, rfl⟩ := decoded
  exact ⟨events, feature, rfl⟩

theorem decodeMode_unique {mode : Game.FeatureMode} {path other : String}
    {decoded otherDecoded : FeatureMode} (left : decodeMode mode path = .ok decoded)
    (right : decodeMode mode other = .ok otherDecoded) : decoded = otherDecoded := by
  rw [decodeMode_ok] at left right
  rcases left with ⟨mode, rfl⟩ | ⟨mode, rfl⟩ | ⟨mode, rfl⟩ <;> simpa [mode] using right

theorem subtractMoney_ok {left right difference : Int} {path : String}
    (subtracted : subtractMoney left right path = .ok difference) : difference = left - right := by
  simp only [subtractMoney, bind_ok, refuse_ok, exists_unit, pure_ok] at subtracted
  exact subtracted.2.symm

section Recovered

variable {betMinor : Int} {feature : Game.FeatureState} {outcome : Game.SpinOutcome}
  {result : SpinResult} {pending : PendingRound} {origin answer : FeatureState}

/-- A base spin. -/
theorem recovered_base (inactive : feature.active = false)
    (accepted : Game.validateRageAndWheelEvents betMinor feature outcome = .ok ())
    (reads : List.Forall₂ (fun event decoded => ∃ path, Reads betMinor event path decoded)
      outcome.events result.events)
    (next : result.featureState.rageLevel = outcome.nextFeature.rageLevel ∧
      result.featureState.rageCollected = outcome.nextFeature.rageCollected)
    {meter : RageMeter} (proved : provableLegacyRageOriginForBase result = .ok meter) :
    meter.rageLevel = feature.rageLevel ∧ meter.rageCollected = feature.rageCollected := by
  obtain ⟨quiet, guaranteed⟩ := rage_origin accepted inactive
  have surge := decoded_surge reads
  unfold provableLegacyRageOriginForBase at proved
  cases found : result.events.findSome? (·.surge?) with
  | none =>
      rw [found] at surge proved
      cases pure_ok.mp proved
      obtain ⟨level, collected⟩ := quiet surge
      exact ⟨next.1.trans level, next.2.trans collected⟩
  | some collection =>
      rw [found] at surge proved
      simp only [bind_ok, refuse_ok, exists_unit, not_not, pure_ok] at proved
      obtain ⟨three, rfl⟩ := proved
      obtain ⟨event, member, type, rfl⟩ := surge
      exact guaranteed event member type three

/-- A free spin that goes on. -/
theorem recovered_active (undone : FreeSpinUndone feature outcome)
    (goesOn : outcome.nextFeature.active = true)
    (isOrigin : origin = activeProjection origin.mode feature)
    (bet : pending.ledger.betMinor = feature.betMinor)
    (mode : pending.ledger.originMode = origin.mode)
    (next : result.featureState = activeProjection result.featureState.mode outcome.nextFeature)
    (total : result.totalWinMinor = outcome.totalWinMinor)
    (ran : reconstructActiveOrigin pending result (outcome.events.map spinsAwarded).sum =
      .ok answer) : answer = origin := by
  obtain ⟨_, win, remaining, awarded⟩ := undone.goesOn goesOn
  unfold reconstructActiveOrigin at ran
  rw [next] at ran
  simp only [activeProjection, bind_ok, exists_unit, pure_ok] at ran
  obtain ⟨_, winMinor, subtracted, rfl⟩ := ran
  rw [isOrigin]
  simp only [activeProjection, FeatureState.mk.injEq, Option.some.injEq]
  rw [subtractMoney_ok subtracted]
  refine ⟨mode, by omega, by omega, bet, by omega, undone.rageLevel, undone.rageCollected⟩

/-- The last free spin of a feature. -/
theorem recovered_terminal (undone : FreeSpinUndone feature outcome)
    (ended : outcome.nextFeature.active = false)
    (isOrigin : origin = activeProjection origin.mode feature)
    (bet : pending.ledger.betMinor = feature.betMinor)
    (mode : pending.ledger.originMode = origin.mode)
    (reads : List.Forall₂ (fun event decoded => ∃ path, Reads betMinor event path decoded)
      outcome.events result.events)
    (next : result.featureState.rageLevel = outcome.nextFeature.rageLevel ∧
      result.featureState.rageCollected = outcome.nextFeature.rageCollected)
    (total : result.totalWinMinor = outcome.totalWinMinor)
    (ran : reconstructTerminalOrigin pending result (outcome.events.map spinsAwarded).sum =
      .ok answer) : answer = origin := by
  obtain ⟨last, completed⟩ := undone.ends ended
  unfold reconstructTerminalOrigin at ran
  cases found : result.events.findSome? (·.completion?) with
  | none =>
      rw [found] at ran
      cases ran
  | some completion =>
      rw [found] at ran
      simp only [bind_ok, refuse_ok, exists_unit, not_or, not_not, pure_ok] at ran
      obtain ⟨⟨_, none⟩, winMinor, subtracted, rfl⟩ := ran
      obtain ⟨event, member, type, _, _, _, rfl⟩ := decoded_completion reads found
      obtain ⟨_, spins, win⟩ := completed event member type
      rw [isOrigin]
      simp only [activeProjection, FeatureState.mk.injEq, Option.some.injEq]
      rw [subtractMoney_ok subtracted]
      dsimp only
      exact ⟨mode, by omega, by omega, bet, by omega, next.1.trans undone.rageLevel,
        next.2.trans undone.rageCollected⟩

end Recovered

/-- **The origin of a recovered round is the state its spin started from, or it is
refused.**  From whatever accepted state a round is spun and whatever the client
decodes of its result, a ledger that kept the mode of that state alone gives the
client's projection of the state, or an error. -/
theorem reconstructOriginFeatureState_exact {σ : Type} {engine : Game.Engine σ}
    {input : Game.SpinInput} {outcome : Game.SpinOutcome} {s s' : σ}
    (spun : engine.spin input s = .ok (outcome, s')) {result : SpinResult}
    (decoded : decodedSpinData input.betMinor outcome = .ok result) :
    ∃ origin, featureState (makeFeatureStateResponse (canonicalFeatureState input.feature))
        "response.data.session.feature" = .ok origin ∧
      ∀ pending : PendingRound, pending.originFeatureState = none →
        pending.ledger = .version1 input.betMinor origin.mode →
        reconstructOriginFeatureState pending result = .ok origin ∨
          ∃ error, reconstructOriginFeatureState pending result = .error error := by
  obtain ⟨legal, _, _, accepted⟩ := Game.Engine.spin_ok.mp spun
  have feature := Game.spin_feature spun
  obtain ⟨_, structured, _⟩ := Game.validateOutcomeAgainstValidatedConfig_ok.mp accepted
  obtain ⟨_, _, _, _, _, _, _, ordered⟩ := Game.validateOutcomeStructure_ok.mp structured
  obtain ⟨_, _, _, rage, completion⟩ := Game.validateFeatureEventOrder_ok.mp ordered
  rw [Game.FeatureState.canonicalFeatureState_idem] at rage completion
  obtain ⟨events, nextDecoded, total⟩ := decodedSpinData_ok decoded
  have reads := reads_of_translated input.betMinor events
  have nextSet : outcome.nextFeature.mode ≠ .unset := by
    rw [← feature.canonical]
    exact Game.canonicalFeatureState_mode _
  have next := projected_state nextSet nextDecoded
  have meter : result.featureState.rageLevel = outcome.nextFeature.rageLevel ∧
      result.featureState.rageCollected = outcome.nextFeature.rageCollected := by
    split at next
    · rw [next.2.1]
      exact ⟨rfl, rfl⟩
    · rw [next]
      exact ⟨rfl, rfl⟩
  obtain ⟨origin, projected⟩ := accepted_projects engine.valid.facts legal feature.before
    "response.data.session.feature"
  have isOrigin := projected_state (Game.canonicalFeatureState_mode _) projected
  refine ⟨origin, projected, fun pending missing ledger => ?_⟩
  cases ran : reconstructOriginFeatureState pending result with
  | error error => exact .inr ⟨error, rfl⟩
  | ok answer =>
      refine .inl (congrArg Except.ok ?_)
      have mode : pending.ledger.originMode = origin.mode := by rw [ledger]; rfl
      unfold reconstructOriginFeatureState at ran
      rw [missing, decoded_freeSpins reads] at ran
      dsimp only at ran
      cases isActive : (canonicalFeatureState input.feature).active with
      | false =>
          rw [isActive] at isOrigin
          simp only [Bool.false_eq_true, if_false] at isOrigin
          rw [mode, if_pos (by rw [isOrigin]; rfl)] at ran
          simp only [bind_ok, pure_ok] at ran
          obtain ⟨proved, run, rfl⟩ := ran
          obtain ⟨level, collected⟩ := recovered_base isActive rage reads meter run
          rw [isOrigin, level, collected]
          rfl
      | true =>
          rw [if_pos isActive] at isOrigin
          obtain ⟨running, isOrigin, _, originMode⟩ := isOrigin
          have undone := completion_undone completion isActive
          have bet : pending.ledger.betMinor = (canonicalFeatureState input.feature).betMinor := by
            rw [ledger, (feature.before.feature isActive).sameBet]
            rfl
          rw [if_neg (by rw [mode]; exact running)] at ran
          cases goesOn : outcome.nextFeature.active with
          | true =>
              rw [if_pos goesOn] at next
              obtain ⟨_, isNext, _, nextMode⟩ := next
              rw [(undone.goesOn goesOn).1] at nextMode
              rw [if_pos (by rw [mode]; exact decodeMode_unique nextMode originMode)] at ran
              exact recovered_active undone goesOn isOrigin bet mode isNext total ran
          | false =>
              simp only [goesOn, Bool.false_eq_true, if_false] at next
              have other : ¬ result.featureState.mode = pending.ledger.originMode := by
                rw [mode, next]
                exact fun same => running same.symm
              rw [if_neg other] at ran
              exact recovered_terminal undone goesOn isOrigin bet mode reads meter total ran

/-- A free spin of the demo game, as the client decodes it. -/
def freeSpinResult : SpinResult :=
  { betMinor := 10, totalWinMinor := 3
    wins := Game.freeSpinOutcome.wins.map makeWinResponse
    events := [.gridExpanded 3 27]
    featureState := activeProjection .expansion Game.freeSpinOutcome.nextFeature }

/-- Its ledger gives back the state after the trigger. -/
theorem freeSpin_origin :
    reconstructOriginFeatureState { ledger := .version1 10 .expansion } freeSpinResult =
      .ok (activeProjection .expansion Game.triggerOutcome.nextFeature) := by
  have spun : Game.demoEngine.spin { betMinor := 10, feature := Game.triggerOutcome.nextFeature }
      [0, 0, 22, 22, 0, 54, 54, 0, 22, 42] = .ok (Game.freeSpinOutcome, []) := by decide +kernel
  have decoded : decodedSpinData 10 Game.freeSpinOutcome = .ok freeSpinResult := by decide +kernel
  obtain ⟨origin, projected, exact⟩ := reconstructOriginFeatureState_exact spun decoded
  obtain rfl : activeProjection .expansion Game.triggerOutcome.nextFeature = origin :=
    Except.ok.inj (Eq.trans (by decide +kernel) projected)
  rcases exact { ledger := .version1 10 .expansion } rfl rfl with same | ⟨error, refused⟩
  · exact same
  · have returns : (reconstructOriginFeatureState { ledger := .version1 10 .expansion }
        freeSpinResult).isOk = true := by decide +kernel
    rw [refused] at returns
    cases returns

end SlotsGame.Client
