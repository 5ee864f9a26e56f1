/-
# SlotsGame.Rgs.Outcome -- the outcome a coordinator prepares a round with

`prepareOutcome` plays one spin of the definition the request names and writes its
result down; `prepareIntent` is the generator the coordinator hands to its store,
with the two admissions around it.  `BuiltResult` is what a store may rely on.
-/
import SlotsGame.Game.FreeSpins
import SlotsGame.Rgs.Repository

namespace SlotsGame.Rgs

open SlotsGame.Game SlotsGame.Theory FeatureState

set_option autoImplicit false

variable {ω : Type}

/-! ## Definitions -/

/-- `game.Spinner`, whose approved implementations are engines.  A spin that fails
has still drawn. -/
structure Spinner (ω : Type) where
  spin : SpinInput → ω → Except String SpinOutcome × ω
  engine : ∀ {input : SpinInput} {world after : ω} {outcome : SpinOutcome},
    spin input world = (.ok outcome, after) →
      ∃ (σ : Type) (engine : Engine σ) (s s' : σ), engine.spin input s = .ok (outcome, s')

/-- `Resolve`: game, version and digest; `none` is a nil engine. -/
abbrev DefinitionRegistry (ω : Type) :=
  String → String → String → Except RgsError (Option (Spinner ω))

/-- The result of a spin that was charged `charged`. -/
def spinResult (codec : Codec) (session : Session) (request : SpinRequest) (charged : Int)
    (outcome : SpinOutcome) : SpinResult :=
  { resultSchemaVersion := resultSchemaPaidFactsV1, operatorID := request.operatorID
    sessionID := request.sessionID, roundID := request.roundID, gameID := request.gameID
    definitionVersion := request.definitionVersion, definitionHash := request.definitionHash
    currency := request.currency, roundKind := request.roundKind
    serverTransactionID := walletOperationID codec request, walletTransactionID := ""
    startRevision := request.startRevision, endRevision := 0, sequence := session.sequence + 1
    betMinor := request.betMinor, chargedBetMinor := charged, balanceMinor := 0
    totalWinMinor := outcome.totalWinMinor, idleDisconnectAt := 0, grid := outcome.grid
    wins := outcome.wins, events := outcome.events, featureState := outcome.nextFeature }

/-- What is charged: a free spin is played at the bet it was won with, for nothing. -/
def chargedBet (session : Session) (request : SpinRequest) : Except RgsError Int :=
  if session.feature.active = true then do
    refuse (session.feature.betMinor ≠ request.betMinor) (invalidRequest "feature bet is locked")
    return 0
  else return request.betMinor

def prepareOutcome (codec : Codec) (definitions : DefinitionRegistry ω) (request : SpinRequest)
    (session : Session) (world : ω) : Except RgsError SpinResult × ω :=
  match chargedBet session request,
      definitions request.gameID request.definitionVersion request.definitionHash with
  | .error error, _ => (.error error, world)
  | .ok _, .error error => (.error error, world)
  | .ok _, .ok none =>
      (.error { kind := .storage, detail := "rgs: definition registry returned a nil engine" },
        world)
  | .ok charged, .ok (some definition) =>
      let input : SpinInput := { betMinor := request.betMinor, feature := session.feature }
      let (spun, world) := definition.spin input world
      match spun with
      | .error text => (.error { kind := .storage, detail := "rgs: evaluate spin: " ++ text }, world)
      | .ok outcome =>
          if outcome.totalWinMinor < 0 then
            (.error (invalidRequest "engine returned a negative win"), world)
          else
            match validateOutcomeStructure input outcome with
            | .error text =>
                (.error { kind := .storage
                          detail := "rgs: engine returned an invalid outcome: " ++ text }, world)
            | .ok () => (.ok (spinResult codec session request charged outcome), world)

/-! ## The generator of a request -/

/-- The two gates of a new round: the capacity of the wallet route, and the shared
economic budget, which charges one unit.  Either may be absent. -/
structure IntentGates (ω : Type) where
  admitNewIntent : Option (String → ω → Except RgsError Unit × ω)
  admitNewEconomicIntent : Option (String → Nat → ω → Except RgsError Unit × ω)

/-- Pass a gate, if there is one. -/
def passGate (gate : Option (ω → Except RgsError Unit × ω)) (world : ω) :
    Except RgsError Unit × ω :=
  match gate with
  | none => (.ok (), world)
  | some admission => admission world

/-- The generator `Spin` hands to its store. -/
def prepareIntent (codec : Codec) (definitions : DefinitionRegistry ω) (gates : IntentGates ω)
    (request : SpinRequest) : PrepareOutcome ω := fun session world =>
  match passGate (gates.admitNewIntent.map (· request.operatorID)) world with
  | (.error error, world) =>
      (.error { kind := .walletUnavailable, detail := error.detail }, world)
  | (.ok (), world) =>
      match prepareOutcome codec definitions request session world with
      | (.error error, world) => (.error error, world)
      | (.ok result, world) =>
          match validatePreparedResult codec session request result with
          | .error error => (.error error, world)
          | .ok () =>
              match passGate (gates.admitNewEconomicIntent.map (· request.operatorID 1)) world with
              | (.error error, world) => (.error error, world)
              | (.ok (), world) => (.ok result, world)

/-! ## What a prepared result is -/

/-- A result that a coordinator has written down for a session and a request. -/
structure BuiltResult (codec : Codec) (session : Session) (request : SpinRequest)
    (result : SpinResult) : Prop where
  built : ∃ charged outcome, result = spinResult codec session request charged outcome ∧
    chargedBet session request = .ok charged ∧ 0 ≤ outcome.totalWinMinor ∧
    validateOutcomeStructure { betMinor := request.betMinor, feature := session.feature } outcome =
      .ok () ∧
    validateOutcomeFeature outcome.nextFeature request.betMinor = .ok () ∧
    canonicalFeatureState outcome.nextFeature = outcome.nextFeature
  checked : validatePreparedResult codec session request result = .ok ()

/-- A generator that only ever returns results a coordinator has written down. -/
def BuiltBy (codec : Codec) (request : SpinRequest) (prepare : PrepareOutcome ω) : Prop :=
  ∀ session world result after, prepare session world = (.ok result, after) →
    BuiltResult codec session request result

theorem prepareOutcome_built {codec : Codec} {definitions : DefinitionRegistry ω}
    {request : SpinRequest} {session : Session} {world after : ω} {result : SpinResult}
    (ran : prepareOutcome codec definitions request session world = (.ok result, after)) :
    ∃ charged outcome, result = spinResult codec session request charged outcome ∧
      chargedBet session request = .ok charged ∧ 0 ≤ outcome.totalWinMinor ∧
      validateOutcomeStructure { betMinor := request.betMinor, feature := session.feature }
        outcome = .ok () ∧
      validateOutcomeFeature outcome.nextFeature request.betMinor = .ok () ∧
      canonicalFeatureState outcome.nextFeature = outcome.nextFeature := by
  unfold prepareOutcome at ran
  cases charge : chargedBet session request with
  | error error => simp [charge] at ran
  | ok charged =>
      cases resolved : definitions request.gameID request.definitionVersion
          request.definitionHash with
      | error error => simp [charge, resolved] at ran
      | ok found =>
          cases found with
          | none => simp [charge, resolved] at ran
          | some definition =>
              simp only [charge, resolved] at ran
              set input : SpinInput := { betMinor := request.betMinor, feature := session.feature }
              cases spun : definition.spin input world with
              | mk reply drawn =>
                  simp only [spun] at ran
                  cases reply with
                  | error text => simp at ran
                  | ok outcome =>
                      simp only at ran
                      split at ran
                      · simp at ran
                      case isFalse nonneg =>
                        split at ran
                        · simp at ran
                        case h_2 structured =>
                          cases ran
                          obtain ⟨σ, engine, s, s', played⟩ := definition.engine spun
                          obtain ⟨_, _, _, _, _, _, feature, _⟩ :=
                            validateOutcomeStructure_ok.mp structured
                          exact ⟨charged, outcome, rfl, rfl, not_lt.mp nonneg, structured, feature,
                            (spin_feature played).canonical⟩

theorem prepareIntent_built (codec : Codec) (definitions : DefinitionRegistry ω)
    (gates : IntentGates ω) (request : SpinRequest) :
    BuiltBy codec request (prepareIntent codec definitions gates request) := by
  intro session world result after ran
  unfold prepareIntent at ran
  split at ran
  · cases ran
  · split at ran
    · cases ran
    case h_2 prepared =>
      split at ran
      · cases ran
      case h_2 checked =>
        split at ran
        · cases ran
        · cases ran
          exact ⟨prepareOutcome_built prepared, checked⟩

/-- The feature a result leaves is one a session is read back with. -/
theorem validatePersisted_of_outcome {feature : FeatureState} {bet : Int}
    (valid : validateOutcomeFeature feature bet = .ok ())
    (canonical : canonicalFeatureState feature = feature) :
    validatePersistedFeatureState feature = .ok () := by
  unfold validateOutcomeFeature at valid
  simp only [canonical, bind_ok] at valid
  obtain ⟨_, meter, state⟩ := valid
  unfold validatePersistedFeatureState
  rw [bind_ok]
  rw [refuse_ok] at meter
  refine ⟨(), by rwa [refuse_ok], ?_⟩
  cases active : feature.active with
  | false =>
      simp only [active, if_true, bind_ok, refuse_ok, exists_unit, not_or, not_not] at state ⊢
      obtain ⟨mode, remaining, awarded, betMinor, win⟩ := state
      exact ⟨by simp [mode], remaining, awarded, betMinor, win⟩
  | true =>
      simp only [active, Bool.true_eq_false, if_false, bind_ok, refuse_ok, exists_unit, not_or,
        not_lt, not_le, not_not] at state ⊢
      obtain ⟨mode, remaining, awarded, limit, limit', betMinor, positive, win⟩ := state
      exact ⟨mode, remaining, awarded, limit, limit', betMinor ▸ positive, win⟩

/-- A base spin is charged its bet, a free spin nothing at the bet it was won with. -/
theorem chargedBet_kind {session : Session} {request : SpinRequest} {charged : Int}
    (charge : chargedBet session request = .ok charged)
    (kind : request.roundKind = expectedRoundKind session.feature) :
    (request.roundKind = .base → charged = request.betMinor) ∧
      (request.roundKind = .freeSpin → charged = 0) ∧
      (session.feature.active = true → session.feature.betMinor = request.betMinor) := by
  unfold chargedBet at charge
  rw [kind]
  cases spinning : session.feature.active with
  | false =>
      simp only [spinning, Bool.false_eq_true, if_false, pure_ok] at charge
      simp [expectedRoundKind, spinning, charge]
  | true =>
      simp only [spinning, if_true, bind_ok, refuse_ok, exists_unit, not_not, pure_ok] at charge
      simp [expectedRoundKind, spinning, charge.1, charge.2.symm]

end SlotsGame.Rgs
