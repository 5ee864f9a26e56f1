/-
# SlotsGame.Game.WinCap -- one budget for a base spin and its free spins

`applyWinCap` pays a spin's awards in order, ways first, from what the cap of
the whole game has left, and `validateCappedAwardsAgainstConfig` recomputes that
projection from the grid and the nominal award of each event.
-/
import SlotsGame.Game.Ways
import SlotsGame.Theory.Budget

namespace SlotsGame.Game

open SlotsGame.Theory FeatureState Budget

set_option autoImplicit false

/-! ## Events by type -/

def isMonetaryAwardEvent (type : EventType) : Bool :=
  type = .wheelAwarded || type = .vaultAwarded

def eventIndexes (events : List Event) (type : EventType) : List Nat :=
  (events.zipIdx.filter fun (event, _) => event.type = type).map (·.2)

theorem mem_eventIndexes {events : List Event} {type : EventType} {index : Nat} :
    index ∈ eventIndexes events type ↔ ∃ event, events[index]? = some event ∧ event.type = type := by
  simp [eventIndexes, List.mk_mem_zipIdx_iff_getElem?]

theorem eventIndexes_eq_nil {events : List Event} {type : EventType} :
    eventIndexes events type = [] ↔ ∀ event ∈ events, event.type ≠ type := by
  simp only [List.eq_nil_iff_forall_not_mem, mem_eventIndexes, not_exists, not_and]
  constructor
  · intro none event member same
    obtain ⟨index, found⟩ := List.getElem?_of_mem member
    exact none index event found same
  · intro none index event found
    exact none event (List.mem_of_getElem? found)

/-! ## Projection of wins -/

structure PathProjection where
  projected : List PathAward := []
  remaining : Int

def payPath (award : PathAward) (paid : Int) : PathAward :=
  { award with paidAmountMinor := paid }

def projectPath (state : PathProjection) (award : PathAward) : PathProjection :=
  let paid := min award.amountMinor state.remaining
  { projected := state.projected ++ [payPath award paid]
    remaining := state.remaining - paid }

def projectWinToAmount (win : Win) (amount : Int) : Win :=
  { win with
    paidAmountMinor := amount
    pathAwards := (win.pathAwards.foldl projectPath { remaining := amount }).projected }

structure WinProjection where
  projected : List Win := []
  remaining : Int

def projectWin (state : WinProjection) (win : Win) : WinProjection :=
  let paid := min win.amountMinor state.remaining
  { projected := state.projected ++ [projectWinToAmount win paid]
    remaining := state.remaining - paid }

/-- The projected wins and what they were paid. -/
def projectWinsToBudget (wins : List Win) (budget : Int) : List Win × Int :=
  let state := wins.foldl projectWin { remaining := budget }
  (state.projected, budget - state.remaining)

theorem foldl_projectPath (paths projected : List PathAward) (budget : Int) :
    (paths.foldl projectPath { projected := projected, remaining := budget }).projected =
      projected ++ payAll PathAward.amountMinor payPath budget paths := by
  induction paths generalizing projected budget with
  | nil => simp [payAll]
  | cons award rest ih => simp [projectPath, payAll, ih]

theorem foldl_projectWin (wins projected : List Win) (budget : Int) :
    wins.foldl projectWin { projected := projected, remaining := budget } =
      { projected := projected ++ payAll Win.amountMinor projectWinToAmount budget wins
        remaining := budget - (spend budget (wins.map (·.amountMinor))).sum } := by
  induction wins generalizing projected budget with
  | nil => simp [payAll]
  | cons win rest ih => simp [projectWin, payAll, ih, sub_sub]

theorem projectWinToAmount_pathAwards (win : Win) (amount : Int) :
    (projectWinToAmount win amount).pathAwards =
      payAll PathAward.amountMinor payPath amount win.pathAwards := by
  simp [projectWinToAmount, foldl_projectPath]

/-- The paths of a projected win are paid in order from what the win is paid. -/
theorem projectWinToAmount_paid (win : Win) (amount : Int) :
    (projectWinToAmount win amount).pathAwards.map (·.paidAmountMinor) =
      spend amount (win.pathAwards.map (·.amountMinor)) := by
  rw [projectWinToAmount_pathAwards]
  exact payAll_map_paid PathAward.paidAmountMinor (fun _ _ => rfl) _ _

theorem projectWinToAmount_nominal (win : Win) (amount : Int) :
    (projectWinToAmount win amount).pathAwards.map (·.amountMinor) =
      win.pathAwards.map (·.amountMinor) := by
  rw [projectWinToAmount_pathAwards]
  refine payAll_map_kept _ _ (fun award paid => ?_) _ _
  rfl

/-- **The wins are paid in order from the budget.** -/
theorem projectWinsToBudget_eq (wins : List Win) (budget : Int) :
    projectWinsToBudget wins budget =
      (payAll Win.amountMinor projectWinToAmount budget wins,
        (spend budget (wins.map (·.amountMinor))).sum) := by
  simp [projectWinsToBudget, foldl_projectWin]

/-! ## Capping a spin -/

/-- What the game had paid before this spin. -/
def priorWinMinor (feature : FeatureState) : Int :=
  if feature.active then feature.winMinor else 0

structure ClipScan where
  events : List Event := []
  remaining : Int
  totalPaid : Int

def clipEvent (scan : ClipScan) (event : Event) : Except String ClipScan :=
  if isMonetaryAwardEvent event.type then do
    let paid := min event.amountMinor scan.remaining
    let totalPaid ← wrap "win cap: total paid: " (safeAdd scan.totalPaid paid)
    pure { events := scan.events ++ [{ event with amountMinor := paid }]
           remaining := scan.remaining - paid
           totalPaid := totalPaid }
  else pure { scan with events := scan.events ++ [event] }

def winCapEvent (config : Config) (capMinor : Int) : Event :=
  { type := .winCapReached, multiplier := config.maxWinMultiplier,
    cumulativeWinMinor := capMinor }

def completedEvent (mode : FeatureMode) (awarded cycleWin : Int) : Event :=
  { type := .freeSpinsCompleted, mode := mode, awarded := awarded,
    cumulativeWinMinor := cycleWin }

/-- Carry the paid sum into the next state, or close the feature with it. -/
def settleFeature (feature : FeatureState) (totalPaid cycleWin : Int) (outcome : SpinOutcome) :
    SpinOutcome :=
  let next := outcome.nextFeature
  if feature.active then
    if next.remaining = 0 then
      { outcome with
        events := outcome.events ++ [completedEvent feature.mode next.awarded cycleWin]
        nextFeature := next.withoutFreeSpins }
    else { outcome with nextFeature := { next with winMinor := cycleWin } }
  else if next.active then { outcome with nextFeature := { next with winMinor := totalPaid } }
  else outcome

def applyWinCap (config : Config) (input : SpinInput) (outcome : SpinOutcome) :
    Except String SpinOutcome := do
  refuse (outcome.totalWinMinor < 0) "win cap: invalid outcome"
  let feature := canonicalFeatureState input.feature
  let capMinor ← wrap "win cap: calculate cap: " (safeMul input.betMinor config.maxWinMultiplier)
  let priorWin := priorWinMinor feature
  refuse (priorWin < 0 ∨ priorWin > capMinor)
    "win cap: recovered game win exceeds the definition cap"
  let rawTotal := outcome.totalWinMinor
  let remaining := capMinor - priorWin
  let (projectedWins, waysPaid) := projectWinsToBudget outcome.wins remaining
  let clipped ← outcome.events.foldlM clipEvent
    { remaining := remaining - waysPaid, totalPaid := waysPaid }
  let cycleWin ← wrap "win cap: cycle win: " (safeAdd priorWin clipped.totalPaid)
  let reached := rawTotal > 0 ∧ rawTotal ≥ capMinor - priorWin
  let events := clipped.events ++ if reached then [winCapEvent config capMinor] else []
  pure (settleFeature feature clipped.totalPaid cycleWin
    { outcome with wins := projectedWins, events := events, totalWinMinor := clipped.totalPaid })

/-! ## Checking a capped spin -/

/-- The award of an event before the cap, when it carries one. -/
def nominalEventAward (betMinor : Int) (event : Event) : Except String (Option Int) :=
  match event.type with
  | .vaultAwarded => some <$> safeMul betMinor event.multiplier
  | .wheelAwarded =>
      if event.outcome ≠ some .instant then pure none
      else some <$> safeMul betMinor event.multiplier
  | _ => pure none

def sameWins (left right : List Win) : Bool := left = right

structure CappedScan where
  remaining : Int
  expectedTotal : Int
  rawTotal : Int

def checkCappedEvent (betMinor : Int) (scan : CappedScan) (event : Event) :
    Except String CappedScan := do
  match ← nominalEventAward betMinor event with
  | none => pure scan
  | some nominal =>
      let expected := min nominal scan.remaining
      refuse (event.amountMinor ≠ expected)
        "outcome: monetary event does not match the remaining max-win budget"
      let expectedTotal ← safeAdd scan.expectedTotal expected
      let rawTotal ← safeAdd scan.rawTotal nominal
      pure { remaining := scan.remaining - expected, expectedTotal := expectedTotal
             rawTotal := rawTotal }

def validateCappedAwardsAgainstConfig (config : Config) (input : SpinInput)
    (outcome : SpinOutcome) (raw : WaysResult) : Except String Unit := do
  let feature := canonicalFeatureState input.feature
  let capMinor ← wrap "outcome: max win: " (safeMul input.betMinor config.maxWinMultiplier)
  let priorWin := priorWinMinor feature
  refuse (priorWin < 0 ∨ priorWin > capMinor)
    "outcome: recovered game win exceeds the definition cap"
  let initialBudget := capMinor - priorWin
  let (expectedWins, waysPaid) := projectWinsToBudget raw.wins initialBudget
  refuse (sameWins expectedWins outcome.wins = false)
    "outcome: capped Ways wins do not match the authoritative grid and definition"
  let scan ← outcome.events.foldlM (checkCappedEvent input.betMinor)
    { remaining := initialBudget - waysPaid, expectedTotal := waysPaid, rawTotal := raw.total }
  refuse (outcome.totalWinMinor ≠ scan.expectedTotal)
    "outcome: total win does not match the authoritative max-win projection"
  let wantCapEvent := scan.rawTotal > 0 ∧ scan.rawTotal ≥ initialBudget
  let capEvents := eventIndexes outcome.events .winCapReached
  refuse (¬ (wantCapEvent ↔ capEvents.length = 1))
    "outcome: win cap boundary event does not match the mathematical result"
  refuse (wantCapEvent ∧ ∃ index ∈ capEvents.head?, ∃ event ∈ outcome.events[index]?,
      event.multiplier ≠ config.maxWinMultiplier ∨ event.cumulativeWinMinor ≠ capMinor)
    "outcome: win cap event does not match the immutable definition"

end SlotsGame.Game
