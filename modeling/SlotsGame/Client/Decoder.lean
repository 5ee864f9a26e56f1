/-
# SlotsGame.Client.Decoder -- what the client checks of the money of a result

A result is accepted only when its total is the sum of what it shows, and when
every win, path and monetary event is paid what the cap leaves it.  The client
is not told the budget of the cap: it takes the total of a capped result for it.
-/
import SlotsGame.Client.Messages
import SlotsGame.Game.Money

namespace SlotsGame.Client

open SlotsGame.Theory
open SlotsGame.Game (maxInt64)

set_option autoImplicit false

/-! ## The total -/

/-- What an event shows as paid. -/
def FeatureEvent.amountMinor : FeatureEvent → Int
  | wheelInstant _ _ amountMinor => amountMinor
  | vaultAwarded _ _ _ amountMinor => amountMinor
  | _ => 0

def validateVisibleAwardTotal (wins : List Win) (events : List FeatureEvent)
    (totalWinMinor : Int) : Except String Unit :=
  refuse ((wins.map (·.amountMinor)).sum + (events.map (·.amountMinor)).sum ≠ totalWinMinor)
    "totalWinMinor must equal the sum of visible win and monetary event awards"

/-! ## The projection of the cap -/

structure PaidFacts where
  nominal : Int
  paid : Int

def monetaryEventPaidFacts (betMinor : Int) : FeatureEvent → Option PaidFacts
  | .wheelInstant _ multiplier amountMinor =>
      some { nominal := betMinor * multiplier, paid := amountMinor }
  | .vaultAwarded _ _ multiplier amountMinor =>
      some { nominal := betMinor * multiplier, paid := amountMinor }
  | _ => none

def FeatureEvent.isWinCap : FeatureEvent → Bool
  | winCapReached .. => true
  | _ => false

/-- `settledAmount`: what an award is paid, and what it leaves of the budget. -/
def settledAmount (capped : Bool) (nominal remaining : Int) : Int × Int :=
  if capped then
    let paid := if nominal < remaining then nominal else remaining
    (paid, remaining - paid)
  else (nominal, remaining)

/-- One path of a win, from what is left of the win's payment. -/
def checkPathPaid (capped : Bool) (winIndex : Nat) (remaining : Int) (entry : PathAward × Nat) :
    Except String Int := do
  let (award, pathIndex) := entry
  let (expected, left) := settledAmount capped award.nominalAmountMinor remaining
  refuse (award.amountMinor ≠ expected)
    (s!"wins[{winIndex}].pathAwards[{pathIndex}].amountMinor does not match the authoritative " ++
      "win-cap projection")
  pure left

def checkWinPaid (capped : Bool) (remaining : Int) (entry : Win × Nat) : Except String Int := do
  let (win, winIndex) := entry
  let (expected, left) := settledAmount capped win.nominalAmountMinor remaining
  refuse (win.amountMinor ≠ expected)
    s!"wins[{winIndex}].amountMinor does not match the authoritative win-cap projection"
  let pathRemaining ← (win.pathAwards.getD []).zipIdx.foldlM (checkPathPaid capped winIndex) expected
  refuse (capped = true ∧ win.pathAwards ≠ none ∧ pathRemaining ≠ 0)
    s!"wins[{winIndex}].pathAwards do not consume the paid aggregate amount"
  pure left

def checkEventPaid (capped : Bool) (betMinor remaining : Int) (entry : FeatureEvent × Nat) :
    Except String Int := do
  let (event, eventIndex) := entry
  match monetaryEventPaidFacts betMinor event with
  | none => pure remaining
  | some facts => do
      refuse (facts.nominal > maxInt64)
        s!"events[{eventIndex}] nominal award exceeds the signed-int64 money domain"
      let (expected, left) := settledAmount capped facts.nominal remaining
      refuse (facts.paid ≠ expected)
        s!"events[{eventIndex}].amountMinor does not match the authoritative win-cap projection"
      pure left

def validatePaidAwardProjection (wins : List Win) (events : List FeatureEvent)
    (betMinor totalWinMinor : Int) : Except String Unit := do
  let capped := events.any (·.isWinCap)
  let remaining := if capped then totalWinMinor else 0
  let remaining ← wins.zipIdx.foldlM (checkWinPaid capped) remaining
  let remaining ← events.zipIdx.foldlM (checkEventPaid capped betMinor) remaining
  refuse (capped = true ∧ remaining ≠ 0)
    "win_cap.reached paid awards do not consume this round's cap budget"

/-! ## The cap and the feature state -/

/-- `PRIMAL_MAX_WIN_MULTIPLIER` -/
def primalMaxWinMultiplier : Int := 2500

def FeatureEvent.winCap? : FeatureEvent → Option Int
  | winCapReached _ cumulativeWinMinor => some cumulativeWinMinor
  | _ => none

def validateWinCapProjection (events : List FeatureEvent) (featureState : FeatureState)
    (betMinor totalWinMinor : Int) : Except String Unit := do
  match events.findSome? (·.winCap?) with
  | none => pure ()
  | some cumulativeWinMinor => do
      let expectedCap := betMinor * primalMaxWinMultiplier
      refuse (expectedCap > maxInt64 ∨ cumulativeWinMinor ≠ expectedCap)
        "win_cap.reached cumulativeWinMinor must equal betMinor multiplied by 2500"
      match events.findSome? (·.completion?) with
      | some completion =>
          refuse (completion.cumulativeWinMinor ≠ cumulativeWinMinor)
            "win_cap.reached must equal the terminal Free Spins cumulative win"
      | none =>
          if featureState.mode ≠ .base then
            refuse (featureState.freeSpinsWinMinor ≠ some cumulativeWinMinor)
              "win_cap.reached must equal the active Free Spins cumulative win"
          else
            refuse (totalWinMinor ≠ cumulativeWinMinor)
              "a Base win_cap.reached result total must equal its cumulative cap amount"

/-- The checks of the money of a decoded message, in their order. -/
def validateAwards (result : SpinResult) : Except String Unit := do
  validateVisibleAwardTotal result.wins result.events result.totalWinMinor
  validatePaidAwardProjection result.wins result.events result.betMinor result.totalWinMinor
  validateWinCapProjection result.events result.featureState result.betMinor result.totalWinMinor

end SlotsGame.Client
