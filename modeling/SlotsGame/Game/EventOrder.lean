/-
# SlotsGame.Game.EventOrder -- the order and content of a spin's events

One check per group of events, in the source's order: the cap, the expanded
grid, the vaults, the rage meter and the wheel, and the end of a feature.  Each
reads the settled grid and the two feature states and fixes which events there
may be and what they must say.
-/
import SlotsGame.Game.Positions

namespace SlotsGame.Game

open SlotsGame.Theory FeatureState

set_option autoImplicit false

/-- The event at an index; the zero value outside the list. -/
def eventAt (events : List Event) (index : Nat) : Event :=
  (events[index]?).getD { type := .other "" }

def isVaultCellEvent : EventType → Bool
  | .vaultUnlocked | .vaultAwarded | .vaultUpgraded | .freeSpinAwarded | .freeSpinCapReached =>
      true
  | _ => false

def isVaultSemanticEvent : EventType → Bool
  | .vaultsLanded | .vaultsLocked | .vaultsUnlockStarted | .vaultsUnlockCompleted
  | .vaultUnlocked | .vaultAwarded | .vaultsUpgradeStarted | .vaultUpgraded
  | .freeSpinAwarded | .freeSpinCapReached => true
  | _ => false

def validVaultGroupEvent (event : Event) (positions : List Position) : Bool :=
  event.count = positions.length && event.cells = positions

def hasWinCapEvent (events : List Event) : Bool :=
  (eventIndexes events .winCapReached).length = 1

/-! ## The cap and the expanded grid -/

def validateWinCapEvent (betMinor : Int) (feature : FeatureState) (outcome : SpinOutcome) :
    Except String Unit :=
  match eventIndexes outcome.events .winCapReached with
  | [] => pure ()
  | [index] => do
      let event := eventAt outcome.events index
      -- every field but the three named here is the zero value
      let bare : Event :=
        { type := event.type, multiplier := event.multiplier,
          cumulativeWinMinor := event.cumulativeWinMinor }
      refuse (safeMul betMinor event.multiplier ≠ .ok event.cumulativeWinMinor ∨
          event.multiplier ≤ 0 ∨
          addOutcomeMoney (priorWinMinor feature) outcome.totalWinMinor ≠
            .ok event.cumulativeWinMinor ∨
          event ≠ bare)
        "outcome: invalid win cap event"
      refuse (index + 1 ≠ outcome.events.length ∧
          ¬ (eventIndexes outcome.events .freeSpinsCompleted = [index + 1] ∧
            index + 2 = outcome.events.length))
        "outcome: win cap event must terminate the result before feature completion"
  | _ => throw "outcome: duplicate win cap event"

def validateExpansionEvents (feature : FeatureState) (outcome : SpinOutcome) :
    Except String Unit :=
  let expanded := eventIndexes outcome.events .gridExpanded
  let rows := outcome.grid.rowCount
  if feature.mode ≠ .expansion then
    refuse (expanded ≠ [] ∨ rows ≠ 3) "outcome: only Kong Quest may use an expanded grid"
  else do
    refuse (expanded ≠ [0]) "outcome: Kong Quest requires one leading grid.expanded event"
    let event := eventAt outcome.events 0
    refuse (event.rows ≠ rows ∨ event.ways ≠ event.rows * event.rows * event.rows)
      "outcome: expanded-grid event does not match the result grid"

/-! ## Vaults -/

/-- The events recorded per vault, newest first; a Go map that is written once
per key. -/
abbrev VaultRecords := List (Position × Event)

def VaultRecords.at (records : VaultRecords) (position : Position) : Event :=
  (records.lookup position).getD { type := .other "" }

structure VaultScan where
  reveals : VaultRecords := []
  awards : VaultRecords := []
  freeResults : VaultRecords := []

def scanVaultEvent (mode : FeatureMode) (positions : List Position)
    (unlockStarted unlockCompleted : Nat) (scan : VaultScan) (entry : Event × Nat) :
    Except String VaultScan := do
  let (event, index) := entry
  let position := event.position
  let outside := index ≤ unlockStarted ∨ index ≥ unlockCompleted
  match event.type with
  | .vaultUnlocked =>
      refuse (outside ∨ position ∉ positions ∨ event.prize = .empty)
        "outcome: invalid vault.unlocked event"
      refuse (position ∈ scan.reveals.map (·.1)) "outcome: duplicate Vault reveal"
      pure { scan with reveals := (position, event) :: scan.reveals }
  | .vaultAwarded =>
      refuse (position ∉ positions ∨ event.multiplier ≤ 0 ∨ event.amountMinor < 0 ∨
          event.prize = .empty ∨ (mode ≠ .overdrive ∧ outside) ∨
          (mode = .overdrive ∧ index ≤ unlockCompleted))
        "outcome: invalid vault.awarded event"
      refuse (position ∈ scan.awards.map (·.1)) "outcome: duplicate Vault award"
      pure { scan with awards := (position, event) :: scan.awards }
  | .freeSpinAwarded | .freeSpinCapReached =>
      refuse (mode ≠ .expansion ∨ position ∉ positions ∨ outside)
        "outcome: Vault Free Spin result is outside Kong Quest"
      refuse (event.type = .freeSpinAwarded ∧ event.count ≠ 1)
        "outcome: Vault Free Spin award count must be one"
      refuse (position ∈ scan.freeResults.map (·.1))
        "outcome: duplicate Vault Free Spin result"
      pure { scan with freeResults := (position, event) :: scan.freeResults }
  | .vaultUpgraded | .vaultsUpgradeStarted =>
      refuse (mode ≠ .overdrive ∨ index ≤ unlockCompleted)
        "outcome: Vault upgrade is outside King Spin"
      pure scan
  | _ => pure scan

/-- The final result of one vault outside King Spin. -/
def validateVaultResult (betMinor : Int) (outcome : SpinOutcome) (scan : VaultScan)
    (position : Position) : Except String Unit := do
  let reveal := scan.reveals.at position
  let award := scan.awards.at position
  let free := scan.freeResults.at position
  let paid := position ∈ scan.awards.map (·.1)
  let extended := position ∈ scan.freeResults.map (·.1)
  let cell := outcome.grid.cellAt position
  refuse (paid ↔ extended) "outcome: every revealed Vault needs exactly one final result"
  if paid then do
    let wantAmount ← safeMul betMinor award.multiplier
    refuse (reveal.prize ≠ award.prize ∨ reveal.multiplier ≠ award.multiplier ∨
        reveal.multiplier ≤ 0 ∨ award.prize ≠ vaultPrizeName award.multiplier false ∨
        (award.amountMinor ≠ wantAmount ∧ hasWinCapEvent outcome.events = false) ∨
        award.amountMinor > wantAmount ∨ cell.multiplier ≠ award.multiplier ∨
        cell.prize ≠ award.prize)
      "outcome: Vault reveal and payable award disagree"
  else
    refuse (reveal.prize ≠ .freeSpin ∨ reveal.multiplier ≠ 0 ∨
        (free.type ≠ .freeSpinAwarded ∧ free.type ≠ .freeSpinCapReached) ∨
        cell.prize ≠ .freeSpin ∨ cell.multiplier ≠ 0)
      "outcome: invalid FREE_SPIN Vault reveal"

/-! ### King Spin -/

structure UpgradeScan where
  expectedStep : Int := 1
  activeStep : Int := 0
  activeCount : Int := 0
  seenInStep : List Position := []
  currentMultiplier : Position → Int
  currentPrize : Position → Prize

def finishStep (scan : UpgradeScan) : Except String Unit :=
  refuse (scan.activeStep ≠ 0 ∧ scan.activeCount ≠ scan.seenInStep.length)
    "outcome: King Spin upgrade group count is incorrect"

def checkUpgradeEvent (positions : List Position) (scan : UpgradeScan) (event : Event) :
    Except String UpgradeScan :=
  match event.type with
  | .vaultsUpgradeStarted => do
      finishStep scan
      refuse (event.step ≠ scan.expectedStep ∨ event.count ≤ 0)
        "outcome: King Spin upgrade steps are not contiguous"
      pure { scan with
             activeStep := event.step
             activeCount := event.count
             expectedStep := scan.expectedStep + 1
             seenInStep := [] }
  | .vaultUpgraded => do
      let position := event.position
      refuse (scan.activeStep = 0 ∨ event.step ≠ scan.activeStep ∨ position ∉ positions ∨
          event.fromMultiplier ≠ scan.currentMultiplier position ∨
          event.toMultiplier ≤ event.fromMultiplier ∨
          event.prize ≠ vaultPrizeName event.toMultiplier true)
        "outcome: invalid King Spin Vault upgrade"
      refuse (position ∈ scan.seenInStep)
        "outcome: duplicate Vault in one King Spin upgrade step"
      pure { scan with
             seenInStep := position :: scan.seenInStep
             currentMultiplier := Function.update scan.currentMultiplier position event.toMultiplier
             currentPrize := Function.update scan.currentPrize position event.prize }
  | _ => throw "outcome: unrelated event interrupts King Spin upgrades"

def checkKingAward (betMinor : Int) (outcome : SpinOutcome) (scan : UpgradeScan)
    (awards : VaultRecords) (position : Position) : Except String Unit := do
  let award := awards.at position
  let cell := outcome.grid.cellAt position
  let wantAmount ← safeMul betMinor award.multiplier
  refuse (award.multiplier ≠ scan.currentMultiplier position ∨
      award.prize ≠ scan.currentPrize position ∨
      (award.amountMinor ≠ wantAmount ∧ hasWinCapEvent outcome.events = false) ∨
      award.amountMinor > wantAmount ∨ cell.multiplier ≠ award.multiplier ∨
      cell.prize ≠ award.prize)
    "outcome: final King Spin Vault award does not match its upgrade chain"

/-- What may follow the first King Spin award. -/
def isKingSpinTail : EventType → Bool
  | .vaultAwarded | .winCapReached | .freeSpinsCompleted => true
  | _ => false

def validateKingSpinVaultEvents (betMinor : Int) (outcome : SpinOutcome) (unlockCompleted : Nat)
    (positions : List Position) (reveals awards : VaultRecords) : Except String Unit := do
  let events := outcome.events
  refuse (awards.length ≠ positions.length)
    "outcome: every King Spin Vault requires one final award"
  positions.forM fun position =>
    let reveal := reveals.at position
    refuse (reveal.multiplier ≤ 0 ∨ reveal.prize ≠ vaultPrizeName reveal.multiplier true)
      "outcome: invalid initial King Spin Vault reveal"
  let firstAward := (eventIndexes events .vaultAwarded).head?.getD events.length
  refuse (firstAward ≤ unlockCompleted)
    "outcome: King Spin Vault awards must follow unlock and upgrades"
  refuse ((events.drop firstAward).all (fun event => isKingSpinTail event.type) = false)
    "outcome: King Spin final awards are not contiguous"
  let upgrades := (events.take firstAward).drop (unlockCompleted + 1)
  let scan ← upgrades.foldlM (checkUpgradeEvent positions)
    { currentMultiplier := fun position => (reveals.at position).multiplier
      currentPrize := fun position => (reveals.at position).prize }
  finishStep scan
  positions.forM (checkKingAward betMinor outcome scan awards)

/-! ### The vault sequence -/

def validateLockedVaults (feature : FeatureState) (outcome : SpinOutcome)
    (positions : List Position) (landed locked vaultEventCount : Nat) (opened : Bool) :
    Except String Unit := do
  refuse (feature.mode = .overdrive ∨ locked ≠ landed + 1 ∨
      validVaultGroupEvent (eventAt outcome.events locked) positions = false ∨
      opened = true ∨ vaultEventCount ≠ 2)
    "outcome: invalid locked Vault branch"
  positions.forM fun position =>
    let cell := outcome.grid.cellAt position
    refuse (cell.multiplier ≠ 0 ∨ cell.prize ≠ .empty)
      "outcome: locked Vault exposes a hidden reward"

/-- What may stand between the unlock boundaries outside King Spin. -/
def isVaultUnlockEvent : EventType → Bool
  | .vaultUnlocked | .vaultAwarded | .freeSpinAwarded | .freeSpinCapReached => true
  | _ => false

def validateUnlockedVaults (betMinor : Int) (feature : FeatureState) (outcome : SpinOutcome)
    (positions : List Position) (started completed : Nat) : Except String Unit := do
  let events := outcome.events
  let scan ← events.zipIdx.foldlM (scanVaultEvent feature.mode positions started completed) {}
  refuse (scan.reveals.length ≠ positions.length)
    "outcome: every unlocked Vault must have one reveal"
  if feature.mode = .overdrive then
    validateKingSpinVaultEvents betMinor outcome completed positions scan.reveals scan.awards
  else do
    positions.forM (validateVaultResult betMinor outcome scan)
    let between := (events.take completed).drop (started + 1)
    refuse (between.all (fun event => isVaultUnlockEvent event.type) = false)
      "outcome: unrelated event interrupts Vault unlock sequence"

def validateVaultEvents (betMinor : Int) (feature : FeatureState) (outcome : SpinOutcome) :
    Except String Unit := do
  let events := outcome.events
  let positions := positionsForSymbol outcome.grid .vault
  let vaultEventCount := (events.filter fun event => isVaultSemanticEvent event.type).length
  if positions = [] then
    refuse (vaultEventCount ≠ 0) "outcome: Vault event exists without a settled Vault"
  else do
    let landed := eventIndexes events .vaultsLanded
    refuse (landed.length ≠ 1)
      "outcome: settled Vaults require exactly one vaults.landed event"
    let start := if feature.mode = .expansion then 1 else 0
    refuse (landed ≠ [start] ∨ validVaultGroupEvent (eventAt events start) positions = false)
      "outcome: vaults.landed does not match the settled Vault set"
    let locked := eventIndexes events .vaultsLocked
    let unlockStarted := eventIndexes events .vaultsUnlockStarted
    let unlockCompleted := eventIndexes events .vaultsUnlockCompleted
    match locked, unlockStarted, unlockCompleted with
    | [locked], _, _ =>
        validateLockedVaults feature outcome positions start locked vaultEventCount
          (unlockStarted ≠ [] || unlockCompleted ≠ [])
    | [], [started], [completed] => do
        refuse (started ≠ start + 1 ∨ completed ≤ started ∨
            validVaultGroupEvent (eventAt events started) positions = false ∨
            validVaultGroupEvent (eventAt events completed) positions = false)
          "outcome: invalid Vault unlock boundaries"
        validateUnlockedVaults betMinor feature outcome positions started completed
    | _, _, _ => throw "outcome: invalid Vault unlock boundaries"

/-! ## Rage and the wheel -/

def validateSurgeCollection (feature : FeatureState) (count creditedTotal : Int)
    (positions : List Position) (collection : Event) : Except String Unit := do
  refuse (collection.count ≠ count ∨ collection.cells ≠ positions ∨
      ¬ (collection.guaranteed = true ↔ count = 3) ∨ collection.level < defaultRageLevel ∨
      (count = 3 ∧ collection.triggered = false))
    "outcome: surge.collected does not match the settled Rage set"
  refuse (count = 3 ∧
      (collection.level ≠ feature.rageLevel ∨ collection.total ≠ feature.rageCollected))
    "outcome: guaranteed Rage trigger changed the request-origin PPS snapshot"
  refuse (count < 3 ∧ collection.triggered = true ∧
      (collection.level ≠ defaultRageLevel ∨ collection.total ≠ 0))
    "outcome: triggered PPS collection did not carry the reset snapshot"
  refuse (count < 3 ∧ collection.triggered = false ∧ collection.total ≠ creditedTotal)
    "outcome: failed Rage collection did not carry the credited PPS snapshot"

def validateRageTransformation (next : FeatureState) (count : Int) (positions : List Position)
    (collection event : Event) : Except String Unit := do
  refuse (event.count ≠ 3 - count ∨ event.cells.length ≠ event.count ∨
      event.level ≠ collection.level ∨ event.total ≠ collection.total)
    "outcome: Rage transformation count is invalid"
  refuse (event.cells.any (fun position => positions.contains position) = true)
    "outcome: Rage transformation overlaps a settled Rage"
  refuse (next.rageLevel ≠ defaultRageLevel ∨ next.rageCollected ≠ 0)
    "outcome: triggered PPS Wheel did not reset the final Rage meter"

def validateWheelAward (betMinor : Int) (outcome : SpinOutcome) (awarded : Nat)
    (freeStarted : List Nat) : Except String Unit := do
  let award := eventAt outcome.events awarded
  let next := outcome.nextFeature
  match award.outcome with
  | some .instant =>
      let wantAmount ← safeMul betMinor award.multiplier
      refuse (next.active = true ∨ freeStarted ≠ [] ∨ award.prize = .empty ∨
          award.prize ≠ vaultPrizeName award.multiplier false ∨ award.multiplier ≤ 0 ∨
          award.amountMinor > wantAmount ∨
          (award.amountMinor ≠ wantAmount ∧ hasWinCapEvent outcome.events = false))
        "outcome: invalid instant wheel award"
  | some .expansion | some .overdrive =>
      let mode := (award.outcome.getD .instant).toMode
      refuse (next.active = false ∨ next.mode ≠ mode ∨ award.multiplier ≠ 0 ∨
          award.amountMinor ≠ 0 ∨ freeStarted.length ≠ 1 ∨ ∃ index ∈ freeStarted.head?, index ≤ awarded)
        "outcome: invalid feature wheel award"
      let started := eventAt outcome.events (freeStarted.head?.getD 0)
      refuse (started.mode ≠ mode ∨ started.awarded ≠ 8 ∨ started.awarded ≠ next.awarded ∨
          next.remaining ≠ next.awarded)
        "outcome: Free Spins start does not match next feature state"
  | _ => throw "outcome: unknown wheel award kind"

/-- One or two surges trigger through a transformation, three without one. -/
def validateRageSource (feature : FeatureState) (outcome : SpinOutcome)
    (positions : List Position) (surge started : Nat) : Except String Unit :=
  let events := outcome.events
  let next := outcome.nextFeature
  let count : Int := positions.length
  let transformed := eventIndexes events .rageTransformed
  if count < 3 then
    match transformed with
    | [index] => do
        refuse (index ≤ surge ∨ index ≥ started)
          "outcome: one/two-Rage trigger requires a transformation before the wheel"
        validateRageTransformation next count positions (eventAt events surge)
          (eventAt events index)
    | _ => throw "outcome: one/two-Rage trigger requires a transformation before the wheel"
  else do
    refuse (transformed ≠ []) "outcome: guaranteed Rage trigger must not add symbols"
    refuse (next.rageLevel ≠ feature.rageLevel ∨ next.rageCollected ≠ feature.rageCollected)
      "outcome: guaranteed Rage trigger changed the request-origin PPS meter"

def validateTriggeredRage (betMinor : Int) (feature : FeatureState) (outcome : SpinOutcome)
    (positions : List Position) (surge : Nat) : Except String Unit :=
  let events := outcome.events
  match eventIndexes events .wheelStarted, eventIndexes events .wheelAwarded with
  | [started], [awarded] => do
      refuse (started ≤ surge ∨ awarded ≤ started)
        "outcome: triggered Rage requires an ordered wheel start and award"
      validateRageSource feature outcome positions surge started
      validateWheelAward betMinor outcome awarded (eventIndexes events .freeSpinsStarted)
  | _, _ => throw "outcome: triggered Rage requires an ordered wheel start and award"

def validateRageAndWheelEvents (betMinor : Int) (feature : FeatureState)
    (outcome : SpinOutcome) : Except String Unit := do
  let events := outcome.events
  let next := outcome.nextFeature
  let surge := eventIndexes events .surgeCollected
  -- everything a triggered collection may add
  let triggeredEvents := eventIndexes events .rageTransformed ++ eventIndexes events .wheelStarted ++
    eventIndexes events .wheelAwarded ++ eventIndexes events .freeSpinsStarted
  let positions := positionsForSymbol outcome.grid .surge
  let count : Int := positions.length
  if feature.active then
    refuse (positions ≠ [] ∨ surge ≠ [] ∨ triggeredEvents ≠ [])
      "outcome: Rage and wheel events are base-game only"
  else if positions = [] then do
    refuse (surge ≠ [] ∨ triggeredEvents ≠ [])
      "outcome: Rage or wheel event exists without settled Rage"
    refuse (next.rageCollected ≠ feature.rageCollected ∨ next.rageLevel ≠ feature.rageLevel)
      "outcome: empty base spin changed the Rage meter"
  else do
    refuse (count > 3) "outcome: more than three settled Rage symbols"
    match surge with
    | [index] => do
        let collection := eventAt events index
        refuse (count < 3 ∧ feature.rageCollected > maxRageCollected - count)
          "outcome: Rage meter exceeds the protocol limit"
        let creditedTotal := feature.rageCollected + if count < 3 then count else 0
        validateSurgeCollection feature count creditedTotal positions collection
        if collection.triggered then
          validateTriggeredRage betMinor feature outcome positions index
        else do
          refuse (triggeredEvents ≠ [])
            "outcome: failed Rage collection changed the wheel or meter state"
          refuse (next.rageCollected ≠ creditedTotal ∨ next.rageLevel ≠ collection.level)
            "outcome: failed Rage collection did not preserve the credited PPS meter"
    | _ => throw "outcome: settled Rage requires exactly one surge.collected event"

theorem eventAt_of_getElem? {events : List Event} {index : Nat} {event : Event}
    (found : events[index]? = some event) : eventAt events index = event := by
  simp [eventAt, found]

theorem validateWheelAward_plain {betMinor : Int} {outcome : SpinOutcome} {awarded : Nat}
    {freeStarted : List Nat}
    (accepted : validateWheelAward betMinor outcome awarded freeStarted = .ok ())
    (feature : (eventAt outcome.events awarded).outcome ≠ some .instant) :
    (eventAt outcome.events awarded).amountMinor = 0 := by
  simp only [validateWheelAward] at accepted
  split at accepted
  · rename_i instant
    exact absurd instant feature
  · simp only [bind_ok, refuse_ok, exists_unit] at accepted
    tauto
  · simp only [bind_ok, refuse_ok, exists_unit] at accepted
    tauto
  · cases accepted

/-- A wheel award that is not an instant one pays nothing. -/
theorem validateRageAndWheelEvents_plain {betMinor : Int} {feature : FeatureState}
    {outcome : SpinOutcome}
    (accepted : validateRageAndWheelEvents betMinor feature outcome = .ok ())
    {event : Event} (member : event ∈ outcome.events) (wheel : event.type = .wheelAwarded)
    (plain : event.outcome ≠ some .instant) : event.amountMinor = 0 := by
  obtain ⟨index, found⟩ := List.getElem?_of_mem member
  have listed : index ∈ eventIndexes outcome.events .wheelAwarded :=
    mem_eventIndexes.mpr ⟨event, found, wheel⟩
  -- every branch but a triggered collection refuses any wheel award
  have present : eventIndexes outcome.events .rageTransformed ++
      eventIndexes outcome.events .wheelStarted ++ eventIndexes outcome.events .wheelAwarded ++
      eventIndexes outcome.events .freeSpinsStarted ≠ [] := by
    intro none
    simp only [List.append_eq_nil_iff] at none
    simp [none] at listed
  simp only [validateRageAndWheelEvents] at accepted
  split at accepted
  · simp only [refuse_ok] at accepted
    tauto
  split at accepted
  · simp only [bind_ok, refuse_ok, exists_unit] at accepted
    tauto
  simp only [bind_ok, refuse_ok, exists_unit] at accepted
  obtain ⟨_, accepted⟩ := accepted
  split at accepted
  case h_2 => cases accepted
  simp only [bind_ok, refuse_ok, exists_unit] at accepted
  obtain ⟨_, _, accepted⟩ := accepted
  split at accepted
  · simp only [validateTriggeredRage] at accepted
    split at accepted
    case h_2 => cases accepted
    rename_i awarded _ onlyAwarded
    simp only [bind_ok, refuse_ok, exists_unit] at accepted
    obtain ⟨_, _, award⟩ := accepted
    rw [onlyAwarded, List.mem_singleton] at listed
    subst listed
    have same := eventAt_of_getElem? found
    have zero := validateWheelAward_plain award (by rwa [same])
    rwa [same] at zero
  · simp only [bind_ok, refuse_ok, exists_unit] at accepted
    tauto

/-! ## The end of a feature -/

structure SpinCounters where
  remaining : Int
  awarded : Int

def countFreeSpinAward (counters : SpinCounters) (event : Event) : Except String SpinCounters :=
  if event.type ≠ .freeSpinAwarded then pure counters
  else do
    refuse (event.count ≤ 0 ∨ counters.remaining > maxFeatureSpins - event.count ∨
        counters.awarded > maxFeatureSpins - event.count)
      "outcome: Free Spin award counters overflow"
    pure { remaining := counters.remaining + event.count
           awarded := counters.awarded + event.count }

def validateFeatureCompletion (feature : FeatureState) (outcome : SpinOutcome) :
    Except String Unit := do
  let events := outcome.events
  let next := outcome.nextFeature
  let completed := eventIndexes events .freeSpinsCompleted
  if feature.active = false then do
    refuse (completed ≠ []) "outcome: base spin cannot complete Free Spins"
    refuse (next.active = true ∧ next.winMinor ≠ outcome.totalWinMinor)
      "outcome: newly started Free Spins must carry the triggering game win"
  else do
    let wantWin ← addOutcomeMoney feature.winMinor outcome.totalWinMinor
    let want ← events.foldlM countFreeSpinAward
      { remaining := feature.remaining - 1, awarded := feature.awarded }
    refuse (next.rageLevel ≠ feature.rageLevel ∨ next.rageCollected ≠ feature.rageCollected)
      "outcome: Free Spin changed the persistent Rage meter"
    if next.active then
      refuse (completed ≠ [] ∨ next.mode ≠ feature.mode ∨ next.betMinor ≠ feature.betMinor ∨
          next.winMinor ≠ wantWin ∨ want.remaining < 1 ∨ next.remaining ≠ want.remaining ∨
          next.awarded ≠ want.awarded)
        "outcome: active Free Spins recovery state is inconsistent"
    else do
      refuse (want.remaining ≠ 0 ∨ completed ≠ [events.length - 1])
        "outcome: the last Free Spin requires one final completion event"
      let event := eventAt events (events.length - 1)
      refuse (event.mode ≠ feature.mode ∨ event.awarded ≠ want.awarded ∨
          event.cumulativeWinMinor ≠ wantWin)
        "outcome: Free Spins completion does not match recovered state"

def validateFeatureEventOrder (input : SpinInput) (outcome : SpinOutcome) :
    Except String Unit := do
  let feature := canonicalFeatureState input.feature
  validateWinCapEvent input.betMinor feature outcome
  validateExpansionEvents feature outcome
  validateVaultEvents input.betMinor feature outcome
  validateRageAndWheelEvents input.betMinor feature outcome
  validateFeatureCompletion feature outcome

end SlotsGame.Game
