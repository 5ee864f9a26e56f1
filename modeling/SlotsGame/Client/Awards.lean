/-
# SlotsGame.Client.Awards -- the client finds the server's payments again

`applyWinCap` pays the wins of a spin and then its monetary events from what the
cap has left.  The message carries every award before the cap and what it was
paid, but not the budget; `validatePaidAwardProjection` takes the total of a
capped message for it.  Both sides are `spend` of the same awards, so the client
accepts one vector of payments and it is the server's.
-/
import SlotsGame.Client.RgsDecoder
import SlotsGame.Game.FreeSpins
import SlotsGame.Game.Scaling

namespace SlotsGame.Client

open SlotsGame.Theory Budget
open SlotsGame.Game (maxInt64 projectWinsToBudget clipEvent isMonetaryAwardEvent carriesAward
  monetaryEvents nominalAwards eventPayments winPayments)

set_option autoImplicit false

/-! ## The client's checks -/

/-- Payments in order, with and without a cap. -/
def settled (capped : Bool) (remaining : Int) (nominals : List Int) : List Int :=
  if capped then spend remaining nominals else nominals

def leftover (capped : Bool) (remaining : Int) (nominals : List Int) : Int :=
  if capped then remaining - (spend remaining nominals).sum else remaining

@[simp] theorem settled_nil (capped : Bool) (remaining : Int) : settled capped remaining [] = [] := by
  cases capped <;> rfl

@[simp] theorem leftover_nil (capped : Bool) (remaining : Int) :
    leftover capped remaining [] = remaining := by
  cases capped <;> simp [leftover]

theorem settled_cons (capped : Bool) (remaining nominal : Int) (rest : List Int) :
    settled capped remaining (nominal :: rest) =
      (settledAmount capped nominal remaining).1 ::
        settled capped (settledAmount capped nominal remaining).2 rest := by
  cases capped with
  | false => rfl
  | true => simp [settled, settledAmount, min_def_lt]

theorem leftover_cons (capped : Bool) (remaining nominal : Int) (rest : List Int) :
    leftover capped remaining (nominal :: rest) =
      leftover capped (settledAmount capped nominal remaining).2 rest := by
  cases capped with
  | false => rfl
  | true => simp [leftover, settledAmount, min_def_lt, sub_sub]

/-- A walk that settles the entries with facts, and passes over the others. -/
theorem foldlM_settled {β : Type} {capped : Bool} {step : Int → β → Except String Int}
    (facts : β → Option PaidFacts) (side : β → Prop)
    (spec : ∀ remaining entry left, step remaining entry = .ok left ↔ side entry ∧
      match facts entry with
      | none => left = remaining
      | some facts => facts.paid = (settledAmount capped facts.nominal remaining).1 ∧
          left = (settledAmount capped facts.nominal remaining).2)
    (entries : List β) {remaining left : Int} :
    entries.foldlM step remaining = .ok left ↔
      (∀ entry ∈ entries, side entry) ∧
        (entries.filterMap facts).map (·.paid) =
          settled capped remaining ((entries.filterMap facts).map (·.nominal)) ∧
        left = leftover capped remaining ((entries.filterMap facts).map (·.nominal)) := by
  induction entries generalizing remaining with
  | nil =>
      simp only [List.foldlM_nil, pure_ok, List.filterMap_nil, List.map_nil, settled_nil,
        leftover_nil, List.not_mem_nil, false_implies, implies_true, true_and]
      exact eq_comm
  | cons entry rest ih =>
      simp only [List.foldlM_cons, bind_ok, spec, ih, List.forall_mem_cons]
      cases found : facts entry with
      | none =>
          simp only [List.filterMap_cons_none found]
          constructor
          · rintro ⟨_, ⟨here, rfl⟩, later, paid, ends⟩
            exact ⟨⟨here, later⟩, paid, ends⟩
          · rintro ⟨⟨here, later⟩, paid, ends⟩
            exact ⟨_, ⟨here, rfl⟩, later, paid, ends⟩
      | some known =>
          simp only [List.filterMap_cons_some found, List.map_cons, settled_cons, leftover_cons,
            List.cons.injEq]
          constructor
          · rintro ⟨_, ⟨here, first, rfl⟩, later, paid, ends⟩
            exact ⟨⟨here, later⟩, ⟨first, paid⟩, ends⟩
          · rintro ⟨⟨here, later⟩, ⟨first, paid⟩, ends⟩
            exact ⟨_, ⟨here, first, rfl⟩, later, paid, ends⟩

theorem filterMap_zipIdx_fst {β γ : Type} (f : β → Option γ) (entries : List β) (start : Nat) :
    (entries.zipIdx start).filterMap (fun entry => f entry.1) = entries.filterMap f := by
  induction entries generalizing start with
  | nil => rfl
  | cons entry rest ih => simp [List.zipIdx_cons, List.filterMap_cons, ih]

theorem forall_mem_zipIdx {β : Type} (side : β → Prop) {entries : List β} :
    (∀ entry ∈ entries.zipIdx, side entry.1) ↔ ∀ entry ∈ entries, side entry := by
  constructor
  · intro holds entry member
    obtain ⟨index, found⟩ := List.getElem?_of_mem member
    exact holds (entry, index) (List.mk_mem_zipIdx_iff_getElem?.mpr found)
  · intro holds entry member
    exact holds _ (List.mem_of_getElem? (List.mem_zipIdx_iff_getElem?.mp member))

def Win.paths (win : Win) : List PathAward := win.pathAwards.getD []

def Win.pathNominals (win : Win) : List Int := win.paths.map (·.nominalAmountMinor)

def Win.pathPayments (win : Win) : List Int := win.paths.map (·.amountMinor)

theorem checkPathPaid_ok {capped : Bool} {winIndex : Nat} {remaining left : Int}
    {entry : PathAward × Nat} :
    checkPathPaid capped winIndex remaining entry = .ok left ↔
      entry.1.amountMinor = (settledAmount capped entry.1.nominalAmountMinor remaining).1 ∧
        left = (settledAmount capped entry.1.nominalAmountMinor remaining).2 := by
  simp only [checkPathPaid, bind_ok, refuse_ok, exists_unit, pure_ok, not_not]
  exact and_congr_right' eq_comm

theorem checkPathsPaid_ok {capped : Bool} {winIndex : Nat} {paths : List PathAward}
    {remaining left : Int} :
    paths.zipIdx.foldlM (checkPathPaid capped winIndex) remaining = .ok left ↔
      paths.map (·.amountMinor) = settled capped remaining (paths.map (·.nominalAmountMinor)) ∧
        left = leftover capped remaining (paths.map (·.nominalAmountMinor)) := by
  let facts (award : PathAward) : Option PaidFacts :=
    some { nominal := award.nominalAmountMinor, paid := award.amountMinor }
  rw [foldlM_settled (fun entry => facts entry.1) (fun _ => True)
    (fun remaining entry left => by rw [checkPathPaid_ok, true_and])]
  rw [filterMap_zipIdx_fst facts, List.filterMap_eq_map', List.map_map, List.map_map]
  simp only [implies_true, true_and]
  rfl

/-- What the client asks of the paths of a win, when the win is paid as it expects. -/
structure Win.PathsSettled (capped : Bool) (win : Win) : Prop where
  paid : win.pathPayments = settled capped win.amountMinor win.pathNominals
  spent : capped = true → win.pathAwards ≠ none →
    leftover capped win.amountMinor win.pathNominals = 0

theorem checkWinPaid_ok {capped : Bool} {remaining left : Int} {entry : Win × Nat} :
    checkWinPaid capped remaining entry = .ok left ↔ entry.1.PathsSettled capped ∧
      entry.1.amountMinor = (settledAmount capped entry.1.nominalAmountMinor remaining).1 ∧
        left = (settledAmount capped entry.1.nominalAmountMinor remaining).2 := by
  simp only [checkWinPaid, bind_ok, refuse_ok, exists_unit, pure_ok, not_not, checkPathsPaid_ok,
    not_and]
  constructor
  · rintro ⟨expected, _, ⟨paid, rfl⟩, spent, rfl⟩
    rw [← expected] at paid spent
    exact ⟨⟨paid, spent⟩, expected, rfl⟩
  · rintro ⟨⟨paid, spent⟩, expected, rfl⟩
    rw [expected] at paid spent
    exact ⟨expected, _, ⟨paid, rfl⟩, spent, rfl⟩

theorem checkEventPaid_ok {capped : Bool} {betMinor remaining left : Int}
    {entry : FeatureEvent × Nat} :
    checkEventPaid capped betMinor remaining entry = .ok left ↔
      (∀ facts ∈ monetaryEventPaidFacts betMinor entry.1, facts.nominal ≤ maxInt64) ∧
      match monetaryEventPaidFacts betMinor entry.1 with
      | none => left = remaining
      | some facts => facts.paid = (settledAmount capped facts.nominal remaining).1 ∧
          left = (settledAmount capped facts.nominal remaining).2 := by
  simp only [checkEventPaid]
  cases monetaryEventPaidFacts betMinor entry.1 with
  | none =>
      simp only [pure_ok, Option.mem_def, reduceCtorEq, false_implies, implies_true, true_and]
      exact eq_comm
  | some facts =>
      simp only [bind_ok, refuse_ok, exists_unit, pure_ok, not_not, not_lt, gt_iff_lt,
        Option.mem_def, Option.some.injEq, forall_eq']
      exact and_congr_right' (and_congr_right' eq_comm)

/-! ## One vector of payments -/

section Message

variable (betMinor : Int) (events : List FeatureEvent)

def eventFacts : List PaidFacts := events.filterMap (monetaryEventPaidFacts betMinor)

/-- The awards of the monetary events before the cap. -/
def eventNominals : List Int := (eventFacts betMinor events).map (·.nominal)

/-- What the monetary events show as paid. -/
def eventPaid : List Int := (eventFacts betMinor events).map (·.paid)

end Message

def winNominals (wins : List Win) : List Int := wins.map (·.nominalAmountMinor)

def winPaid (wins : List Win) : List Int := wins.map (·.amountMinor)

theorem checkWinsPaid_ok {capped : Bool} {wins : List Win} {remaining left : Int} :
    wins.zipIdx.foldlM (checkWinPaid capped) remaining = .ok left ↔
      (∀ win ∈ wins, win.PathsSettled capped) ∧
        winPaid wins = settled capped remaining (winNominals wins) ∧
        left = leftover capped remaining (winNominals wins) := by
  let facts (win : Win) : Option PaidFacts :=
    some { nominal := win.nominalAmountMinor, paid := win.amountMinor }
  rw [foldlM_settled (fun entry => facts entry.1) (fun entry => entry.1.PathsSettled capped)
    (fun _ _ _ => checkWinPaid_ok)]
  rw [filterMap_zipIdx_fst facts, List.filterMap_eq_map', List.map_map, List.map_map,
    forall_mem_zipIdx (Win.PathsSettled capped)]
  rfl

theorem checkEventsPaid_ok {capped : Bool} {betMinor : Int} {events : List FeatureEvent}
    {remaining left : Int} :
    events.zipIdx.foldlM (checkEventPaid capped betMinor) remaining = .ok left ↔
      (∀ nominal ∈ eventNominals betMinor events, nominal ≤ maxInt64) ∧
        eventPaid betMinor events = settled capped remaining (eventNominals betMinor events) ∧
        left = leftover capped remaining (eventNominals betMinor events) := by
  rw [foldlM_settled (fun entry => monetaryEventPaidFacts betMinor entry.1)
    (fun entry => ∀ facts ∈ monetaryEventPaidFacts betMinor entry.1, facts.nominal ≤ maxInt64)
    (fun _ _ _ => checkEventPaid_ok)]
  rw [filterMap_zipIdx_fst (monetaryEventPaidFacts betMinor), forall_mem_zipIdx
    fun event => ∀ facts ∈ monetaryEventPaidFacts betMinor event, facts.nominal ≤ maxInt64]
  refine and_congr_left' ?_
  simp only [eventNominals, eventFacts, List.mem_map, List.mem_filterMap]
  constructor
  · rintro bounded _ ⟨facts, ⟨event, member, found⟩, rfl⟩
    exact bounded event member facts found
  · intro bounded event member facts found
    exact bounded _ ⟨facts, ⟨event, member, found⟩, rfl⟩

theorem validatePaidAwardProjection_ok {wins : List Win} {events : List FeatureEvent}
    {betMinor totalWinMinor : Int} {capped : Bool} (flag : events.any (·.isWinCap) = capped)
    (budget : Int) (inferred : budget = if capped then totalWinMinor else 0) :
    validatePaidAwardProjection wins events betMinor totalWinMinor = .ok () ↔
      (∀ win ∈ wins, win.PathsSettled capped) ∧
        winPaid wins = settled capped budget (winNominals wins) ∧
        (∀ nominal ∈ eventNominals betMinor events, nominal ≤ maxInt64) ∧
        eventPaid betMinor events = settled capped (leftover capped budget (winNominals wins))
          (eventNominals betMinor events) ∧
        (capped = true → leftover capped (leftover capped budget (winNominals wins))
          (eventNominals betMinor events) = 0) := by
  simp only [validatePaidAwardProjection, flag, ← inferred, bind_ok, refuse_ok, not_and, not_not,
    checkWinsPaid_ok, checkEventsPaid_ok]
  constructor
  · rintro ⟨_, ⟨paths, winsPaid, rfl⟩, _, ⟨bounded, eventsPaid, rfl⟩, spent⟩
    exact ⟨paths, winsPaid, bounded, eventsPaid, spent⟩
  · rintro ⟨paths, winsPaid, bounded, eventsPaid, spent⟩
    exact ⟨_, ⟨paths, winsPaid, rfl⟩, _, ⟨bounded, eventsPaid, rfl⟩, spent⟩

/-- The paths of a win carry its award, and no award is negative. -/
structure Win.Itemised (win : Win) : Prop where
  listed : win.pathAwards ≠ none
  nonneg : ∀ nominal ∈ win.pathNominals, 0 ≤ nominal
  sum : win.pathNominals.sum = win.nominalAmountMinor

/-- Every award of a message is paid in order from one budget, and the paths of
a win from what the win is paid. -/
structure PaidInOrder (betMinor budget : Int) (wins : List Win) (events : List FeatureEvent) :
    Prop where
  items : winPaid wins ++ eventPaid betMinor events =
    spend budget (winNominals wins ++ eventNominals betMinor events)
  paths : ∀ win ∈ wins, win.pathPayments = spend win.amountMinor win.pathNominals

/-- The awards of a message before the cap. -/
def messageNominal (betMinor : Int) (wins : List Win) (events : List FeatureEvent) : Int :=
  (winNominals wins).sum + (eventNominals betMinor events).sum

theorem Win.Itemised.nominal_nonneg {win : Win} (itemised : win.Itemised) :
    0 ≤ win.nominalAmountMinor := by
  rw [← itemised.sum]
  exact List.sum_nonneg itemised.nonneg

/-- What the message of a capped spin says of its budget. -/
structure ReportsCap (betMinor budget totalWinMinor : Int) (wins : List Win)
    (events : List FeatureEvent) : Prop where
  reached : events.any (·.isWinCap) = true ↔
    0 < messageNominal betMinor wins events ∧ budget ≤ messageNominal betMinor wins events
  total : totalWinMinor = min (messageNominal betMinor wins events) budget

section Accepts

variable {betMinor budget totalWinMinor : Int} {wins : List Win} {events : List FeatureEvent}

theorem winNominals_nonneg (itemised : ∀ win ∈ wins, win.Itemised) :
    ∀ nominal ∈ winNominals wins, 0 ≤ nominal := by
  intro nominal member
  obtain ⟨win, there, rfl⟩ := List.mem_map.mp member
  exact (itemised win there).nominal_nonneg

/-- A win paid in order is paid no more than its award, and not less than nothing. -/
theorem winPaid_bounds (solvent : 0 ≤ budget) (itemised : ∀ win ∈ wins, win.Itemised)
    (paid : winPaid wins = spend budget (winNominals wins)) :
    ∀ win ∈ wins, 0 ≤ win.amountMinor ∧ win.amountMinor ≤ win.nominalAmountMinor := by
  have nonneg := spend_nonneg solvent (winNominals_nonneg itemised)
  have below := spend_le budget (winNominals wins)
  rw [← paid] at nonneg below
  rw [winPaid, winNominals, List.forall₂_map_left_iff, List.forall₂_map_right_iff,
    List.forall₂_same] at below
  exact fun win member => ⟨nonneg _ (List.mem_map_of_mem member), below win member⟩

/-- The paths of a win that is paid no more than its award use up its payment. -/
theorem Win.Itemised.spent {win : Win} (itemised : win.Itemised) (nonneg : 0 ≤ win.amountMinor)
    (below : win.amountMinor ≤ win.nominalAmountMinor) :
    leftover true win.amountMinor win.pathNominals = 0 := by
  simp only [leftover, if_true]
  rw [spend_sum nonneg itemised.nonneg, itemised.sum, min_eq_right below, sub_self]

theorem capped_paid (solvent : 0 ≤ budget) (itemised : ∀ win ∈ wins, win.Itemised)
    (awards : ∀ nominal ∈ eventNominals betMinor events, 0 ≤ nominal ∧ nominal ≤ maxInt64)
    (flag : events.any (·.isWinCap) = true)
    (enough : budget ≤ messageNominal betMinor wins events) :
    validatePaidAwardProjection wins events betMinor budget = .ok () ↔
      PaidInOrder betMinor budget wins events := by
  have winsNonneg := winNominals_nonneg itemised
  have eventsNonneg : ∀ nominal ∈ eventNominals betMinor events, 0 ≤ nominal :=
    fun nominal member => (awards nominal member).1
  have left : leftover true budget (winNominals wins) =
      budget - min (winNominals wins).sum budget := by
    simp only [leftover, if_true]
    rw [spend_sum solvent winsNonneg]
  have solventLeft : 0 ≤ budget - min (winNominals wins).sum budget :=
    sub_nonneg.mpr (min_le_right _ _)
  rw [validatePaidAwardProjection_ok flag budget (by simp), left]
  simp only [settled, if_true]
  constructor
  · rintro ⟨paths, winsPaid, _, eventsPaid, _⟩
    refine ⟨?_, fun win member => (paths win member).paid⟩
    rw [spend_append solvent winsNonneg, winsPaid, eventsPaid]
  · rintro ⟨items, paths⟩
    rw [spend_append solvent winsNonneg] at items
    obtain ⟨winsPaid, eventsPaid⟩ := List.append_inj items (by simp [winPaid, winNominals])
    refine ⟨fun win member => ⟨paths win member, fun _ _ => ?_⟩, winsPaid,
      fun nominal member => (awards nominal member).2, eventsPaid, fun _ => ?_⟩
    · obtain ⟨nonneg, below⟩ := winPaid_bounds solvent itemised winsPaid win member
      exact (itemised win member).spent nonneg below
    · -- both lists together use up the budget
      simp only [leftover, if_true]
      rw [spend_sum solventLeft eventsNonneg]
      have used : min (winNominals wins).sum budget +
          min (eventNominals betMinor events).sum
            (budget - min (winNominals wins).sum budget) = budget := by
        rw [min_add_min_sub (List.sum_nonneg eventsNonneg)]
        exact min_eq_right enough
      omega

theorem uncapped_paid (itemised : ∀ win ∈ wins, win.Itemised)
    (awards : ∀ nominal ∈ eventNominals betMinor events, 0 ≤ nominal ∧ nominal ≤ maxInt64)
    (flag : events.any (·.isWinCap) = false)
    (covered : messageNominal betMinor wins events ≤ budget) :
    validatePaidAwardProjection wins events betMinor totalWinMinor = .ok () ↔
      PaidInOrder betMinor budget wins events := by
  have allNonneg : ∀ nominal ∈ winNominals wins ++ eventNominals betMinor events, 0 ≤ nominal :=
    fun nominal member => (List.mem_append.mp member).elim
      (winNominals_nonneg itemised nominal) fun there => (awards nominal there).1
  have whole : spend budget (winNominals wins ++ eventNominals betMinor events) =
      winNominals wins ++ eventNominals betMinor events :=
    spend_of_covered allNonneg (by rwa [List.sum_append])
  -- a win that is paid its award pays every path in full
  have paths (win : Win) (member : win ∈ wins) (paid : win.amountMinor = win.nominalAmountMinor) :
      spend win.amountMinor win.pathNominals = win.pathNominals :=
    spend_of_covered (itemised win member).nonneg (by rw [(itemised win member).sum, paid])
  rw [validatePaidAwardProjection_ok flag 0 (by simp)]
  simp only [settled, Bool.false_eq_true, if_false, false_implies, and_true]
  constructor
  · rintro ⟨settledPaths, winsPaid, _, eventsPaid⟩
    have same := List.map_inj_left.mp winsPaid
    refine ⟨by rw [whole, winsPaid, eventsPaid], fun win member => ?_⟩
    rw [paths win member (same win member)]
    exact (settledPaths win member).paid
  · rintro ⟨items, settledPaths⟩
    rw [whole] at items
    obtain ⟨winsPaid, eventsPaid⟩ := List.append_inj items (by simp [winPaid, winNominals])
    have same := List.map_inj_left.mp winsPaid
    refine ⟨fun win member => ⟨?_, by simp⟩, winsPaid,
      fun nominal member => (awards nominal member).2, eventsPaid⟩
    rw [settledPaths win member, paths win member (same win member)]
    rfl

/-- **The client accepts a message exactly when it is paid in order from the
budget of the server.** -/
theorem validatePaidAwardProjection_paid (solvent : 0 ≤ budget)
    (itemised : ∀ win ∈ wins, win.Itemised)
    (awards : ∀ nominal ∈ eventNominals betMinor events, 0 ≤ nominal ∧ nominal ≤ maxInt64)
    (reports : ReportsCap betMinor budget totalWinMinor wins events) :
    validatePaidAwardProjection wins events betMinor totalWinMinor = .ok () ↔
      PaidInOrder betMinor budget wins events := by
  cases flag : events.any (·.isWinCap) with
  | true =>
      -- the total of a capped message is the budget
      obtain ⟨_, enough⟩ := reports.reached.mp flag
      rw [reports.total, min_eq_right enough]
      exact capped_paid solvent itemised awards flag enough
  | false =>
      refine uncapped_paid itemised awards flag ?_
      have not_reached := mt reports.reached.mpr (by simp [flag])
      omega

end Accepts

/-! ## The server's projection -/

structure CappedAwards where
  wins : List Game.Win
  events : List Game.Event
  totalPaid : Int

/-- The part of `applyWinCap` that pays a spin from what the cap has left. -/
def projectAwards (wins : List Game.Win) (events : List Game.Event) (rawTotal budget : Int)
    (capEvent : Game.Event) : Except String CappedAwards := do
  let (projectedWins, waysPaid) := projectWinsToBudget wins budget
  let clipped ← events.foldlM clipEvent { remaining := budget - waysPaid, totalPaid := waysPaid }
  let reached := rawTotal > 0 ∧ rawTotal ≥ budget
  pure { wins := projectedWins, events := clipped.events ++ if reached then [capEvent] else []
         totalPaid := clipped.totalPaid }

theorem projectAwards_ok {wins : List Game.Win} {events : List Game.Event}
    {rawTotal budget : Int} {capEvent : Game.Event} {awards : CappedAwards} :
    projectAwards wins events rawTotal budget capEvent = .ok awards ↔
      ∃ clipped, events.foldlM clipEvent
          { remaining := budget - (projectWinsToBudget wins budget).2
            totalPaid := (projectWinsToBudget wins budget).2 } = .ok clipped ∧
        awards =
          { wins := (projectWinsToBudget wins budget).1
            events := clipped.events ++ if rawTotal > 0 ∧ rawTotal ≥ budget then [capEvent] else []
            totalPaid := clipped.totalPaid } := by
  simp only [projectAwards, bind_ok, pure_ok]
  exact exists_congr fun _ => and_congr_right' eq_comm

/-- The end of a spin adds its completion, and pays nothing. -/
theorem settleFeature_paid (feature : Game.FeatureState) (totalPaid cycleWin : Int)
    (outcome : Game.SpinOutcome) :
    ∃ completed, (∀ event ∈ completed, event.type = .freeSpinsCompleted) ∧
      (Game.settleFeature feature totalPaid cycleWin outcome).wins = outcome.wins ∧
      (Game.settleFeature feature totalPaid cycleWin outcome).events =
        outcome.events ++ completed ∧
      (Game.settleFeature feature totalPaid cycleWin outcome).totalWinMinor =
        outcome.totalWinMinor := by
  by_cases ends : feature.active = true ∧ outcome.nextFeature.remaining = 0
  · rw [Game.settleFeature_ends ends.1 ends.2]
    refine ⟨[Game.completedEvent feature.mode outcome.nextFeature.awarded cycleWin],
      fun event member => ?_, rfl, rfl, rfl⟩
    rw [List.mem_singleton.mp member]
    rfl
  · refine ⟨[], by simp, ?_⟩
    rw [List.append_nil]
    simp only [Game.settleFeature]
    split
    · rename_i isActive
      rw [if_neg fun spent => ends ⟨isActive, spent⟩]
      exact ⟨rfl, rfl, rfl⟩
    · split <;> exact ⟨rfl, rfl, rfl⟩

/-- `applyWinCap` pays by `projectAwards`, and adds the completion of a feature. -/
theorem applyWinCap_projects {config : Game.Config} {input : Game.SpinInput}
    {outcome capped : Game.SpinOutcome} (applied : Game.applyWinCap config input outcome = .ok capped) :
    0 ≤ Game.budgetLeft config input ∧ ∃ awards completed,
      projectAwards outcome.wins outcome.events outcome.totalWinMinor (Game.budgetLeft config input)
        (Game.winCapEvent config (input.betMinor * config.maxWinMultiplier)) = .ok awards ∧
      (∀ event ∈ completed, event.type = .freeSpinsCompleted) ∧
      capped.wins = awards.wins ∧ capped.events = awards.events ++ completed ∧
      capped.totalWinMinor = awards.totalPaid := by
  simp only [Game.applyWinCap, bind_ok, Game.wrap_ok, refuse_ok, exists_unit, pure_ok, not_or,
    not_lt] at applied
  obtain ⟨_, _, multiplied, ⟨_, priorLe⟩, clipped, ran, cycleWin, _, rfl⟩ := applied
  obtain ⟨_, _, _, rfl⟩ := Game.safeMul_ok.mp multiplied
  let capEvent := Game.winCapEvent config (input.betMinor * config.maxWinMultiplier)
  let events := clipped.events ++ if outcome.totalWinMinor > 0 ∧
    outcome.totalWinMinor ≥ Game.budgetLeft config input then [capEvent] else []
  refine ⟨sub_nonneg.mpr priorLe,
    ⟨(projectWinsToBudget outcome.wins (Game.budgetLeft config input)).1, events,
      clipped.totalPaid⟩, ?_⟩
  exact (settleFeature_paid _ clipped.totalPaid cycleWin _).imp fun completed facts =>
    ⟨projectAwards_ok.mpr ⟨clipped, ran, rfl⟩, facts⟩

/-- A monetary event carries its award before the cap; nothing else is paid. -/
structure NominalEvent (betMinor : Int) (event : Game.Event) : Prop where
  award : carriesAward event = true → event.amountMinor = betMinor * event.multiplier ∧
    0 ≤ event.amountMinor ∧ event.amountMinor ≤ maxInt64
  plain : carriesAward event = false → isMonetaryAwardEvent event.type = true →
    event.amountMinor = 0
  uncapped : event.type ≠ .winCapReached

theorem nominalAwards_cons (betMinor : Int) (event : Game.Event) (rest : List Game.Event) :
    nominalAwards betMinor (event :: rest) =
      if carriesAward event then betMinor * event.multiplier :: nominalAwards betMinor rest
      else nominalAwards betMinor rest := by
  simp only [nominalAwards, monetaryEvents, List.filter_cons]
  split <;> rfl

theorem eventPayments_cons (event : Game.Event) (rest : List Game.Event) :
    eventPayments (event :: rest) =
      if carriesAward event then event.amountMinor :: eventPayments rest
      else eventPayments rest := by
  simp only [eventPayments, monetaryEvents, List.filter_cons]
  split <;> rfl

theorem carriesAward_monetary {event : Game.Event} (carries : carriesAward event = true) :
    isMonetaryAwardEvent event.type = true := by
  simp only [carriesAward, isMonetaryAwardEvent, Bool.or_eq_true, Bool.and_eq_true,
    decide_eq_true_eq] at carries ⊢
  exact carries.symm.imp_left And.left

/-- What an event is paid from what is left. -/
def clipPaid (betMinor remaining : Int) (event : Game.Event) : Int :=
  if carriesAward event then min (betMinor * event.multiplier) remaining else 0

theorem clipPaid_spend (betMinor remaining : Int) (event : Game.Event) (rest : List Game.Event) :
    (spend remaining (nominalAwards betMinor (event :: rest))).sum =
      clipPaid betMinor remaining event +
        (spend (remaining - clipPaid betMinor remaining event) (nominalAwards betMinor rest)).sum := by
  rw [nominalAwards_cons]
  unfold clipPaid
  split
  · rw [spend_cons, List.sum_cons]
  · rw [zero_add, sub_zero]

/-- A clipped event is the event with its payment. -/
structure Clipped (betMinor remaining : Int) (event clipped : Game.Event) : Prop where
  type : clipped.type = event.type
  carries : carriesAward clipped = carriesAward event
  multiplier : clipped.multiplier = event.multiplier
  paid : carriesAward event = true → clipped.amountMinor = clipPaid betMinor remaining event

theorem clipEvent_step {betMinor : Int} {scan : Game.ClipScan} {event : Game.Event}
    (nominal : NominalEvent betMinor event) (solvent : 0 ≤ scan.remaining)
    (paid : 0 ≤ scan.totalPaid) (fits : scan.totalPaid + scan.remaining ≤ maxInt64) :
    ∃ clipped, clipEvent scan event = .ok
        { events := scan.events ++ [clipped]
          remaining := scan.remaining - clipPaid betMinor scan.remaining event
          totalPaid := scan.totalPaid + clipPaid betMinor scan.remaining event } ∧
      Clipped betMinor scan.remaining event clipped := by
  by_cases monetary : isMonetaryAwardEvent event.type = true
  · -- a feature wheel is monetary by its type, and carries nothing
    have amount : min event.amountMinor scan.remaining =
        clipPaid betMinor scan.remaining event := by
      unfold clipPaid
      split
      · rename_i carries
        rw [(nominal.award carries).1]
      · rename_i plain
        rw [nominal.plain (by simpa using plain) monetary, min_eq_left solvent]
    have nonneg : 0 ≤ event.amountMinor := by
      by_cases carries : carriesAward event = true
      · exact (nominal.award carries).2.1
      · exact (nominal.plain (by simpa using carries) monetary).ge
    have lower : 0 ≤ clipPaid betMinor scan.remaining event := amount ▸ le_min nonneg solvent
    have upper : clipPaid betMinor scan.remaining event ≤ scan.remaining :=
      amount ▸ min_le_right _ _
    have added : Game.safeAdd scan.totalPaid (clipPaid betMinor scan.remaining event) =
        .ok (scan.totalPaid + clipPaid betMinor scan.remaining event) :=
      Game.safeAdd_ok.mpr ⟨paid, lower, by omega, rfl⟩
    refine ⟨{ event with amountMinor := clipPaid betMinor scan.remaining event }, ?_,
      rfl, rfl, rfl, fun _ => rfl⟩
    simp only [clipEvent, monetary, if_true, amount, added]
    rfl
  · have plain : carriesAward event = false := by
      rw [Bool.eq_false_iff]
      exact fun carries => monetary (carriesAward_monetary carries)
    refine ⟨event, ?_, rfl, rfl, rfl, by simp [plain]⟩
    simp [clipEvent, monetary, clipPaid, plain]

/-- **The events are paid in order from what the wins left.** -/
theorem foldlM_clipEvent {betMinor : Int} {events : List Game.Event}
    (nominal : ∀ event ∈ events, NominalEvent betMinor event) (scan : Game.ClipScan)
    (solvent : 0 ≤ scan.remaining) (paid : 0 ≤ scan.totalPaid)
    (fits : scan.totalPaid + scan.remaining ≤ maxInt64) :
    ∃ clipped remaining, events.foldlM clipEvent scan = .ok
        { events := scan.events ++ clipped
          remaining := remaining
          totalPaid := scan.totalPaid +
            (spend scan.remaining (nominalAwards betMinor events)).sum } ∧
      nominalAwards betMinor clipped = nominalAwards betMinor events ∧
      eventPayments clipped = spend scan.remaining (nominalAwards betMinor events) ∧
      ∀ event ∈ clipped, event.type ≠ .winCapReached := by
  induction events generalizing scan with
  | nil =>
      refine ⟨[], scan.remaining, ?_, rfl, rfl, by simp⟩
      simp [nominalAwards, monetaryEvents]
  | cons event rest ih =>
      obtain ⟨here, later⟩ := List.forall_mem_cons.mp nominal
      obtain ⟨clipped, stepped, same⟩ := clipEvent_step here solvent paid fits
      have bounds : 0 ≤ clipPaid betMinor scan.remaining event ∧
          clipPaid betMinor scan.remaining event ≤ scan.remaining := by
        unfold clipPaid
        split
        · rename_i carries
          obtain ⟨award, nonneg, _⟩ := here.award carries
          rw [← award]
          exact ⟨le_min nonneg solvent, min_le_right _ _⟩
        · exact ⟨le_rfl, solvent⟩
      obtain ⟨others, remaining, ran, nominals, payments, uncapped⟩ := ih later
        ⟨scan.events ++ [clipped], _, _⟩ (sub_nonneg.mpr bounds.2) (add_nonneg paid bounds.1) (by dsimp only; omega)
      refine ⟨clipped :: others, remaining, ?_, ?_, ?_, ?_⟩
      · rw [List.foldlM_cons, stepped]
        refine ran.trans ?_
        rw [clipPaid_spend]
        simp [add_assoc]
      · rw [nominalAwards_cons, nominalAwards_cons, same.carries, same.multiplier, nominals]
      · rw [eventPayments_cons, nominalAwards_cons, same.carries]
        split
        · rename_i carries
          rw [same.paid carries, spend_cons, payments]
          simp [clipPaid, carries]
        · rename_i plain
          rw [payments]
          simp [clipPaid, plain]
      · intro other member
        rcases List.mem_cons.mp member with rfl | later
        · rw [same.type]
          exact here.uncapped
        · exact uncapped other later

/-- The paths of a win carry its award, and no award is negative. -/
structure ItemisedWin (win : Game.Win) : Prop where
  nonneg : ∀ award ∈ win.pathAwards, 0 ≤ award.amountMinor
  sum : (win.pathAwards.map (·.amountMinor)).sum = win.amountMinor

/-- The wins of an evaluated grid are itemised. -/
theorem evaluateWaysForBet_itemised {grid : Game.Grid} {paytable : Game.Paytable} {bet unit : Int}
    (pays : ∀ target ∈ Game.payingSymbols, 0 < paytable.value target) {result : Game.WaysResult}
    (evaluated : Game.evaluateWaysForBet grid paytable bet unit = .ok result) :
    ∀ win ∈ result.wins, ItemisedWin win := by
  obtain ⟨⟨betPos, unitPos⟩, settled, _, _, _, rfl⟩ :=
    (Game.evaluateWaysForBet_ok pays).mp evaluated
  intro win member
  obtain ⟨raw, inForm, rfl⟩ := List.mem_map.mp member
  have nominal := Game.closedForm_nominal settled pays raw inForm
  refine ⟨fun award inPaths => ?_, ?_⟩
  · obtain ⟨path, there, _, _, _, amount, _⟩ := Game.mem_sharedPaths inPaths
    have path_nonneg := (nominal.paths path there).base.trans (nominal.paths path there).within
    have floor : 0 ≤ path.amountMinor * bet / unit :=
      Int.ediv_nonneg (mul_nonneg path_nonneg betPos.le) unitPos.le
    rcases amount with whole | raised
    · exact whole ▸ floor
    · omega
  · exact (Game.sharedPaths_shared unitPos (nominal.rounds unitPos betPos)).sum

/-- The awards of a spin before the cap. -/
structure NominalSpin (betMinor : Int) (wins : List Game.Win) (events : List Game.Event) :
    Prop where
  itemised : ∀ win ∈ wins, ItemisedWin win
  carried : ∀ event ∈ events, NominalEvent betMinor event

/-- The awards of a spin in the order they are paid: its wins, its monetary events. -/
def awardNominals (betMinor : Int) (wins : List Game.Win) (events : List Game.Event) : List Int :=
  wins.map (·.amountMinor) ++ nominalAwards betMinor events

def awardPayments (awards : CappedAwards) : List Int :=
  winPayments awards.wins ++ eventPayments awards.events

/-- The same awards with every win split into its paths. -/
def pathNominals (betMinor : Int) (wins : List Game.Win) (events : List Game.Event) : List Int :=
  (wins.map fun win => win.pathAwards.map (·.amountMinor)).flatten ++ nominalAwards betMinor events

def pathPayments (awards : CappedAwards) : List Int :=
  (awards.wins.map fun win => win.pathAwards.map (·.paidAmountMinor)).flatten ++
    eventPayments awards.events

/-- What the projection of the awards of a spin to a budget is. -/
structure Projected (betMinor budget : Int) (wins : List Game.Win) (events : List Game.Event)
    (awards : CappedAwards) : Prop where
  ways : awards.wins = payAll Game.Win.amountMinor Game.projectWinToAmount budget wins
  nominals : nominalAwards betMinor awards.events = nominalAwards betMinor events
  payments : awardPayments awards = spend budget (awardNominals betMinor wins events)
  totalPaid : awards.totalPaid = min (awardNominals betMinor wins events).sum budget
  reached : (∃ event ∈ awards.events, event.type = .winCapReached) ↔
    0 < (awardNominals betMinor wins events).sum ∧
      budget ≤ (awardNominals betMinor wins events).sum

section Server

variable {betMinor budget : Int} {wins : List Game.Win} {events : List Game.Event}

theorem ItemisedWin.amount_nonneg {win : Game.Win} (itemised : ItemisedWin win) :
    0 ≤ win.amountMinor := by
  rw [← itemised.sum]
  refine List.sum_nonneg fun amount member => ?_
  obtain ⟨award, there, rfl⟩ := List.mem_map.mp member
  exact itemised.nonneg award there

theorem NominalSpin.winAmounts (spin : NominalSpin betMinor wins events) :
    ∀ amount ∈ wins.map (·.amountMinor), 0 ≤ amount := by
  intro amount member
  obtain ⟨win, there, rfl⟩ := List.mem_map.mp member
  exact (spin.itemised win there).amount_nonneg

theorem NominalSpin.eventAwards (spin : NominalSpin betMinor wins events) :
    ∀ amount ∈ nominalAwards betMinor events, 0 ≤ amount ∧ amount ≤ maxInt64 := by
  intro amount member
  simp only [nominalAwards, monetaryEvents, List.mem_map, List.mem_filter] at member
  obtain ⟨event, ⟨there, carries⟩, rfl⟩ := member
  obtain ⟨award, nonneg, fits⟩ := (spin.carried event there).award carries
  exact award ▸ ⟨nonneg, fits⟩

theorem NominalSpin.awards (spin : NominalSpin betMinor wins events) :
    ∀ amount ∈ awardNominals betMinor wins events, 0 ≤ amount := by
  intro amount member
  exact (List.mem_append.mp member).elim (spin.winAmounts amount)
    fun there => (spin.eventAwards amount there).1

/-- **The projection to a budget exists, and pays the awards in order from it.** -/
theorem projectAwards_projected (spin : NominalSpin betMinor wins events) (solvent : 0 ≤ budget)
    (bounded : budget ≤ maxInt64) {capEvent : Game.Event} (capType : capEvent.type = .winCapReached) :
    ∃ awards, projectAwards wins events (awardNominals betMinor wins events).sum budget capEvent =
        .ok awards ∧ Projected betMinor budget wins events awards := by
  have ways := Game.projectWinsToBudget_eq wins budget
  have waysPaid := spend_sum solvent spin.winAmounts
  have waysNonneg : 0 ≤ (wins.map (·.amountMinor)).sum := List.sum_nonneg spin.winAmounts
  obtain ⟨clipped, remaining, ran, nominals, payments, uncapped⟩ := foldlM_clipEvent spin.carried
    { remaining := budget - (projectWinsToBudget wins budget).2
      totalPaid := (projectWinsToBudget wins budget).2 }
    (by rw [ways]; dsimp only; omega) (by rw [ways]; dsimp only; omega) (by dsimp only; omega)
  simp only [ways, waysPaid] at ran payments
  have paid : winPayments (projectWinsToBudget wins budget).1 ++ eventPayments clipped =
      spend budget (awardNominals betMinor wins events) := by
    rw [awardNominals, spend_append solvent spin.winAmounts, payments, ways]
    congr 1
    exact payAll_map_paid Game.Win.paidAmountMinor (fun _ _ => rfl) _ _
  have total : min (wins.map (·.amountMinor)).sum budget +
      (spend (budget - min (wins.map (·.amountMinor)).sum budget)
        (nominalAwards betMinor events)).sum =
      min (awardNominals betMinor wins events).sum budget := by
    rw [← spend_sum solvent spin.awards, awardNominals, spend_append solvent spin.winAmounts,
      List.sum_append, waysPaid]
  -- the event of the cap carries no award
  have plain : monetaryEvents (if (awardNominals betMinor wins events).sum > 0 ∧
      (awardNominals betMinor wins events).sum ≥ budget then [capEvent] else []) = [] := by
    split
    · simp [monetaryEvents, carriesAward, capType]
    · rfl
  refine ⟨_, projectAwards_ok.mpr ⟨_, by rw [ways, waysPaid]; exact ran, rfl⟩, ?_, ?_, ?_, ?_, ?_⟩
  · rw [ways]
  · rw [Game.nominalAwards_append, ← nominals]
    simp [nominalAwards, plain]
  · rw [← paid]
    simp [awardPayments, eventPayments, Game.monetaryEvents_append, plain]
  · exact total
  · simp only [List.nil_append, List.mem_append]
    constructor
    · rintro ⟨event, there | there, type⟩
      · exact absurd type (uncapped event there)
      · split at there
        · assumption
        · simp at there
    · intro reached
      exact ⟨capEvent, .inr (by rw [if_pos reached]; exact List.mem_singleton_self _), capType⟩

end Server

/-! ## The message -/

/-- What an event of the server says once it is decoded. -/
structure Reads (betMinor : Int) (event : Game.Event) (path : String) (decoded : FeatureEvent) :
    Prop where
  money : monetaryEventPaidFacts betMinor decoded = if carriesAward event then
    some { nominal := betMinor * event.multiplier, paid := event.amountMinor } else none
  capped : decoded.isWinCap = true ↔ event.type = .winCapReached
  surge : decoded.surge? = if event.type = .surgeCollected then
    some { count := event.count, level := event.level, total := event.total } else none
  freeSpins : decoded.freeSpins = if event.type = .freeSpinAwarded then event.count else 0
  running : event.type ≠ .freeSpinsCompleted → decoded.completion? = none
  completed : event.type = .freeSpinsCompleted → ∃ mode,
    decodeMode (makeEventResponse event).mode s!"{path}.mode" = .ok mode ∧
      decoded.completion? = some { mode := mode, awarded := event.awarded
                                   cumulativeWinMinor := event.cumulativeWinMinor }

/-- An event whose type is none of those the reads look for. -/
theorem Reads.plain {betMinor : Int} {event : Game.Event} {path : String} {decoded : FeatureEvent}
    (carries : carriesAward event = false) (facts : monetaryEventPaidFacts betMinor decoded = none)
    (capped : decoded.isWinCap = false) (surge : decoded.surge? = none)
    (freeSpins : decoded.freeSpins = 0) (completion : decoded.completion? = none)
    (others : event.type ∉ [.winCapReached, .surgeCollected, .freeSpinAwarded,
      .freeSpinsCompleted]) : Reads betMinor event path decoded := by
  simp only [List.mem_cons, List.not_mem_nil, or_false, not_or] at others
  obtain ⟨cap, collected, awarded, completed⟩ := others
  exact ⟨by simp [carries, facts], by simp [capped, cap], by simp [surge, collected],
    by simp [freeSpins, awarded], fun _ => completion, fun type => absurd type completed⟩

theorem eventBody_reads (betMinor : Int) {event : Game.Event} {path : String}
    {decoded : FeatureEvent} (body : eventBody (makeEventResponse event) path = .ok decoded) :
    Reads betMinor event path decoded := by
  simp only [eventBody, makeEventResponse] at body
  cases type : event.type with
  | wheelAwarded =>
      simp only [type] at body
      split at body
      · rename_i instant
        simp only [bind_ok, pure_ok] at body
        obtain ⟨prize, _, multiplier, positive, rfl⟩ := body
        obtain ⟨rfl, _⟩ := positivePresentationInteger_ok positive
        exact ⟨by simp [monetaryEventPaidFacts, carriesAward, type, instant],
          by simp [FeatureEvent.isWinCap, type], by simp [FeatureEvent.surge?, type],
          by simp [FeatureEvent.freeSpins, type], fun _ => rfl, by simp [type]⟩
      · rename_i expansion
        cases pure_ok.mp body
        exact .plain (by simp [carriesAward, type, expansion]) rfl rfl rfl rfl rfl (by simp [type])
      · rename_i overdrive
        cases pure_ok.mp body
        exact .plain (by simp [carriesAward, type, overdrive]) rfl rfl rfl rfl rfl (by simp [type])
      · cases body
  | vaultAwarded =>
      simp only [type, bind_ok, pure_ok] at body
      obtain ⟨prize, _, multiplier, positive, rfl⟩ := body
      obtain ⟨rfl, _⟩ := positivePresentationInteger_ok positive
      exact ⟨by simp [monetaryEventPaidFacts, carriesAward, type],
        by simp [FeatureEvent.isWinCap, type], by simp [FeatureEvent.surge?, type],
        by simp [FeatureEvent.freeSpins, type], fun _ => rfl, by simp [type]⟩
  | winCapReached =>
      simp only [type, bind_ok, pure_ok] at body
      obtain ⟨_, _, rfl⟩ := body
      exact ⟨by simp [monetaryEventPaidFacts, carriesAward, type],
        by simp [FeatureEvent.isWinCap, type], by simp [FeatureEvent.surge?, type],
        by simp [FeatureEvent.freeSpins, type], fun _ => rfl, by simp [type]⟩
  | surgeCollected | freeSpinAwarded =>
      simp only [type, pure_ok] at body
      subst body
      exact ⟨by simp [monetaryEventPaidFacts, carriesAward, type],
        by simp [FeatureEvent.isWinCap, type], by simp [FeatureEvent.surge?, type],
        by simp [FeatureEvent.freeSpins, type], fun _ => rfl, by simp [type]⟩
  | freeSpinsCompleted =>
      simp only [type, bind_ok, pure_ok, featureModeOf, refuse_ok, exists_unit] at body
      obtain ⟨mode, ⟨_, decodes, _, rfl⟩, rfl⟩ := body
      exact ⟨by simp [monetaryEventPaidFacts, carriesAward, type],
        by simp [FeatureEvent.isWinCap, type], by simp [FeatureEvent.surge?, type],
        by simp [FeatureEvent.freeSpins, type], by simp [type], fun _ => ⟨_, decodes, rfl⟩⟩
  | freeSpinsStarted =>
      simp only [type, bind_ok, pure_ok] at body
      obtain ⟨_, _, rfl⟩ := body
      exact .plain (by simp [carriesAward, type]) rfl rfl rfl rfl rfl (by simp [type])
  | vaultUnlocked =>
      simp only [type, bind_ok, pure_ok] at body
      obtain ⟨_, _, _, _, rfl⟩ := body
      exact .plain (by simp [carriesAward, type]) rfl rfl rfl rfl rfl (by simp [type])
  | vaultUpgraded =>
      simp only [type, bind_ok, pure_ok] at body
      obtain ⟨_, _, _, _, _, _, rfl⟩ := body
      exact .plain (by simp [carriesAward, type]) rfl rfl rfl rfl rfl (by simp [type])
  | other name =>
      simp only [type] at body
      cases body
  | _ =>
      simp only [type, pure_ok] at body
      subst body
      exact .plain (by simp [carriesAward, type]) rfl rfl rfl rfl rfl (by simp [type])

/-- A list of events and its translation. -/
theorem translatedEvents_ok {value : List Game.Event} {decoded : List FeatureEvent}
    (translated : translatedEvents value = .ok decoded) :
    List.Forall₂ (fun event decoded => ∃ path, checkEvent event path = .ok () ∧
      eventBody event path = .ok decoded) value decoded := by
  simp only [translatedEvents, bind_ok, refuse_ok, exists_unit, mapM_ok] at translated
  have related := translated.2
  have entries : value = value.zipIdx.map (·.1) := by simp
  rw [entries, List.forall₂_map_left_iff]
  refine related.imp fun entry decoded stepped => ?_
  simp only [translatedEvent, bind_ok, exists_unit] at stepped
  exact ⟨_, stepped⟩

theorem sent_events {betMinor : Int} {events : List Game.Event} {decoded : List FeatureEvent}
    (translated : translatedEvents (events.map makeEventResponse) = .ok decoded) :
    eventNominals betMinor decoded = nominalAwards betMinor events ∧
      eventPaid betMinor decoded = eventPayments events ∧
      (decoded.any (·.isWinCap) = true ↔ ∃ event ∈ events, event.type = .winCapReached) := by
  have related := translatedEvents_ok translated
  rw [List.forall₂_map_left_iff] at related
  clear translated
  induction related with
  | nil => simp [eventNominals, eventPaid, eventFacts, nominalAwards, eventPayments, monetaryEvents]
  | @cons event decoded rest others translated _ ih =>
      obtain ⟨path, _, body⟩ := translated
      have reads := eventBody_reads betMinor body
      obtain ⟨nominals, payments, flags⟩ := ih
      have known : eventFacts betMinor (decoded :: others) =
          (if carriesAward event then
            [{ nominal := betMinor * event.multiplier, paid := event.amountMinor }] else []) ++
            eventFacts betMinor others := by
        simp only [eventFacts, List.filterMap_cons, reads.money]
        split <;> simp_all
      refine ⟨?_, ?_, ?_⟩
      · rw [nominalAwards_cons, ← nominals, eventNominals, known]
        split <;> simp [eventNominals]
      · rw [eventPayments_cons, ← payments, eventPaid, known]
        split <;> simp [eventPaid]
      · simp only [List.any_cons, Bool.or_eq_true, reads.capped, flags]
        simp

/-! ## Messages that differ in what they pay -/

def PathAward.unpaid (award : PathAward) : PathAward := { award with amountMinor := 0 }

def Win.unpaid (win : Win) : Win :=
  { win with amountMinor := 0, pathAwards := win.pathAwards.map (·.map (·.unpaid)) }

def FeatureEvent.unpaid : FeatureEvent → FeatureEvent
  | wheelInstant prize multiplier _ => wheelInstant prize multiplier 0
  | vaultAwarded address prize multiplier _ => vaultAwarded address prize multiplier 0
  | event => event

/-- Two messages that show the same awards, and may pay them differently. -/
structure SameAwards (wins otherWins : List Win) (events otherEvents : List FeatureEvent) :
    Prop where
  wins : wins.map (·.unpaid) = otherWins.map (·.unpaid)
  events : events.map (·.unpaid) = otherEvents.map (·.unpaid)

@[simp] theorem Win.unpaid_nominal (win : Win) :
    win.unpaid.nominalAmountMinor = win.nominalAmountMinor := rfl

@[simp] theorem Win.unpaid_pathNominals (win : Win) :
    win.unpaid.pathNominals = win.pathNominals := by
  cases listed : win.pathAwards <;>
    simp [pathNominals, paths, unpaid, listed, PathAward.unpaid, Function.comp_def]

theorem Win.unpaid_listed (win : Win) : win.unpaid.pathAwards ≠ none ↔ win.pathAwards ≠ none := by
  simp [unpaid]

theorem PathAward.ext_paid {paths others : List PathAward}
    (same : paths.map (·.unpaid) = others.map (·.unpaid))
    (paid : paths.map (·.amountMinor) = others.map (·.amountMinor)) : paths = others := by
  have pairs : paths.map (fun award => (award.unpaid, award.amountMinor)) =
      others.map fun award => (award.unpaid, award.amountMinor) := by
    rw [← List.zip_map', ← List.zip_map', same, paid]
  refine List.map_injective_iff.mpr (fun award other equal => ?_) pairs
  obtain ⟨unpaid, paid⟩ := Prod.mk.inj equal
  cases award
  cases other
  simp_all [PathAward.unpaid]

/-- A win is what it shows with what it pays. -/
theorem Win.ext_paid {win other : Win} (same : win.unpaid = other.unpaid)
    (paid : win.amountMinor = other.amountMinor) (paths : win.pathPayments = other.pathPayments) :
    win = other := by
  obtain ⟨id, symbol, ways, nominal, amount, multiplier, cells, awards⟩ := win
  obtain ⟨id', symbol', ways', nominal', amount', multiplier', cells', awards'⟩ := other
  simp only [unpaid, Win.mk.injEq] at same
  obtain ⟨rfl, rfl, rfl, rfl, _, rfl, rfl, listed⟩ := same
  cases paid
  congr 1
  cases awards with
  | none => simpa [eq_comm] using listed
  | some awards =>
      cases awards' with
      | none => simp at listed
      | some awards' =>
          simp only [Option.map_some, Option.some.injEq] at listed
          exact congrArg some (PathAward.ext_paid listed paths)

theorem FeatureEvent.unpaid_facts (betMinor : Int) {event other : FeatureEvent}
    (same : event.unpaid = other.unpaid) :
    (monetaryEventPaidFacts betMinor event).map (·.nominal) =
        (monetaryEventPaidFacts betMinor other).map (·.nominal) ∧
      event.isWinCap = other.isWinCap := by
  cases event <;> cases other <;> simp_all [unpaid, monetaryEventPaidFacts, isWinCap]

theorem FeatureEvent.ext_paid {betMinor : Int} {event other : FeatureEvent}
    (same : event.unpaid = other.unpaid)
    (paid : (monetaryEventPaidFacts betMinor event).map (·.paid) =
      (monetaryEventPaidFacts betMinor other).map (·.paid)) : event = other := by
  cases event <;> cases other <;> simp_all [unpaid, monetaryEventPaidFacts]

theorem map_eq_map_forall₂ {α β : Type} {f : α → β} {left right : List α}
    (same : left.map f = right.map f) : List.Forall₂ (fun a b => f a = f b) left right := by
  rwa [← List.forall₂_eq_eq_eq, List.forall₂_map_left_iff, List.forall₂_map_right_iff] at same

theorem eventNominals_cons (betMinor : Int) (event : FeatureEvent) (rest : List FeatureEvent) :
    eventNominals betMinor (event :: rest) =
      ((monetaryEventPaidFacts betMinor event).map (·.nominal)).toList ++
        eventNominals betMinor rest := by
  cases known : monetaryEventPaidFacts betMinor event <;>
    simp [eventNominals, eventFacts, known]

theorem eventPaid_cons (betMinor : Int) (event : FeatureEvent) (rest : List FeatureEvent) :
    eventPaid betMinor (event :: rest) =
      ((monetaryEventPaidFacts betMinor event).map (·.paid)).toList ++ eventPaid betMinor rest := by
  cases known : monetaryEventPaidFacts betMinor event <;> simp [eventPaid, eventFacts, known]

theorem Win.Itemised.of_unpaid {win other : Win} (same : win.unpaid = other.unpaid)
    (itemised : other.Itemised) : win.Itemised := by
  have nominals : win.pathNominals = other.pathNominals := by
    rw [← unpaid_pathNominals win, same, unpaid_pathNominals]
  refine ⟨?_, ?_, ?_⟩
  · rw [← unpaid_listed, same, unpaid_listed]
    exact itemised.listed
  · rw [nominals]
    exact itemised.nonneg
  · rw [nominals, ← unpaid_nominal win, same, unpaid_nominal]
    exact itemised.sum

/-- Of two lists of payments the first are equal, when both events pay or neither does. -/
theorem paid_cons_inj {facts otherFacts : Option PaidFacts} {rest otherRest : List Int}
    (nominal : facts.map (·.nominal) = otherFacts.map (·.nominal))
    (paid : (facts.map (·.paid)).toList ++ rest = (otherFacts.map (·.paid)).toList ++ otherRest) :
    facts.map (·.paid) = otherFacts.map (·.paid) ∧ rest = otherRest := by
  cases facts <;> cases otherFacts <;> simp_all

namespace SameAwards

variable {betMinor budget : Int} {wins others : List Win} {events otherEvents : List FeatureEvent}

theorem winNominals (same : SameAwards wins others events otherEvents) :
    winNominals wins = Client.winNominals others := by
  have shown := congrArg (List.map Win.nominalAmountMinor) same.wins
  rwa [List.map_map, List.map_map] at shown

theorem itemised (same : SameAwards wins others events otherEvents)
    (sent : ∀ win ∈ others, win.Itemised) : ∀ win ∈ wins, win.Itemised := by
  intro win member
  have there : win.unpaid ∈ others.map (·.unpaid) := same.wins ▸ List.mem_map_of_mem member
  obtain ⟨other, otherMember, equal⟩ := List.mem_map.mp there
  exact .of_unpaid equal.symm (sent other otherMember)

theorem eventNominals (betMinor : Int) (same : SameAwards wins others events otherEvents) :
    eventNominals betMinor events = Client.eventNominals betMinor otherEvents ∧
      events.any (·.isWinCap) = otherEvents.any (·.isWinCap) := by
  have related := map_eq_map_forall₂ same.events
  clear same
  induction related with
  | nil => exact ⟨rfl, rfl⟩
  | cons here _ ih =>
      obtain ⟨nominal, capped⟩ := FeatureEvent.unpaid_facts betMinor here
      constructor
      · rw [eventNominals_cons, eventNominals_cons, nominal, ih.1]
      · rw [List.any_cons, List.any_cons, capped, ih.2]

/-- The events of a message are what they show with what they pay. -/
theorem events_eq (betMinor : Int) (same : SameAwards wins others events otherEvents)
    (paid : eventPaid betMinor events = eventPaid betMinor otherEvents) : events = otherEvents := by
  have related := map_eq_map_forall₂ same.events
  clear same
  induction related with
  | nil => rfl
  | cons here _ ih =>
      obtain ⟨nominal, _⟩ := FeatureEvent.unpaid_facts betMinor here
      rw [eventPaid_cons, eventPaid_cons] at paid
      obtain ⟨first, rest⟩ := paid_cons_inj nominal paid
      rw [ih rest, FeatureEvent.ext_paid here first]

theorem wins_eq (same : SameAwards wins others events otherEvents)
    (paid : winPaid wins = winPaid others)
    (paths : ∀ win ∈ wins, win.pathPayments = spend win.amountMinor win.pathNominals)
    (otherPaths : ∀ win ∈ others, win.pathPayments = spend win.amountMinor win.pathNominals) :
    wins = others := by
  have related := map_eq_map_forall₂ same.wins
  clear same
  induction related with
  | nil => rfl
  | @cons win other rest otherRest here _ ih =>
      obtain ⟨amount, restPaid⟩ := List.cons.inj paid
      obtain ⟨winPaths, restPaths⟩ := List.forall_mem_cons.mp paths
      obtain ⟨otherWinPaths, otherRestPaths⟩ := List.forall_mem_cons.mp otherPaths
      have nominals : win.pathNominals = other.pathNominals := by
        rw [← Win.unpaid_pathNominals win, here, Win.unpaid_pathNominals]
      have equal : win = other := Win.ext_paid here amount (by
        rw [winPaths, otherWinPaths, nominals]
        exact congrArg (spend · _) amount)
      rw [equal, ih restPaid restPaths otherRestPaths]

/-- **One vector of payments is paid in order from a budget.** -/
theorem paid_once (same : SameAwards wins others events otherEvents)
    (paid : PaidInOrder betMinor budget wins events)
    (sent : PaidInOrder betMinor budget others otherEvents) :
    wins = others ∧ events = otherEvents := by
  have items := paid.items
  rw [same.winNominals, (same.eventNominals betMinor).1, ← sent.items] at items
  have size : (winPaid wins).length = (winPaid others).length := by
    simpa [winPaid] using congrArg List.length same.wins
  obtain ⟨winsPaid, eventsPaid⟩ := List.append_inj items size
  exact ⟨same.wins_eq winsPaid paid.paths sent.paths, same.events_eq betMinor eventsPaid⟩

end SameAwards

/-! ## The client and the server -/

section Agreement

variable {betMinor budget : Int} {wins : List Game.Win} {events : List Game.Event}
  {awards : CappedAwards} {sent : List FeatureEvent}

theorem makeWinResponse_pathNominals (win : Game.Win) :
    (makeWinResponse win).pathNominals = win.pathAwards.map (·.amountMinor) := by
  simp [Win.pathNominals, Win.paths, makeWinResponse, makePathAwardResponse, Function.comp_def]

theorem makeWinResponse_pathPayments (win : Game.Win) :
    (makeWinResponse win).pathPayments = win.pathAwards.map (·.paidAmountMinor) := by
  simp [Win.pathPayments, Win.paths, makeWinResponse, makePathAwardResponse, Function.comp_def]

/-- What is sent of a projection shows its awards and pays them in order. -/
structure Sends (betMinor budget : Int) (awards : CappedAwards) (sent : List FeatureEvent) :
    Prop where
  itemised : ∀ win ∈ awards.wins.map makeWinResponse, win.Itemised
  nominals : ∀ nominal ∈ eventNominals betMinor sent, 0 ≤ nominal ∧ nominal ≤ maxInt64
  reports : ReportsCap betMinor budget awards.totalPaid (awards.wins.map makeWinResponse) sent
  paid : PaidInOrder betMinor budget (awards.wins.map makeWinResponse) sent

theorem Projected.sends_of (projected : Projected betMinor budget wins events awards)
    (items : ∀ win ∈ wins, ItemisedWin win)
    (bounds : ∀ amount ∈ nominalAwards betMinor events, 0 ≤ amount ∧ amount ≤ maxInt64)
    (translated : translatedEvents (awards.events.map makeEventResponse) = .ok sent) :
    Sends betMinor budget awards sent := by
  obtain ⟨nominals, payments, capped⟩ : eventNominals betMinor sent = _ ∧ _ ∧ _ :=
    sent_events translated
  rw [projected.nominals] at nominals
  have ways : winNominals (awards.wins.map makeWinResponse) = wins.map (·.amountMinor) := by
    rw [winNominals, List.map_map, projected.ways]
    refine payAll_map_kept _ (·.amountMinor) (fun win amount => ?_) budget wins
    rfl
  have paid : winPaid (awards.wins.map makeWinResponse) = winPayments awards.wins := by
    rw [winPaid, List.map_map]
    rfl
  have total : messageNominal betMinor (awards.wins.map makeWinResponse) sent =
      (awardNominals betMinor wins events).sum := by
    rw [messageNominal, ways, nominals, awardNominals, List.sum_append]
  refine ⟨?_, ?_, ⟨?_, ?_⟩, ⟨?_, ?_⟩⟩
  · intro response member
    obtain ⟨win, there, rfl⟩ := List.mem_map.mp member
    rw [projected.ways] at there
    obtain ⟨raw, rawMember, amount, rfl⟩ := payAll_mem there
    have itemised := items raw rawMember
    refine ⟨by simp [makeWinResponse], ?_, ?_⟩
    · rw [makeWinResponse_pathNominals, Game.projectWinToAmount_nominal]
      simpa using itemised.nonneg
    · rw [makeWinResponse_pathNominals, Game.projectWinToAmount_nominal, itemised.sum]
      rfl
  · rw [nominals]
    exact bounds
  · rw [capped, projected.reached, total]
  · rw [projected.totalPaid, total]
  · rw [paid, payments, ways, nominals]
    exact projected.payments
  · intro response member
    obtain ⟨win, there, rfl⟩ := List.mem_map.mp member
    rw [projected.ways] at there
    obtain ⟨raw, _, amount, rfl⟩ := payAll_mem there
    rw [makeWinResponse_pathPayments, makeWinResponse_pathNominals, Game.projectWinToAmount_paid,
      Game.projectWinToAmount_nominal]
    rfl

theorem Projected.sends (projected : Projected betMinor budget wins events awards)
    (spin : NominalSpin betMinor wins events)
    (translated : translatedEvents (awards.events.map makeEventResponse) = .ok sent) :
    Sends betMinor budget awards sent :=
  projected.sends_of spin.itemised spin.eventAwards translated

/-- The paths of all the wins are paid as one list of awards. -/
theorem Projected.pathPayments_eq (projected : Projected betMinor budget wins events awards)
    (spin : NominalSpin betMinor wins events) (solvent : 0 ≤ budget) :
    pathPayments awards = spend budget (pathNominals betMinor wins events) := by
  let paths (win : Game.Win) : List Int := win.pathAwards.map (·.amountMinor)
  have nonneg : ∀ group ∈ wins.map paths, ∀ amount ∈ group, 0 ≤ amount := by
    intro group member amount inGroup
    obtain ⟨win, there, rfl⟩ := List.mem_map.mp member
    obtain ⟨award, listed, rfl⟩ := List.mem_map.mp inGroup
    exact (spin.itemised win there).nonneg award listed
  have sums : (wins.map paths).map List.sum = wins.map (·.amountMinor) := by
    rw [List.map_map]
    exact List.map_congr_left fun win member => (spin.itemised win member).sum
  have flat : ∀ amount ∈ (wins.map paths).flatten, 0 ≤ amount := by
    intro amount member
    obtain ⟨group, there, inGroup⟩ := List.mem_flatten.mp member
    exact nonneg group there amount inGroup
  -- the paths of each win share what the win is paid
  have shared : (awards.wins.map fun win => win.pathAwards.map (·.paidAmountMinor)) =
      List.zipWith spend (spend budget ((wins.map paths).map List.sum)) (wins.map paths) := by
    rw [projected.ways, payAll_eq_zipWith, List.map_zipWith, sums, List.zipWith_map_right,
      List.zipWith_comm]
    simp only [Game.projectWinToAmount_paid]
    rfl
  have items := projected.payments
  rw [awardPayments, awardNominals, spend_append solvent spin.winAmounts] at items
  have size : (winPayments awards.wins).length =
      (spend budget (wins.map (·.amountMinor))).length := by
    rw [winPayments, projected.ways, payAll_eq_zipWith]
    simp
  obtain ⟨_, eventsPaid⟩ := List.append_inj items size
  have total : (wins.map paths).flatten.sum = (wins.map (·.amountMinor)).sum := by
    rw [List.sum_flatten, sums]
  rw [pathPayments, shared, eventsPaid, pathNominals]
  rw [spend_append solvent flat, total, spend_flatten solvent nonneg]

end Agreement

/-- Nothing is paid behind an award that is not paid in full. -/
def PaysInOrder (nominals payments : List Int) : Prop :=
  ∀ (first later : Nat) (paid : Int), first < later → payments[later]? = some paid → 0 < paid →
    payments[first]? = nominals[first]?

theorem spend_paysInOrder {budget : Int} {nominals : List Int} (solvent : 0 ≤ budget)
    (nonneg : ∀ nominal ∈ nominals, 0 ≤ nominal) :
    PaysInOrder nominals (spend budget nominals) := by
  intro first later paid before found positive
  have inside : first < nominals.length := by
    have := (List.getElem?_eq_some_iff.mp found).1
    rw [spend_length] at this
    omega
  rw [List.getElem?_eq_getElem inside]
  exact spend_prefix solvent nonneg before found positive (List.getElem?_eq_getElem inside)

/-- **The client accepts the payments of the server and no others.**  For every
budget the projection of the awards exists; of all the messages that show its
awards with its total and its cap event, the client accepts the one that pays
them as the projection does.  The projection pays the smaller of the awards and
the budget, pays nothing behind an award it cuts, and pays no award less from a
larger budget. -/
theorem validatePaidAwardProjection_iff {betMinor : Int} {wins : List Game.Win}
    {events : List Game.Event} (spin : NominalSpin betMinor wins events)
    {capEvent : Game.Event} (capType : capEvent.type = .winCapReached)
    {budget : Int} (solvent : 0 ≤ budget) (bounded : budget ≤ maxInt64) :
    ∃ awards, projectAwards wins events (awardNominals betMinor wins events).sum budget capEvent =
        .ok awards ∧
      (∀ sent, translatedEvents (awards.events.map makeEventResponse) = .ok sent →
        ∀ received receivedEvents,
          SameAwards received (awards.wins.map makeWinResponse) receivedEvents sent →
          (validatePaidAwardProjection received receivedEvents betMinor awards.totalPaid = .ok () ↔
            received = awards.wins.map makeWinResponse ∧ receivedEvents = sent)) ∧
      awards.totalPaid = min (awardNominals betMinor wins events).sum budget ∧
      (awardPayments awards).sum = awards.totalPaid ∧
      PaysInOrder (awardNominals betMinor wins events) (awardPayments awards) ∧
      PaysInOrder (pathNominals betMinor wins events) (pathPayments awards) ∧
      ∀ smaller less, 0 ≤ smaller → smaller ≤ budget →
        projectAwards wins events (awardNominals betMinor wins events).sum smaller capEvent =
          .ok less →
        List.Forall₂ (· ≤ ·) (awardPayments less) (awardPayments awards) ∧
          List.Forall₂ (· ≤ ·) (pathPayments less) (pathPayments awards) := by
  obtain ⟨awards, ran, projected⟩ := projectAwards_projected spin solvent bounded capType
  have paths := projected.pathPayments_eq spin solvent
  have pathsNonneg : ∀ nominal ∈ pathNominals betMinor wins events, 0 ≤ nominal := by
    intro nominal member
    rcases List.mem_append.mp member with inWins | inEvents
    · obtain ⟨group, there, inGroup⟩ := List.mem_flatten.mp inWins
      obtain ⟨win, winMember, rfl⟩ := List.mem_map.mp there
      obtain ⟨award, listed, rfl⟩ := List.mem_map.mp inGroup
      exact (spin.itemised win winMember).nonneg award listed
    · exact (spin.eventAwards nominal inEvents).1
  refine ⟨awards, ran, ?_, projected.totalPaid, ?_, ?_, ?_, ?_⟩
  · intro sent translated received receivedEvents same
    have sends := projected.sends spin translated
    obtain ⟨nominals, flag⟩ := same.eventNominals betMinor
    have reports : ReportsCap betMinor budget awards.totalPaid received receivedEvents := by
      obtain ⟨reached, total⟩ := sends.reports
      rw [messageNominal, ← same.winNominals, ← nominals] at reached total
      exact ⟨by rw [flag]; exact reached, total⟩
    rw [validatePaidAwardProjection_paid solvent (same.itemised sends.itemised)
      (by rw [nominals]; exact sends.nominals) reports]
    constructor
    · exact fun paid => same.paid_once paid sends.paid
    · rintro ⟨rfl, rfl⟩
      exact sends.paid
  · rw [projected.payments, spend_sum solvent spin.awards, projected.totalPaid]
  · rw [projected.payments]
    exact spend_paysInOrder solvent spin.awards
  · rw [paths]
    exact spend_paysInOrder solvent pathsNonneg
  · intro smaller less smallerSolvent le ranLess
    obtain ⟨awards', ran', projected'⟩ :=
      projectAwards_projected spin smallerSolvent (le.trans bounded) capType
    rw [ranLess] at ran'
    cases ran'
    rw [projected.payments, projected'.payments, paths, projected'.pathPayments_eq spin smallerSolvent]
    exact ⟨spend_mono le _, spend_mono le _⟩

/-- One win of two paths. -/
def cutWin : Game.Win :=
  { id := "orbit-3", symbol := .orbit, ways := 2, amountMinor := 3, paidAmountMinor := 0
    cells := []
    pathAwards :=
      [{ cells := [], multiplier := 1, baseAmountMinor := 1, amountMinor := 1
         paidAmountMinor := 0 },
       { cells := [], multiplier := 2, baseAmountMinor := 1, amountMinor := 2
         paidAmountMinor := 0 }] }

/-- A vault of twice the bet of ten. -/
def cutVault : Game.Event :=
  { type := .vaultAwarded, prize := .times 2, multiplier := 2, amountMinor := 20 }

/-- A budget of twelve pays the win and cuts the vault. -/
def cutAwards : CappedAwards :=
  { wins := [Game.projectWinToAmount cutWin 3]
    events := [{ cutVault with amountMinor := 9 }, { type := .winCapReached, multiplier := 2500 }]
    totalPaid := 12 }

theorem cutAwards_accepted :
    ∃ sent, translatedEvents (cutAwards.events.map makeEventResponse) = .ok sent ∧
      validatePaidAwardProjection (cutAwards.wins.map makeWinResponse) sent 10 12 = .ok () ∧
      (awardPayments cutAwards).sum = 12 := by
  obtain ⟨awards, ran, accepts, total, sum, _⟩ := validatePaidAwardProjection_iff
    (show NominalSpin 10 [cutWin] [cutVault] from
      ⟨by simpa using ⟨by decide, by decide⟩, by simpa using ⟨by decide, by decide, by decide⟩⟩)
    (show ({ type := .winCapReached, multiplier := 2500 } : Game.Event).type = .winCapReached
      from rfl)
    (show (0 : Int) ≤ 12 by decide) (by decide)
  obtain rfl : cutAwards = awards := by
    have computed : projectAwards [cutWin] [cutVault] 23 12
        { type := .winCapReached, multiplier := 2500 } = .ok cutAwards := by rfl
    exact Except.ok.inj (computed.symm.trans ran)
  have decoded : translatedEvents (cutAwards.events.map makeEventResponse) = .ok
      [.vaultAwarded ⟨0, 0⟩ "X2" 2 9, .winCapReached 2500 0] := by decide +kernel
  exact ⟨_, decoded, (accepts _ decoded _ _ ⟨rfl, rfl⟩).mpr ⟨rfl, rfl⟩, sum⟩

end SlotsGame.Client
