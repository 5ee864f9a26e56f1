/-
# SlotsGame.Client.Acceptance -- the client takes the money of every accepted outcome

The client shows an outcome when what it is shown to pay adds up to the total, and is paid the
way the budget of the cap is spent.  Every outcome that the server's validator accepts is:
nothing else is asked of it, so it need not be a spin of the engine.
-/
import SlotsGame.Client.Origin
import SlotsGame.Game.Runs

namespace SlotsGame.Client

open SlotsGame.Theory Budget
open SlotsGame.Game (maxInt64 nominalAwards budgetLeft)

set_option autoImplicit false

/-! ## An accepted outcome pays its projection -/

section Accepted

variable {config : Game.Config} {input : Game.SpinInput} {outcome : Game.SpinOutcome}

/-- What the message of an outcome pays. -/
def outcomeAwards (outcome : Game.SpinOutcome) : CappedAwards :=
  { wins := outcome.wins, events := outcome.events, totalPaid := outcome.totalWinMinor }

/-- Every nominal award is a product that the validator could compute. -/
theorem checkCappedEvents_fit {betMinor : Int} {events : List Game.Event}
    {scan final : Game.CappedScan}
    (run : events.foldlM (Game.checkCappedEvent betMinor) scan = .ok final) :
    ∀ award ∈ nominalAwards betMinor events, award ≤ maxInt64 := by
  have each := foldlM_ok_forall (fun event => Game.carriesAward event = true →
    betMinor * event.multiplier ≤ maxInt64) run ?_
  · intro award member
    obtain ⟨event, there, rfl⟩ := List.mem_map.mp member
    obtain ⟨inside, carries⟩ := List.mem_filter.mp there
    exact each event inside carries
  · intro scan event next stepped carries
    simp only [Game.checkCappedEvent, Game.nominalEventAward_eq, carries, if_true, bind_ok,
      map_ok] at stepped
    obtain ⟨_, ⟨_, multiplied, rfl⟩, _⟩ := stepped
    exact (Game.safeMul_ok.mp multiplied).2.2.1

theorem accepted_projected (facts : Game.ConfigFacts config)
    (accepted : Game.validateOutcomeAgainstValidatedConfig config input outcome = .ok ()) :
    ∃ wins, (∀ win ∈ wins, ItemisedWin win) ∧
      (∀ amount ∈ nominalAwards input.betMinor outcome.events, 0 ≤ amount ∧ amount ≤ maxInt64) ∧
      Projected input.betMinor (budgetLeft config input) wins outcome.events
        (outcomeAwards outcome) := by
  obtain ⟨_, _, raw, evaluated, capped⟩ :=
    Game.validateOutcomeAgainstValidatedConfig_ok.mp accepted
  obtain ⟨_, _, _, scan, run, _⟩ := Game.validateCapped_ok capped
  obtain ⟨other, same, pays⟩ := Game.accepted_paysProjection accepted
  obtain rfl := Except.ok.inj (evaluated.symm.trans same)
  have cap := Game.accepted_capFacts accepted
  have totalled := Game.evaluateWaysForBet_totalled evaluated
  have sums : (awardNominals input.betMinor raw.wins outcome.events).sum =
      raw.total + (nominalAwards input.betMinor outcome.events).sum := by
    rw [awardNominals, List.sum_append, totalled.total]
  have nominal : Game.nominalTotal input.betMinor outcome =
      (awardNominals input.betMinor raw.wins outcome.events).sum := by
    have firsts := congrArg (List.map Prod.fst) pays.nominal
    simp only [List.map_map, Function.comp_def] at firsts
    rw [Game.nominalTotal, awardNominals, List.sum_append, firsts]
  refine ⟨raw.wins, evaluateWaysForBet_itemised facts.pays evaluated, fun amount member => ?_,
    pays.wins, rfl, pays.payments, ?_, ?_⟩
  · exact ⟨(Game.checkCappedEvents_ok run).1 amount member, checkCappedEvents_fit run amount member⟩
  · rw [sums]
    exact pays.total
  · have boundary := cap.boundary
    rw [nominal] at boundary
    have listed : (∃ event ∈ outcome.events, event.type = .winCapReached) ↔
        (Game.eventIndexes outcome.events .winCapReached).length ≠ 0 := by
      rw [ne_eq, List.length_eq_zero_iff, Game.eventIndexes_eq_nil]
      simp only [not_forall, not_not, exists_prop]
    refine listed.trans ?_
    rw [boundary]
    split
    · next reached => exact iff_of_true one_ne_zero reached
    · next missed => exact iff_of_false (not_not.mpr rfl) missed

/-- Of the messages that show what is sent, the client takes the one that pays it. -/
theorem Sends.accepts {betMinor budget : Int} {awards : CappedAwards} {sent : List FeatureEvent}
    (sends : Sends betMinor budget awards sent) (solvent : 0 ≤ budget) {received : List Win}
    {receivedEvents : List FeatureEvent}
    (same : SameAwards received (awards.wins.map makeWinResponse) receivedEvents sent) :
    validatePaidAwardProjection received receivedEvents betMinor awards.totalPaid = .ok () ↔
      received = awards.wins.map makeWinResponse ∧ receivedEvents = sent := by
  obtain ⟨nominals, flag⟩ := same.eventNominals betMinor
  obtain ⟨reached, total⟩ := sends.reports
  rw [messageNominal, ← same.winNominals, ← nominals] at reached total
  rw [validatePaidAwardProjection_paid solvent (same.itemised sends.itemised)
    (by rw [nominals]; exact sends.nominals) ⟨by rw [flag]; exact reached, total⟩]
  constructor
  · exact fun paid => same.paid_once paid sends.paid
  · rintro ⟨rfl, rfl⟩
    exact sends.paid

theorem visible_sum (betMinor : Int) (events : List FeatureEvent) :
    (events.map (·.amountMinor)).sum = (eventPaid betMinor events).sum := by
  induction events with
  | nil => rfl
  | cons event rest ih =>
      rw [List.map_cons, List.sum_cons, ih, eventPaid_cons, List.sum_append]
      cases event <;> simp [FeatureEvent.amountMinor, monetaryEventPaidFacts]

/-- What is shown adds up to the total. -/
theorem Sends.visible {betMinor budget : Int} {awards : CappedAwards} {sent : List FeatureEvent}
    (sends : Sends betMinor budget awards sent) (solvent : 0 ≤ budget) :
    validateVisibleAwardTotal (awards.wins.map makeWinResponse) sent awards.totalPaid = .ok () := by
  rw [validateVisibleAwardTotal, refuse_ok, not_not, visible_sum betMinor]
  have nonneg : ∀ award ∈ winNominals (awards.wins.map makeWinResponse) ++
      eventNominals betMinor sent, 0 ≤ award := fun award member =>
    (List.mem_append.mp member).elim (winNominals_nonneg sends.itemised award)
      fun there => (sends.nominals award there).1
  calc _ = (winPaid (awards.wins.map makeWinResponse) ++ eventPaid betMinor sent).sum :=
        (List.sum_append ..).symm
    _ = awards.totalPaid := by
        rw [sends.paid.items, spend_sum solvent nonneg, sends.reports.total, messageNominal,
          List.sum_append]

/-- **The client refuses no money of an accepted outcome.**  The message of the outcome adds up
to its total; and of the messages that show the same awards, the client takes the one that pays
them as the server does. -/
theorem accepted_paysOnce
    (accepted : Game.validateOutcomeAgainstConfig config input outcome = .ok ())
    {events : List FeatureEvent}
    (read : translatedEvents (outcome.events.map makeEventResponse) = .ok events) :
    validateVisibleAwardTotal (outcome.wins.map makeWinResponse) events outcome.totalWinMinor =
        .ok () ∧
      ∀ received receivedEvents,
        SameAwards received (outcome.wins.map makeWinResponse) receivedEvents events →
          (validatePaidAwardProjection received receivedEvents input.betMinor
              outcome.totalWinMinor = .ok () ↔
            received = outcome.wins.map makeWinResponse ∧ receivedEvents = events) := by
  obtain ⟨valid, accepted⟩ := Game.validateOutcomeAgainstConfig_ok.mp accepted
  obtain ⟨wins, items, bounds, projected⟩ := accepted_projected valid.facts accepted
  have solvent : 0 ≤ budgetLeft config input := (Game.accepted_capFacts accepted).solvent
  have sends := projected.sends_of items bounds read
  exact ⟨sends.visible solvent, fun received receivedEvents same => sends.accepts solvent same⟩

end Accepted

/-- A free spin that is paid two of its three units. -/
theorem nearCapOutcome_paysOnce :
    validateVisibleAwardTotal (Game.nearCapOutcome.wins.map makeWinResponse)
        [.winCapReached 2500 25000] 2 = .ok () ∧
      ∀ received receivedEvents, SameAwards received (Game.nearCapOutcome.wins.map makeWinResponse)
          receivedEvents [.winCapReached 2500 25000] →
        (validatePaidAwardProjection received receivedEvents 10 2 = .ok () ↔
          received = Game.nearCapOutcome.wins.map makeWinResponse ∧
            receivedEvents = [.winCapReached 2500 25000]) := by
  have accepted : Game.validateOutcomeAgainstConfig Game.demoConfig Game.nearCapInput
      Game.nearCapOutcome = .ok () := by decide +kernel
  exact accepted_paysOnce accepted (by decide +kernel)

end SlotsGame.Client
