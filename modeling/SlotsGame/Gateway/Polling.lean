/-
# SlotsGame.Gateway.Polling -- a poll that finds no round

A poll may be told that the round does not exist only because its submission has not arrived.
The gateway then submits it again if the last submission failed in a way that permits it, and
otherwise gives the session up.  That is sound as long as nothing is polled while a submission
is in flight (`not_found_spares_submission`); but a page that is hidden and shown again polls
all the same, and a slow submission is given up with the session (`slow_submission_given_up`).
-/
import SlotsGame.Gateway.RoundSteps

namespace SlotsGame.Gateway

open SlotsGame.Theory

set_option autoImplicit false

/-! ## The calls of the pending round -/

/-- There is at most one poll of the pending round, and none beside a submission. -/
structure Apart (view : View) : Prop where
  fresh : ∀ call ∈ view.calls, call.1 < view.nextRound
  pendingFresh : ∀ round, view.pending = some round → round.id < view.nextRound
  polls : ∀ round, view.pending = some round →
    view.calls.count (round.id, .poll) ≤ round.pollRequestActive.toNat
  apart : ∀ round, view.pending = some round → (round.id, .submission) ∈ view.calls →
    (round.id, .poll) ∉ view.calls

variable {config : Config} {gateway : RgsGateway} {view after last : View} {action : Action}

theorem polled_opened {id : Nat} (opened : (view.polled id).closed = false) : view.closed = false := by
  unfold View.polled at opened
  split at opened <;> exact opened

theorem RoundStep.opened (stepped : RoundStep config gateway action after)
    (opened : after.closed = false) : gateway.view.closed = false := by
  cases stepped with
  | kept | cleared | elapsed | hidden | shown | rearmed | renewing | renewingDelayed | fired =>
      exact opened
  | ended _ finished =>
      rw [finished.closed] at opened
      cases opened
  | began _ _ _ _ opened => exact opened
  | polled _ _ _ opened => exact opened
  | unseen => exact opened
  | resumed _ _ _ _ _ _ _ _ moves => exact (moves.opened opened).1
  | posted _ _ _ posts =>
      rw [posts.unchanged] at opened
      exact opened
  | submissionAnswered _ _ _ _ _ hears moves =>
      have still := (moves.opened opened).1
      rw [hears.unchanged] at still
      exact still
  | pollAnswered _ _ _ _ _ hears moves =>
      have still := (moves.opened (polled_opened opened)).1
      rw [hears.unchanged] at still
      exact still
  | resubmitted _ _ _ _ _ hears _ _ posts =>
      have still := polled_opened opened
      rw [posts.unchanged, hears.unchanged] at still
      exact still

namespace Apart

/-- Only the calls and the pending round matter. -/
theorem of_same (apart : Apart view) (calls : after.calls.Perm view.calls)
    (nextRound : after.nextRound = view.nextRound)
    (pending : after.pending.map (fun round => (round.id, round.pollRequestActive)) =
      view.pending.map fun round => (round.id, round.pollRequestActive)) : Apart after := by
  have earlier {round : RoundState} (held : after.pending = some round) :
      ∃ before, view.pending = some before ∧ before.id = round.id ∧
        before.pollRequestActive = round.pollRequestActive := by
    rw [held, Option.map_some] at pending
    obtain ⟨before, found, same⟩ := Option.map_eq_some_iff.mp pending.symm
    exact ⟨before, found, congrArg Prod.fst same, congrArg Prod.snd same⟩
  constructor
  · intro call member
    rw [nextRound]
    exact apart.fresh call (calls.mem_iff.mp member)
  · intro round held
    obtain ⟨before, found, same, _⟩ := earlier held
    rw [nextRound, ← same]
    exact apart.pendingFresh before found
  · intro round held
    obtain ⟨before, found, same, active⟩ := earlier held
    rw [calls.count_eq, ← same, ← active]
    exact apart.polls before found
  · intro round held submitted polled
    obtain ⟨before, found, same, _⟩ := earlier held
    rw [← same] at submitted polled
    exact apart.apart before found (calls.mem_iff.mp submitted) (calls.mem_iff.mp polled)

theorem of_cleared (apart : Apart view) (calls : after.calls = view.calls)
    (nextRound : after.nextRound = view.nextRound) (unset : after.pending = none) :
    Apart after := by
  constructor
  · rw [calls, nextRound]
    exact apart.fresh
  all_goals
    intro round held
    rw [unset] at held
    cases held

theorem without (apart : Apart view) (place : Nat) : Apart (view.without place) := by
  have fewer : (view.without place).calls.Sublist view.calls := List.eraseIdx_sublist _ _
  constructor
  · exact fun call member => apart.fresh call (fewer.subset member)
  · exact apart.pendingFresh
  · exact fun round held => Nat.le_trans (fewer.count_le _) (apart.polls round held)
  · exact fun round held submitted polled =>
      apart.apart round held (fewer.subset submitted) (fewer.subset polled)

theorem asked (apart : Apart view) {place : Nat} {call : Nat × RoundRequest}
    (found : view.calls[place]? = some call) :
    Apart ((view.without place).asked call.1 call.2) := by
  obtain ⟨bound, rfl⟩ := List.getElem?_eq_some_iff.mp found
  exact apart.of_same (List.getElem_cons_eraseIdx_perm bound) rfl rfl

/-- A submission is sent while nothing polls. -/
theorem submitted (apart : Apart view) {id : Nat} (known : id < view.nextRound)
    (unpolled : (id, .poll) ∉ view.calls) (posts : Posts id .submission view after) :
    Apart after := by
  rw [posts.unchanged]
  constructor
  · intro call member
    rcases List.mem_cons.mp member with rfl | member
    · exact known
    · exact apart.fresh call member
  · exact apart.pendingFresh
  · intro round held
    rw [List.count_cons_of_ne (by rintro ⟨⟩)]
    exact apart.polls round held
  · intro round held submitted polled
    rcases List.mem_cons.mp polled with same | polled
    · cases same
    rcases List.mem_cons.mp submitted with same | submitted
    · have here : round.id = id := congrArg Prod.fst same
      rw [here] at polled
      exact unpolled polled
    · exact apart.apart round held submitted polled

/-- What an answer to the pending round's poll leaves: no other poll. -/
theorem unpolled (apart : Apart view) {place : Nat} {id : Nat} {round : RoundState}
    (found : view.calls[place]? = some (id, .poll)) (held : view.pending = some round)
    (same : round.id = id) : (id, .poll) ∉ (view.without place).calls := by
  obtain ⟨bound, here⟩ := List.getElem?_eq_some_iff.mp found
  have counted : ((id, .poll) :: view.calls.eraseIdx place).count (id, RoundRequest.poll) =
      view.calls.count (id, .poll) := by
    rw [← here]
    exact (List.getElem_cons_eraseIdx_perm bound).count_eq _
  have most := apart.polls round held
  have active : round.pollRequestActive.toNat ≤ 1 := Bool.toNat_le _
  rw [same, ← counted, List.count_cons_self] at most
  exact List.count_eq_zero.mp
    (show (view.calls.eraseIdx place).count (id, .poll) = 0 by omega)

/-- The end of a poll, when none is left. -/
theorem polled (apart : Apart view) {id : Nat}
    (unpolled : ∀ round, view.pending = some round → round.id = id → (id, .poll) ∉ view.calls) :
    Apart (view.polled id) := by
  unfold View.polled
  split
  · exact apart
  · have earlier {round : RoundState} (held : (view.polling id false).pending = some round) :
        ∃ before, view.pending = some before ∧ before.id = round.id ∧
          (before.id ≠ id → before.pollRequestActive = round.pollRequestActive) := by
      obtain ⟨before, found, rfl⟩ := Option.map_eq_some_iff.mp held
      refine ⟨before, found, ?_, fun other => ?_⟩
      · split <;> rfl
      · rw [if_neg other]
    constructor
    · exact apart.fresh
    · intro round held
      obtain ⟨before, found, same, _⟩ := earlier held
      rw [← same]
      exact apart.pendingFresh before found
    · intro round held
      obtain ⟨before, found, same, active⟩ := earlier held
      rw [← same]
      by_cases here : before.id = id
      · have none := List.count_eq_zero.mpr (here ▸ unpolled before found here)
        exact Nat.le_trans (Nat.le_of_eq none) (Nat.zero_le _)
      · rw [← active here]
        exact apart.polls before found
    · intro round held submitted
      obtain ⟨before, found, same, _⟩ := earlier held
      rw [← same] at submitted ⊢
      exact apart.apart before found submitted

/-- A poll is sent while nothing is submitted. -/
theorem asksStatus (apart : Apart view) {round : RoundState} (held : view.pending = some round)
    (idle : round.pollRequestActive = false)
    (unsubmitted : (round.id, .submission) ∉ view.calls)
    (posts : Posts round.id .poll (view.polling round.id true) after) : Apart after := by
  have pending : after.pending = some { round with pollRequestActive := true } := by
    rw [posts.unchanged]
    show view.pending.map _ = _
    rw [held]
    simp only [Option.map_some, if_true]
  rw [posts.unchanged] at pending ⊢
  constructor
  · intro call member
    rcases List.mem_cons.mp member with rfl | member
    · exact apart.pendingFresh round held
    · exact apart.fresh call member
  · intro other held'
    rw [pending] at held'
    obtain rfl := Option.some.inj held'
    exact apart.pendingFresh round held
  · intro other held'
    rw [pending] at held'
    obtain rfl := Option.some.inj held'
    have most := apart.polls round held
    rw [idle] at most
    rw [List.count_cons_self]
    exact Nat.succ_le_succ most
  · intro other held' submitted
    rw [pending] at held'
    obtain rfl := Option.some.inj held'
    rcases List.mem_cons.mp submitted with same | submitted
    · cases same
    · exact absurd submitted unsubmitted

theorem moved (apart : Apart view) {least id : Nat} (moves : Moves least id view after)
    (opened : after.closed = false) : Apart after := by
  obtain ⟨_, calls, nextRound, unset | same⟩ := moves.opened opened
  · exact apart.of_cleared calls nextRound unset
  · exact apart.of_same (calls ▸ .refl _) nextRound same

end Apart

/-! ## Runs that never poll beside a submission -/

/-- A submission of the round is under way. -/
def submissionInFlight (gateway : RgsGateway) (round : Nat) : Bool :=
  gateway.calls.any fun call => call.round == round && call.kind == .submission

/-- No poll begins while a submission of the pending round is under way. -/
def pollsAlone (gateway : RgsGateway) : Action → Bool
  | .pollTimer _ => gateway.pending.all fun pending => !submissionInFlight gateway pending.id
  | _ => true

theorem submissionInFlight_iff {round : Nat} :
    submissionInFlight gateway round = true ↔ (round, .submission) ∈ gateway.view.calls := by
  unfold submissionInFlight RgsGateway.view
  simp [List.any_eq_true, List.mem_map, Prod.ext_iff]

theorem view_call {place : Nat} {call : Call RoundRequest RoundReply}
    (found : gateway.calls[place]? = some call) :
    gateway.view.calls[place]? = some (call.round, call.kind) := by
  unfold RgsGateway.view
  rw [List.getElem?_map, found]
  rfl

theorem Hears.apart {place least : Nat} {call : Call RoundRequest RoundReply}
    {exchange : Exchange RoundReply} {heard : Option RgsError} {base : View}
    (hears : Hears gateway.view place call exchange heard base least)
    (apart : Apart gateway.view) : Apart base := by
  rw [hears.unchanged]
  exact (apart.without place).of_same (.refl _) rfl rfl

theorem Hears.unpolled {place least : Nat} {call : Call RoundRequest RoundReply}
    {exchange : Exchange RoundReply} {heard : Option RgsError} {base : View}
    (hears : Hears gateway.view place call exchange heard base least)
    (apart : Apart gateway.view) (found : gateway.calls[place]? = some call)
    (kind : call.kind = .poll) {round : RoundState} (held : gateway.view.pending = some round)
    (here : round.id = call.round) : (call.round, .poll) ∉ base.calls := by
  have seen := view_call found
  rw [kind] at seen
  rw [hears.unchanged]
  exact apart.unpolled seen held here

/-- A step that does not poll beside a submission keeps the calls apart. -/
theorem RoundStep.apart (stepped : RoundStep config gateway action after)
    (apart : gateway.view.closed = false → Apart gateway.view)
    (alone : pollsAlone gateway action = true) (opened : after.closed = false) : Apart after := by
  have apart := apart (stepped.opened opened)
  cases stepped with
  | kept => exact apart
  | ended _ finished =>
      rw [finished.closed] at opened
      cases opened
  | cleared => exact apart.of_cleared rfl rfl rfl
  | elapsed => exact apart.of_same (.refl _) rfl rfl
  | began _ _ _ _ _ unset posts =>
      have fresh (kind : RoundRequest) : (gateway.view.nextRound, kind) ∉ gateway.view.calls :=
        fun member => Nat.lt_irrefl _ (apart.fresh _ member)
      have began : Apart gateway.view.began := by
        constructor
        · exact fun call member => Nat.lt_succ_of_lt (apart.fresh call member)
        · intro round held
          rw [← Option.some.inj held]
          exact Nat.lt_succ_self _
        · intro round held
          rw [← Option.some.inj held]
          exact Nat.le_of_eq (List.count_eq_zero.mpr (fresh .poll))
        · intro round held submitted
          rw [← Option.some.inj held] at submitted
          exact absurd submitted (fresh .submission)
      exact began.submitted (Nat.lt_succ_self _) (fresh .poll) posts
  | unseen | hidden | shown | rearmed | fired => exact apart.of_same (.refl _) rfl rfl
  | resumed _ _ _ _ _ _ _ _ moves =>
      have shown : Apart (gateway.view.shown true) := apart.of_same (.refl _) rfl rfl
      exact shown.moved moves opened
  | renewing place exchange sample found => exact apart.asked (view_call found)
  | renewingDelayed place sample found =>
      exact (apart.asked (view_call found)).of_same (.refl _) rfl rfl
  | posted place sample found posts =>
      rw [posts.unchanged]
      exact (apart.asked (view_call found)).of_same (.refl _) rfl rfl
  | submissionAnswered _ _ _ _ _ hears moves => exact (hears.apart apart).moved moves opened
  | pollAnswered place _ _ found kind hears moves =>
      have still := polled_opened opened
      refine ((hears.apart apart).moved moves still).polled fun round held here => ?_
      obtain ⟨_, calls, _, unset | same⟩ := moves.opened still
      · rw [unset] at held
        cases held
      · rw [held, Option.map_some] at same
        obtain ⟨before, found', equal⟩ := Option.map_eq_some_iff.mp same.symm
        rw [calls]
        rw [hears.unchanged] at found'
        exact hears.unpolled apart found kind found' ((congrArg Prod.fst equal).trans here)
  | resubmitted place _ _ found kind hears current _ posts =>
      obtain ⟨pending, held⟩ := current
      obtain ⟨_, found', here⟩ := RgsGateway.current_some.mp held
      have seen : gateway.view.pending = some pending.state := by
        unfold RgsGateway.view
        rw [found']
        rfl
      have unpolled := hears.unpolled apart found kind seen here
      have known : (pending.id : Nat) < gateway.view.nextRound := apart.pendingFresh _ seen
      have sent : Apart _ := (hears.apart apart).submitted
        (by rw [hears.unchanged, ← here]; exact known) unpolled posts
      refine sent.polled fun round _ _ member => ?_
      rw [posts.unchanged] at member
      rcases List.mem_cons.mp member with same | member
      · cases same
      · exact unpolled member
  | polled place due fires _ held here idle posts =>
      obtain ⟨pending, found, rfl⟩ := Option.map_eq_some_iff.mp held
      rename_i timer slot _
      have fired : Apart { gateway.view with pollTimer := slot, pollNotBeforeAtMs := none } :=
        apart.of_same (.refl _) rfl rfl
      rw [← here] at posts
      refine fired.asksStatus held idle ?_ posts
      intro submitted
      dsimp only [pollsAlone] at alone
      have inFlight : submissionInFlight gateway pending.id = true :=
        submissionInFlight_iff.mpr submitted
      rw [found, Option.all_some, inFlight] at alone
      cases alone

/-! ## Runs -/

theorem step_view {world next : World} (stepped : step config world action = some next) :
    world.gateway.act config action = some next.gateway := by
  obtain ⟨gateway, happens, rfl⟩ := Option.map_eq_some_iff.mp stepped
  exact happens

theorem reachable_quiet {permitted : World → Action → Prop} {world : World}
    (reachable : Reachable (Begins config) (RunStep config permitted) world) :
    world.gateway.closed = true → world.gateway.calls = [] := by
  refine Reachable.invariant (fun world : World => world.gateway.closed = true →
    world.gateway.calls = []) ?_ ?_ reachable
  · intro world begins closed
    obtain ⟨base, fresh, moves⟩ := Opens.moves begins
    have unsent := moves.quiet (fun _ => fresh.calls) closed
    exact List.map_eq_nil_iff.mp unsent
  · rintro world next _ quiet ⟨action, _, stepped⟩ closed
    have unsent := (RgsGateway.act_roundStep quiet (step_view stepped)).quiet quiet closed
    exact List.map_eq_nil_iff.mp unsent

theorem View.Fresh.apart (fresh : view.Fresh) : Apart view := by
  constructor
  · intro call member
    rw [fresh.calls] at member
    cases member
  · exact fun round held => (fresh.pending round held).1
  · intro round _
    rw [fresh.calls]
    exact Nat.zero_le _
  · intro round _ submitted
    rw [fresh.calls] at submitted
    cases submitted

theorem reachable_apart {permitted : World → Action → Prop} {world : World}
    (alone : ∀ world action, permitted world action → pollsAlone world.gateway action = true)
    (reachable : Reachable (Begins config) (RunStep config permitted) world) :
    world.gateway.closed = false → Apart world.gateway.view := by
  refine Reachable.invariant (fun world : World => world.gateway.closed = false →
    Apart world.gateway.view) ?_ ?_ reachable
  · intro world begins opened
    obtain ⟨base, fresh, moves⟩ := Opens.moves begins
    exact fresh.apart.moved moves opened
  · rintro world next reachable apart ⟨action, admitted, stepped⟩ opened
    have round := RgsGateway.act_roundStep (reachable_quiet reachable) (step_view stepped)
    exact round.apart apart (alone world action admitted) opened

/-! ## A poll that finds no round -/

/-- A poll of the round is answered with 404, and the session ends on it. -/
def EndsOnNotFound (world after : World) (action : Action) (round : Nat) : Prop :=
  ∃ place sample call code retryAfter,
    action = .call place .arrive sample ∧ world.gateway.calls[place]? = some call ∧
      call.round = round ∧ call.kind = .poll ∧
      call.answer = some (.error (.http 404 code retryAfter)) ∧
      world.gateway.closed = false ∧ after.gateway.closed = true

namespace RgsGateway

/-- The answer to a poll of a round that is pending no more does not end the session. -/
theorem stale_poll_opened {gateway : RgsGateway} {id : Nat} {error : RgsError}
    {sample : Option ℚ} (opened : gateway.closed = false) (stale : gateway.current id = none) :
    (gateway.pollAnswered config id (.error error) sample).closed = false := by
  unfold pollAnswered pollFailed pollEnded
  dsimp only
  rw [stale]
  dsimp only
  rw [if_neg (Bool.eq_false_iff.mp opened)]
  exact opened

theorem hearDelay_keeps {gateway : RgsGateway} (round : Nat) (error : RgsError) :
    (gateway.hearDelay round error).closed = gateway.closed ∧
      (gateway.hearDelay round error).current = gateway.current := by
  unfold hearDelay
  split <;> exact ⟨rfl, rfl⟩

end RgsGateway

/-- A session that ends on a 404 ends on a poll of the pending round. -/
theorem EndsOnNotFound.current {world next : World} {round : Nat}
    (ends : EndsOnNotFound world next action round)
    (stepped : step config world action = some next) :
    ∃ pending, world.gateway.current round = some pending := by
  obtain ⟨place, sample, call, code, retryAfter, rfl, found, rfl, kind, answer, opened, closed⟩ := ends
  by_contra gone
  have stale : world.gateway.current call.round = none :=
    Option.eq_none_iff_forall_ne_some.mpr fun pending held => gone ⟨pending, held⟩
  have happens := step_view stepped
  dsimp only [RgsGateway.act, RgsGateway.exchangeCall] at happens
  rw [found] at happens
  dsimp only at happens
  rw [answer] at happens
  split at happens
  next => simp_all
  next again result stage answered =>
    cases Option.some.inj answered
    obtain same := Option.some.inj happens
    have unauthorized : ¬ (call.stage = .sent false ∧
        (RgsError.http 404 code retryAfter).status = some 401) := fun both => by cases both.2
    unfold RgsGateway.callAnswered RgsGateway.roundAnswered at same
    dsimp only at same
    rw [if_neg unauthorized, kind] at same
    dsimp only at same
    obtain ⟨still, unchanged⟩ := @RgsGateway.hearDelay_keeps
      { world.gateway with calls := world.gateway.calls.eraseIdx place } call.round
      (.http 404 code retryAfter)
    rw [← same, RgsGateway.stale_poll_opened (still.trans opened)
      ((congrFun unchanged _).trans stale)] at closed
    cases closed
  all_goals simp_all

/-- As long as no poll begins beside a submission of the pending round, no session ends on a 404
while a submission of the round is under way. -/
theorem not_found_spares_submission {world next : World} {round : Nat}
    (reachable : Reachable (Begins config)
      (RunStep config fun world action => pollsAlone world.gateway action) world)
    (stepped : step config world action = some next)
    (ends : EndsOnNotFound world next action round) :
    submissionInFlight world.gateway round = false := by
  refine Bool.eq_false_iff.mpr fun inFlight => ?_
  have submitted := submissionInFlight_iff.mp inFlight
  obtain ⟨pending, held⟩ := ends.current stepped
  obtain ⟨place, sample, call, _, _, _, found, here, poll, _, opened, _⟩ := ends
  obtain ⟨_, isPending, rfl⟩ := RgsGateway.current_some.mp held
  have apart := reachable_apart (fun _ _ admitted => admitted) reachable opened
  have seen : world.gateway.view.pending = some pending.state := by
    unfold RgsGateway.view
    rw [isPending]
    rfl
  have polled : (pending.state.id, .poll) ∈ world.gateway.view.calls := by
    have asked := List.mem_of_getElem? (view_call found)
    rwa [here, poll] at asked
  exact apart.apart _ seen submitted polled

/-! ## A slow submission -/

def demoSession : RgsSession :=
  { balanceMinor := 1000, revision := 4, sequence := 2
    featureState := { mode := .base, freeSpinsRemaining := 0, rageLevel := 0, rageCollected := 0 }
    expiresAt := 3600000, idleDisconnectAt := 600000 }

def demoOpened : World := { gateway := opened 0 demoSession true true }

def answersNotFound : Action := .call 0 (.serve (.error (.http 404 "ROUND_NOT_FOUND" none))) none

/-- A submission that has failed is polled for, and the round is not found. -/
def failedActions : List Action :=
  [.requestSpin "round-1" 100 .base true,
    .call 0 (.serve (.error (.http 500 "INTERNAL" none))) none, .call 0 .arrive none, .elapse 1000,
    .pollTimer 0, answersNotFound]

def failedWorld : World :=
  (follow {} (fun world action => pollsAlone world.gateway action) demoOpened failedActions).get
    (by decide +kernel)

/-- The page is hidden and shown again while the server has the submission, but no round yet. -/
def slowActions : List Action :=
  [.requestSpin "round-1" 100 .base true, .availability true false, .availability true true,
    .pollTimer 0, answersNotFound]

def slowWorld : World :=
  (follow {} (fun world action => honest world action) demoOpened slowActions).get
    (by decide +kernel)

def arrives : Action := .call 0 .arrive none

/-- The poll, once it has been answered. -/
def unfoundPoll : Call RoundRequest RoundReply :=
  { round := 0, kind := .poll, stage := .sent false
    answer := some (.error (.http 404 "ROUND_NOT_FOUND" none)) }

def failedLast : World := (step {} failedWorld arrives).get (by decide +kernel)

def slowLast : World := (step {} slowWorld arrives).get (by decide +kernel)

theorem demoOpened_begins : Begins {} demoOpened := Opens.fresh 0 demoSession true true

theorem failedWorld_unsubmitted : submissionInFlight failedWorld.gateway 0 = false :=
  not_found_spares_submission (follow_reachable (.start demoOpened_begins) (Option.some_get _).symm)
    (Option.some_get (show (step {} failedWorld arrives).isSome = true by decide +kernel)).symm
    ⟨0, none, unfoundPoll, "ROUND_NOT_FOUND", none, rfl, by decide +kernel, rfl, rfl, rfl,
      by decide +kernel, show failedLast.gateway.closed = true by decide +kernel⟩

theorem slow_submission_given_up :
    ∃ world next, Reachable (Begins {}) (RunStep {} fun world action => honest world action) world ∧
      honest world arrives = true ∧ step {} world arrives = some next ∧
      EndsOnNotFound world next arrives 0 ∧ submissionInFlight world.gateway 0 = true :=
  ⟨slowWorld, slowLast,
    follow_reachable (.start demoOpened_begins) (Option.some_get _).symm, by decide +kernel,
    (Option.some_get _).symm,
    ⟨0, none, unfoundPoll, "ROUND_NOT_FOUND", none, rfl, by decide +kernel, rfl, rfl, rfl,
      by decide +kernel, by decide +kernel⟩,
    by decide +kernel⟩

end SlotsGame.Gateway
