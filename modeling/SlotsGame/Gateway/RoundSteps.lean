/-
# SlotsGame.Gateway.RoundSteps -- what one step does to a round

`RoundStep` lists, action by action, what can become of the view of the round, and
`act_roundStep` says that nothing else can.  An answer that carries a retry delay is logged
before it is acted on (`Hears`).
-/
import Mathlib.Data.List.InsertIdx
import Mathlib.Data.List.Perm.Basic
import SlotsGame.Gateway.Moves

namespace SlotsGame.Gateway

open SlotsGame.Theory

set_option autoImplicit false

namespace View

variable (view : View)

def without (place : Nat) : View := { view with calls := view.calls.eraseIdx place }

def heard (round delay : Nat) : View :=
  { view with log := (view.now, .delayed round (view.now + delay)) :: view.log }

def asked (round : Nat) (kind : RoundRequest) : View :=
  { view with calls := (round, kind) :: view.calls }

def shown (available : Bool) : View := { view with available := available }

end View

/-- The call is handled with an answer.  An error that has carried a delay has been logged, and
is to be acted on with that delay. -/
inductive Hears (view : View) (place : Nat) (call : Call RoundRequest RoundReply) :
    Exchange RoundReply → Option RgsError → View → Nat → Prop
  | silent (exchange : Exchange RoundReply) : Hears view place call exchange none (view.without place) 0
  | delayed {error : RgsError} {delay : Nat} (answer : call.answer = some (.error error))
      (carried : error.retryAfterMs = some delay)
      (handled : ¬ (call.stage = .sent false ∧ error.status = some 401)) :
      Hears view place call .arrive (some error) ((view.without place).heard call.round delay)
        (match call.kind with
          | .submission => RgsGateway.submissionDelay view.available error
          | .poll => delay)

theorem Hears.unchanged {view base : View} {place least : Nat} {call : Call RoundRequest RoundReply}
    {exchange : Exchange RoundReply} {heard : Option RgsError}
    (hears : Hears view place call exchange heard base least) :
    base = { view.without place with log := base.log } := by
  cases hears <;> rfl

/-- What an action can do to the view of the round. -/
inductive RoundStep (config : Config) (gateway : RgsGateway) : Action → View → Prop
  | kept (action : Action) : RoundStep config gateway action gateway.view
  | ended (action : Action) {after : View} (finished : Ended gateway.view after) :
      RoundStep config gateway action after
  | cleared (action : Action) (begun : ∃ pending, gateway.pending = some pending ∧
        pending.acknowledgement.startedAtMs.isSome = true) :
      RoundStep config gateway action gateway.view.cleared
  | elapsed {duration : Millis} (least : 0 ≤ duration) :
      RoundStep config gateway (.elapse duration)
        { gateway.view with now := gateway.view.now + duration }
  | began (roundId : String) (betMinor : Int) (roundKind : RoundKind) (admitted : Bool)
      {after : View} (opened : gateway.view.closed = false) (unset : gateway.view.pending = none)
      (posts : Posts gateway.view.nextRound .submission gateway.view.began after) :
      RoundStep config gateway (.requestSpin roundId betMinor roundKind admitted) after
  | unseen (online visible : Bool) (closed : gateway.view.closed = true) :
      RoundStep config gateway (.availability online visible)
        (gateway.view.shown (online && visible))
  | hidden (online visible : Bool) (away : (online && visible) = false) :
      RoundStep config gateway (.availability online visible)
        { gateway.view.shown false with pollTimer := gateway.view.pollTimer.clear }
  | shown (online visible : Bool) (back : (online && visible) = true) :
      RoundStep config gateway (.availability online visible) (gateway.view.shown true)
  | rearmed (online visible : Bool) {round : RoundState} {notBefore : Millis}
      (away : gateway.view.available = false) (back : (online && visible) = true)
      (held : gateway.view.pending = some round) (undelivered : round.delivered = false)
      (idle : round.pollRequestActive = false)
      (kept : gateway.view.pollNotBeforeAtMs = some notBefore) :
      RoundStep config gateway (.availability online visible)
        ((gateway.view.shown true).rearmed round.id notBefore)
  | resumed (online visible : Bool) {round : RoundState} {after : View}
      (away : gateway.view.available = false) (back : (online && visible) = true)
      (held : gateway.view.pending = some round) (undelivered : round.delivered = false)
      (idle : round.pollRequestActive = false) (unkept : gateway.view.pollNotBeforeAtMs = none)
      (moves : Moves 0 round.id (gateway.view.shown true) after) :
      RoundStep config gateway (.availability online visible) after
  | renewing (place : Nat) (exchange : Exchange RoundReply) (sample : Option ℚ)
      {call : Call RoundRequest RoundReply} (found : gateway.calls[place]? = some call) :
      RoundStep config gateway (.call place exchange sample)
        ((gateway.view.without place).asked call.round call.kind)
  | renewingDelayed (place : Nat) (sample : Option ℚ) {call : Call RoundRequest RoundReply}
      {error : RgsError} {delay : Nat} (found : gateway.calls[place]? = some call)
      (answer : call.answer = some (.error error)) (carried : error.retryAfterMs = some delay)
      (stage : call.stage = .sent false) (unauthorized : error.status = some 401) :
      RoundStep config gateway (.call place .arrive sample)
        (((gateway.view.without place).heard call.round delay).asked call.round call.kind)
  | posted (place : Nat) (sample : Option ℚ) {call : Call RoundRequest RoundReply} {after : View}
      (found : gateway.calls[place]? = some call)
      (posts : Posts call.round call.kind (gateway.view.without place) after) :
      RoundStep config gateway (.call place .resume sample) after
  | submissionAnswered (place : Nat) (exchange : Exchange RoundReply) (sample : Option ℚ)
      {call : Call RoundRequest RoundReply} {heard : Option RgsError} {base after : View}
      {least : Nat} (found : gateway.calls[place]? = some call) (kind : call.kind = .submission)
      (hears : Hears gateway.view place call exchange heard base least)
      (moves : Moves least call.round base after) :
      RoundStep config gateway (.call place exchange sample) after
  | pollAnswered (place : Nat) (exchange : Exchange RoundReply) (sample : Option ℚ)
      {call : Call RoundRequest RoundReply} {heard : Option RgsError} {base last : View}
      {least : Nat} (found : gateway.calls[place]? = some call) (kind : call.kind = .poll)
      (hears : Hears gateway.view place call exchange heard base least)
      (moves : Moves least call.round base last) :
      RoundStep config gateway (.call place exchange sample) (last.polled call.round)
  | resubmitted (place : Nat) (exchange : Exchange RoundReply) (sample : Option ℚ)
      {call : Call RoundRequest RoundReply} {heard : Option RgsError} {base last : View}
      {least : Nat} (found : gateway.calls[place]? = some call) (kind : call.kind = .poll)
      (hears : Hears gateway.view place call exchange heard base least)
      (current : ∃ pending, gateway.current call.round = some pending)
      (permitted : ∀ error, heard = some error →
        RgsGateway.Resubmits config gateway call.round error)
      (posts : Posts call.round .submission base last) :
      RoundStep config gateway (.call place exchange sample) (last.polled call.round)
  | fired (place : Nat) {timer : Armed Nat} {slot : TimerSlot Nat} (due : timer.due ≤ gateway.view.now)
      (fires : gateway.view.pollTimer.fire place = some (timer, slot)) :
      RoundStep config gateway (.pollTimer place)
        { gateway.view with pollTimer := slot, pollNotBeforeAtMs := none }
  | polled (place : Nat) {timer : Armed Nat} {slot : TimerSlot Nat} {round : RoundState}
      {after : View} (due : timer.due ≤ gateway.view.now)
      (fires : gateway.view.pollTimer.fire place = some (timer, slot))
      (opened : gateway.view.closed = false) (held : gateway.view.pending = some round)
      (here : round.id = timer.payload) (idle : round.pollRequestActive = false)
      (posts : Posts timer.payload .poll
        ({ gateway.view with pollTimer := slot, pollNotBeforeAtMs := none }.polling
          timer.payload true) after) :
      RoundStep config gateway (.pollTimer place) after

namespace RgsGateway

variable {config : Config} {gateway after : RgsGateway}

/-! ## The calls -/

theorem without_view (place : Nat) :
    { gateway with calls := gateway.calls.eraseIdx place }.view = gateway.view.without place := by
  unfold view View.without
  rw [List.eraseIdx_map]
  rfl

theorem awaitRenewal_cases (call : Call RoundRequest RoundReply) (opened : gateway.closed = false) :
    (gateway.awaitRenewal call).view = gateway.view.asked call.round call.kind ∨
      Ended gateway.view (gateway.awaitRenewal call).view := by
  have renewing : gateway.refreshAccessToken.view = gateway.view ∨
      Ended gateway.view gateway.refreshAccessToken.view := by
    unfold refreshAccessToken
    split
    · exact .inl rfl
    · split
      · exact .inl rfl
      · exact .inr (terminate_ended _ opened)
  unfold awaitRenewal
  dsimp only
  rcases renewing with same | finished
  · have still : gateway.refreshAccessToken.closed = false :=
      (congrArg View.closed same).trans opened
    rw [if_neg (Bool.eq_false_iff.mp still), ← same]
    exact .inl rfl
  · rw [if_pos (show gateway.refreshAccessToken.closed = true from finished.closed)]
    exact .inr finished

theorem hearDelay_cases (round : Nat) (error : RgsError) :
    error.retryAfterMs = none ∧ gateway.hearDelay round error = gateway ∨
      ∃ delay, error.retryAfterMs = some delay ∧
        (gateway.hearDelay round error).view = gateway.view.heard round delay := by
  unfold hearDelay
  split
  next delay carried => exact .inr ⟨delay, carried, rfl⟩
  next none => exact .inl ⟨none, rfl⟩

theorem roundAnswered_roundStep {place : Nat} {exchange : Exchange RoundReply} {sample : Option ℚ}
    {call : Call RoundRequest RoundReply} {base : RgsGateway} {heard : Option RgsError}
    {least : Nat} {result : Except RgsError RoundReply} (found : gateway.calls[place]? = some call)
    (hears : Hears gateway.view place call exchange heard base.view least)
    (asked : least ≤
      match call.kind with
      | .submission => answeredDelay base.available result
      | .poll => statusDelay result)
    (told : ∀ error, heard = some error → result = .error error)
    (current : base.current = gateway.current) (session : base.session = gateway.session) :
    RoundStep config gateway (.call place exchange sample)
      (base.roundAnswered config call result sample).view := by
  have weaker {most : Nat} {last : View} (moves : Moves most call.round base.view last)
      (asked : least ≤ most) : Moves least call.round base.view last := by
    cases moves with
    | kept unheard => exact .kept fun free => Nat.eq_zero_of_le_zero (unheard free ▸ asked)
    | ended finished => exact .ended finished
    | cleared => exact .cleared
    | scheduled free long => exact .scheduled free (Nat.le_trans asked long)
    | delivered => exact .delivered
  unfold roundAnswered
  cases kind : call.kind with
  | submission =>
      rw [kind] at asked
      exact .submissionAnswered place exchange sample found kind hears
        (weaker (submissionAnswered_moves result) asked)
  | poll =>
      rw [kind] at asked
      obtain ⟨last, seen, moves | ⟨error, failed, resubmits, posts⟩⟩ :=
        @pollAnswered_cases config base call.round sample result
      · rw [seen]
        exact .pollAnswered place exchange sample found kind hears (weaker moves asked)
      · rw [seen]
        have same : Resubmits config gateway call.round error := by
          unfold Resubmits at resubmits ⊢
          rwa [current, session] at resubmits
        refine .resubmitted place exchange sample found kind hears ⟨_, same.choose_spec.1⟩ ?_ posts
        intro other heardOther
        have both := told other heardOther
        rw [failed] at both
        rw [← Except.error.inj both]
        exact same

/-- A call that is handled silently. -/
theorem silent_roundStep {place : Nat} (exchange : Exchange RoundReply) {sample : Option ℚ}
    {call : Call RoundRequest RoundReply} (found : gateway.calls[place]? = some call)
    (result : Except RgsError RoundReply) :
    RoundStep config gateway (.call place exchange sample)
      ({ gateway with calls := gateway.calls.eraseIdx place }.roundAnswered config call result
        sample).view := by
  have hears : Hears gateway.view place call exchange none
      { gateway with calls := gateway.calls.eraseIdx place }.view 0 := by
    rw [without_view]
    exact .silent exchange
  exact roundAnswered_roundStep found hears (Nat.zero_le _) (fun _ none => by cases none) rfl rfl

theorem callAnswered_roundStep {place : Nat} {exchange : Exchange RoundReply} {sample : Option ℚ}
    {call : Call RoundRequest RoundReply} {result : Except RgsError RoundReply}
    (found : gateway.calls[place]? = some call) (opened : gateway.closed = false)
    (arrives : ∀ error, result = .error error → error.retryAfterMs.isSome = true →
      exchange = .arrive ∧ call.answer = some (.error error)) :
    RoundStep config gateway (.call place exchange sample)
      ({ gateway with calls := gateway.calls.eraseIdx place }.callAnswered config call result
        sample).view := by
  unfold callAnswered
  cases result with
  | ok reply => exact silent_roundStep exchange found (.ok reply)
  | error error =>
      have seen : { gateway with calls := gateway.calls.eraseIdx place }.view =
          gateway.view.without place := without_view place
      obtain ⟨silent, same⟩ | ⟨delay, carried, logged⟩ :=
        @hearDelay_cases { gateway with calls := gateway.calls.eraseIdx place } call.round error
      · dsimp only
        rw [same]
        split
        · rcases @awaitRenewal_cases { gateway with calls := gateway.calls.eraseIdx place } call
            opened with asked | finished
          · rw [asked, seen]
            exact .renewing place exchange sample found
          · rw [seen] at finished
            exact .ended _ ⟨finished.closed, finished.calls, finished.nextRound, finished.log, finished.timer, finished.tidy⟩
        · exact silent_roundStep exchange found (.error error)
      · obtain ⟨rfl, answer⟩ := arrives error rfl (by rw [carried]; rfl)
        have current : ({ gateway with calls := gateway.calls.eraseIdx place }.hearDelay call.round
            error).current = gateway.current := by
          unfold hearDelay
          split <;> rfl
        have session : ({ gateway with calls := gateway.calls.eraseIdx place }.hearDelay call.round
            error).session = gateway.session := by
          unfold hearDelay
          split <;> rfl
        rw [seen] at logged
        dsimp only
        generalize { gateway with calls := gateway.calls.eraseIdx place }.hearDelay call.round
          error = heard at logged current session ⊢
        have still : heard.closed = false := (congrArg View.closed logged).trans opened
        split
        next unauthorized =>
          rcases awaitRenewal_cases call still with asked | finished
          · rw [asked, logged]
            exact .renewingDelayed place sample found answer carried unauthorized.1 unauthorized.2
          · rw [logged] at finished
            obtain ⟨entries, appended, delays⟩ := finished.log
            refine .ended _ ⟨finished.closed, finished.calls, finished.nextRound,
              ⟨entries ++ [(gateway.view.now, .delayed call.round (gateway.view.now + delay))], ?_, ?_⟩,
              finished.timer, finished.tidy⟩
            · rw [appended, List.append_assoc]
              rfl
            · intro entry member
              rcases List.mem_append.mp member with earlier | last
              · exact delays entry earlier
              · exact ⟨_, _, congrArg Prod.snd (List.mem_singleton.mp last)⟩
        next handled =>
          have hears := @Hears.delayed gateway.view place call error delay answer carried handled
          rw [← logged] at hears
          refine roundAnswered_roundStep found hears ?_ (fun _ same => by cases same; rfl) current session
          have available : heard.available = gateway.view.available :=
            congrArg View.available logged
          cases call.kind with
          | submission =>
              unfold answeredDelay
              rw [available]
          | poll =>
              show delay ≤ error.retryAfterMs.getD 0
              rw [carried]
              exact Nat.le_refl _

theorem map_set_same {α β : Type} {f : α → β} {items : List α} {place : Nat} {item other : α}
    (found : items[place]? = some item) (same : f other = f item) :
    (items.set place other).map f = items.map f := by
  obtain ⟨bound, rfl⟩ := List.getElem?_eq_some_iff.mp found
  rw [List.map_set, same, ← List.map_set, List.set_getElem_self]

/-- What a call awaits cannot be seen. -/
theorem calls_view {calls : List (Call RoundRequest RoundReply)}
    (same : (calls.map fun call => (call.round, call.kind)) =
      gateway.calls.map fun call => (call.round, call.kind)) :
    { gateway with calls := calls }.view = gateway.view := by
  unfold view
  rw [same]
  rfl

theorem exchangeCall_roundStep {place : Nat} {exchange : Exchange RoundReply} {sample : Option ℚ}
    (opened : gateway.closed = false)
    (happens : gateway.exchangeCall config place exchange sample = some after) :
    RoundStep config gateway (.call place exchange sample) after.view := by
  unfold exchangeCall at happens
  split at happens
  · cases happens
  next call found =>
    dsimp only at happens
    split at happens
    next answer again stage unanswered =>
      obtain rfl := Option.some.inj happens
      have same : { gateway with
          calls := gateway.calls.set place { call with answer := some answer } }.view =
          gateway.view :=
        calls_view (map_set_same found rfl)
      rw [same]
      exact .kept _
    next again answer stage answered =>
      obtain rfl := Option.some.inj happens
      refine callAnswered_roundStep found opened ?_
      intro error same _
      rw [same] at answered
      exact ⟨rfl, answered⟩
    next again stage =>
      obtain rfl := Option.some.inj happens
      refine callAnswered_roundStep found opened ?_
      intro error same carried
      cases same
      cases carried
    next again stage =>
      obtain rfl := Option.some.inj happens
      refine .posted place sample found ?_
      rw [← without_view]
      exact post_posts call again
    next again error stage =>
      obtain rfl := Option.some.inj happens
      exact silent_roundStep .resume found (.error error)
    · cases happens

/-! ## The rest of the gateway -/

/-- What is not done for the round. -/
inductive Aside (gateway : RgsGateway) : View → Prop
  | kept : Aside gateway gateway.view
  | ended {after : View} (finished : Ended gateway.view after) : Aside gateway after
  | cleared (begun : ∃ pending, gateway.pending = some pending ∧
      pending.acknowledgement.startedAtMs.isSome = true) : Aside gateway gateway.view.cleared

namespace Aside

theorem roundStep {last : View} (aside : Aside gateway last) (action : Action) :
    RoundStep config gateway action last := by
  cases aside with
  | kept => exact .kept action
  | ended finished => exact .ended action finished
  | cleared begun => exact .cleared action begun

/-- Nothing of it depends on what cannot be seen. -/
theorem of_base {base : RgsGateway} {last : View} (aside : Aside base last)
    (seen : base.view = gateway.view) (pending : base.pending = gateway.pending) :
    Aside gateway last := by
  cases aside with
  | kept => rw [seen]; exact .kept
  | ended finished => rw [seen] at finished; exact .ended finished
  | cleared begun => rw [seen]; rw [pending] at begun; exact .cleared begun

end Aside

theorem Spares.aside (spares : Spares gateway after) : Aside gateway after.view := by
  cases spares with
  | kept same => rw [same]; exact .kept
  | ended same => rw [same]; exact .ended (.of_ended _)

theorem acknowledgementAnswered_aside {id : Nat} {sample : Option ℚ}
    (result : Except RgsError Unit) :
    Aside gateway (gateway.acknowledgementAnswered config id result sample).view := by
  rcases @acknowledgementAnswered_cases config gateway id sample result with
    spares | ⟨pending, held, begun, _, _, ends⟩
  · exact spares.aside
  · rw [ends, clearPending_view held]
    exact .cleared ⟨pending, (current_some.mp held).2.1, begun⟩

theorem awaitAcknowledgementRenewal_aside (call : Call Nat Unit) :
    Aside gateway (gateway.awaitAcknowledgementRenewal call).view := by
  have renewed : Spares gateway gateway.refreshAccessToken := by
    unfold refreshAccessToken
    split
    · exact .refl _
    · split
      · exact .kept rfl
      · exact terminateForOperatorRelaunch_spares _
  unfold awaitAcknowledgementRenewal
  dsimp only
  split
  · exact renewed.aside
  · exact (renewed.trans (.kept rfl)).aside

theorem exchangeAcknowledgement_aside {place : Nat} {exchange : Exchange Unit}
    {sample : Option ℚ}
    (happens : gateway.exchangeAcknowledgement config place exchange sample = some after) :
    Aside gateway after.view := by
  have answered (call : Call Nat Unit) (result : Except RgsError Unit) :
      Aside gateway ({ gateway with acknowledgementCalls :=
        gateway.acknowledgementCalls.eraseIdx place }.acknowledgementCallAnswered config call result
          sample).view := by
    unfold acknowledgementCallAnswered
    split
    · split
      · exact (awaitAcknowledgementRenewal_aside call).of_base rfl rfl
      · exact (acknowledgementAnswered_aside _).of_base rfl rfl
    · exact (acknowledgementAnswered_aside _).of_base rfl rfl
  unfold exchangeAcknowledgement at happens
  split at happens
  · cases happens
  · dsimp only at happens
    split at happens
    · obtain rfl := Option.some.inj happens
      exact .kept
    · obtain rfl := Option.some.inj happens
      exact answered _ _
    · obtain rfl := Option.some.inj happens
      exact answered _ _
    · obtain rfl := Option.some.inj happens
      exact (postAcknowledgement_spares _ _).aside.of_base rfl rfl
    · obtain rfl := Option.some.inj happens
      exact (acknowledgementAnswered_aside _).of_base rfl rfl
    · cases happens

theorem settleRenewal_view (failure : Option RgsError) :
    (gateway.settleRenewal failure).view = gateway.view := by
  have same : ((gateway.calls.map (settleCall failure)).map fun call => (call.round, call.kind)) =
      gateway.calls.map fun call => (call.round, call.kind) := by
    rw [List.map_map]
    refine List.map_congr_left fun call _ => ?_
    unfold settleCall Function.comp
    dsimp only
    split <;> rfl
  exact calls_view same

theorem renewalAnswered_aside (requestBaseline : RgsSession) (outcome : Except RgsError Renewal) :
    Aside gateway (gateway.renewalAnswered config requestBaseline outcome).view := by
  unfold renewalAnswered
  dsimp only
  split
  next session _ =>
    rw [settleRenewal_view]
    rcases @expire_cases config
      { gateway with accessToken := true, session := session, wageringBlocked := false } with same | finished
    · unfold armSessionTimeout
      rw [same]
      exact .kept
    · exact .ended finished
  · split
    · exact (terminateForOperatorRelaunch_spares _).aside
    · split
      · exact terminateForSessionTimeout_spares.aside
      · split
        · exact (terminateForOperatorRelaunch_spares _).aside
        · rw [settleRenewal_view]
          exact .kept

/-! ## The timers and the page -/

theorem fireTimer_some {slot : TimerSlot Nat} {place : Nat}
    {callback : TimerSlot Nat → Nat → RgsGateway}
    (happens : gateway.fireTimer slot place callback = some after) :
    ∃ timer fired, slot.fire place = some (timer, fired) ∧ timer.due ≤ gateway.now ∧
      after = callback fired timer.payload := by
  unfold fireTimer at happens
  split at happens
  · cases happens
  next timer fired fires =>
    split at happens
    next due => exact ⟨timer, fired, fires, due, (Option.some.inj happens).symm⟩
    · cases happens

theorem pollTimer_roundStep {place : Nat}
    (happens : gateway.act config (.pollTimer place) = some after) :
    RoundStep config gateway (.pollTimer place) after.view := by
  obtain ⟨timer, fired, fires, due, rfl⟩ := fireTimer_some happens
  unfold pollTimerFired
  rcases @pollPending_cases
      { gateway with pollTimer := fired, pollNotBeforeAtMs := none } timer.payload with
    same | ⟨pending, held, idle, posts⟩
  · rw [same]
    exact .fired place due fires
  · obtain ⟨opened, found, here⟩ := current_some.mp held
    have held : gateway.view.pending = some pending.state := by
      rw [view, show gateway.pending = some pending from found]
      rfl
    exact .polled place due fires opened held here idle posts

theorem stopUnavailable_view : gateway.stopUnavailable.view =
    { gateway.view with
      pollTimer :=
        if gateway.view.available then gateway.view.pollTimer else gateway.view.pollTimer.clear } := by
  have stopped : (if gateway.runtimeOnline then gateway
      else gateway.clearAcknowledgementRetryTimer true).view = gateway.view := by
    split
    · rfl
    · exact clearAcknowledgementRetryTimer_view true
  unfold stopUnavailable
  dsimp only
  generalize (if gateway.runtimeOnline then gateway
    else gateway.clearAcknowledgementRetryTimer true) = stopping at stopped ⊢
  rw [← stopped]
  split
  next here => rw [if_pos (show View.available _ = true from here)]
  next away =>
    rw [if_neg (show ¬ View.available _ = true from away)]
    rfl

/-- What is resumed, from where the timers are stopped. -/
theorem resumeAvailable_cases (wasOnline wasAvailable : Bool) :
    (gateway.resumeAvailable config wasOnline wasAvailable).view = gateway.view ∨
      Ended gateway.view (gateway.resumeAvailable config wasOnline wasAvailable).view ∨
      (wasAvailable = false ∧ gateway.view.available = true ∧
        ∃ round, gateway.view.pending = some round ∧ round.delivered = false ∧
          round.pollRequestActive = false ∧
          ((∃ notBefore, gateway.view.pollNotBeforeAtMs = some notBefore ∧
              (gateway.resumeAvailable config wasOnline wasAvailable).view =
                gateway.view.rearmed round.id notBefore) ∨
            gateway.view.pollNotBeforeAtMs = none ∧
              Moves 0 round.id gateway.view
                (gateway.resumeAvailable config wasOnline wasAvailable).view)) := by
  unfold resumeAvailable
  dsimp only
  have resumed : Spares gateway
      (if !wasOnline && gateway.runtimeOnline then gateway.resumeResultAcknowledgement config
        else gateway) := by
    split
    · exact resumeResultAcknowledgement_spares
    · exact .refl _
  generalize (if !wasOnline && gateway.runtimeOnline then gateway.resumeResultAcknowledgement config
    else gateway) = resuming at resumed ⊢
  split
  next back =>
    simp only [Bool.and_eq_true, Bool.not_eq_true'] at back
    rcases @resumeRoundRecovery_cases config resuming with
      same | ⟨round, held, unblocked, undelivered, idle, recovers⟩
    · rw [same]
      cases resumed with
      | kept kept => exact .inl kept
      | ended finished =>
          rw [finished]
          exact .inr (.inl (.of_ended _))
    · cases resumed with
      | kept kept =>
          rw [kept] at held recovers
          have here : gateway.view.available = true := (congrArg View.available kept).symm.trans back.2
          exact .inr (.inr ⟨back.1, here, round, held, undelivered, idle, recovers⟩)
      | ended finished =>
          -- a session that has ended blocks its round
          rw [finished] at held
          obtain ⟨earlier, _, rfl⟩ := Option.map_eq_some_iff.mp held
          cases unblocked
  · cases resumed with
    | kept kept => exact .inl kept
    | ended finished =>
        rw [finished]
        exact .inr (.inl (.of_ended _))

theorem setRuntimeAvailability_roundStep (online visible : Bool) :
    RoundStep config gateway (.availability online visible)
      (gateway.setRuntimeAvailability config online visible).view := by
  have changed : { gateway with runtimeOnline := online, runtimeVisible := visible }.view =
      gateway.view.shown (online && visible) := rfl
  unfold setRuntimeAvailability
  dsimp only
  split
  next closed => exact .unseen online visible closed
  next opened =>
    rcases @expire_cases config
      { gateway with runtimeOnline := online, runtimeVisible := visible } with same | finished
    · rw [same, if_neg opened]
      have stopped := @stopUnavailable_view
        { gateway with runtimeOnline := online, runtimeVisible := visible }
      rw [changed] at stopped
      generalize { gateway with runtimeOnline := online, runtimeVisible := visible }.stopUnavailable =
        stopping at stopped ⊢
      cases back : online && visible with
      | false =>
          rw [back] at stopped
          rcases @resumeAvailable_cases config stopping gateway.runtimeOnline gateway.available with
            same | finished | ⟨_, here, _⟩
          · rw [same, stopped]
            exact .hidden online visible back
          · rw [stopped] at finished
            exact .ended _
              ⟨finished.closed, finished.calls, finished.nextRound, finished.log, finished.timer, finished.tidy⟩
          · rw [stopped] at here
            cases here
      | true =>
          rw [back] at stopped
          have seen : stopping.view = gateway.view.shown true := stopped
          rcases @resumeAvailable_cases config stopping gateway.runtimeOnline gateway.available with
            same | finished | ⟨away, _, round, held, undelivered, idle, recovers⟩
          · rw [same, seen]
            exact .shown online visible back
          · rw [seen] at finished
            exact .ended _
              ⟨finished.closed, finished.calls, finished.nextRound, finished.log, finished.timer, finished.tidy⟩
          · rw [seen] at held recovers
            rcases recovers with ⟨notBefore, kept, rearmed⟩ | ⟨unkept, moves⟩
            · rw [rearmed]
              exact .rearmed online visible away back held undelivered idle kept
            · exact .resumed online visible away back held undelivered idle unkept moves
    · rw [changed] at finished
      rw [if_pos (show (expireSessionAtAuthoritativeDeadline config _).closed = true from finished.closed)]
      exact .ended _ ⟨finished.closed, finished.calls, finished.nextRound, finished.log, finished.timer, finished.tidy⟩

/-! ## One step -/

/-- Nothing else can become of a round: a gateway that is closed has no calls. -/
theorem act_roundStep (quiet : gateway.closed = true → gateway.calls = []) {action : Action}
    (happens : gateway.act config action = some after) :
    RoundStep config gateway action after.view := by
  cases action with
  | elapse duration =>
      dsimp only [act] at happens
      split at happens
      next least =>
        obtain rfl := Option.some.inj happens
        exact .elapsed least
      · cases happens
  | availability online visible =>
      obtain rfl := Option.some.inj happens
      exact setRuntimeAvailability_roundStep online visible
  | requestSpin roundId betMinor roundKind admitted =>
      obtain rfl := Option.some.inj happens
      rcases @requestSpin_cases config gateway roundId betMinor roundKind admitted with
        same | finished | ⟨opened, unset, posts⟩
      · rw [same]
        exact .kept _
      · exact .ended _ finished
      · exact .began roundId betMinor roundKind admitted opened unset posts
  | acknowledgeSpinResult roundId sequence =>
      obtain rfl := Option.some.inj happens
      exact (acknowledgeSpinResult_spares roundId sequence).aside.roundStep _
  | persist round =>
      obtain rfl := Option.some.inj happens
      exact .kept _
  | call place exchange sample =>
      cases closed : gateway.closed with
      | false => exact exchangeCall_roundStep closed happens
      | true =>
          dsimp only [act, exchangeCall] at happens
          rw [quiet closed] at happens
          cases happens
  | acknowledgementCall place exchange sample =>
      exact (exchangeAcknowledgement_aside happens).roundStep _
  | renew =>
      dsimp only [act] at happens
      split at happens
      · cases happens
      next opened =>
        obtain rfl := Option.some.inj happens
        unfold refreshAccessToken
        split
        · exact .kept _
        · split
          · exact .kept _
          · exact .ended _ (terminate_ended _ (Bool.eq_false_iff.mpr opened))
  | renewed outcome =>
      dsimp only [act] at happens
      split at happens
      · cases happens
      · obtain rfl := Option.some.inj happens
        exact (renewalAnswered_aside _ outcome).roundStep _
  | probed idleDisconnectAt =>
      dsimp only [act] at happens
      split at happens
      · cases happens
      · obtain rfl := Option.some.inj happens
        unfold armSessionTimeout
        rcases @expire_cases config
          { gateway with
            session :=
              { gateway.session with
                idleDisconnectAt := max gateway.session.idleDisconnectAt idleDisconnectAt } } with
          same | finished
        · rw [same]
          exact .kept _
        · exact .ended _ finished
  | pollTimer place => exact pollTimer_roundStep happens
  | acknowledgementRetryTimer place =>
      obtain ⟨timer, fired, _, _, rfl⟩ := fireTimer_some happens
      have spared := @acknowledgementRetryFired_spares config
        { gateway with acknowledgementRetryTimer := fired } timer.payload
      have aside : Aside gateway _ := spared.aside.of_base rfl rfl
      exact aside.roundStep _
  | acknowledgementDeadlineTimer place =>
      obtain ⟨timer, fired, _, _, rfl⟩ := fireTimer_some happens
      have spared := @acknowledgementDeadlineFired_spares
        { gateway with acknowledgementDeadlineTimer := fired } timer.payload
      have aside : Aside gateway _ := spared.aside.of_base rfl rfl
      exact aside.roundStep _
  | shutDown cause =>
      obtain rfl := Option.some.inj happens
      exact (terminateForOperatorRelaunch_spares cause).aside.roundStep _
  | close =>
      dsimp only [act] at happens
      split at happens
      · obtain rfl := Option.some.inj happens
        exact .kept _
      · obtain rfl := Option.some.inj happens
        exact .ended _ ⟨rfl, rfl, rfl, ⟨[], rfl, fun _ absent => absurd absent List.not_mem_nil⟩, rfl, rfl⟩

end RgsGateway

/-! ## Runs -/

variable {config : Config} {gateway : RgsGateway} {view after : View} {action : Action}

theorem Moves.quiet {least id : Nat} (moves : Moves least id view after)
    (quiet : view.closed = true → view.calls = []) (closed : after.closed = true) :
    after.calls = [] := by
  cases moves with
  | ended finished => exact finished.calls
  | kept | cleared | scheduled | delivered => exact quiet closed

theorem found_opened {place : Nat} {call : Call RoundRequest RoundReply}
    (quiet : gateway.closed = true → gateway.calls = [])
    (found : gateway.calls[place]? = some call) : gateway.closed = false := by
  cases closed : gateway.closed with
  | false => rfl
  | true =>
      rw [quiet closed] at found
      cases found

theorem polled_closed (id : Nat) : (view.polled id).closed = view.closed := by
  unfold View.polled
  split <;> rfl

theorem polled_calls (id : Nat) : (view.polled id).calls = view.calls := by
  unfold View.polled
  split <;> rfl

/-- A gateway that is closed has no calls. -/
theorem RoundStep.quiet (stepped : RoundStep config gateway action after)
    (quiet : gateway.closed = true → gateway.calls = []) (closed : after.closed = true) :
    after.calls = [] := by
  have seen (here : gateway.view.closed = true) : gateway.view.calls = [] := by
    unfold RgsGateway.view
    rw [quiet here]
    rfl
  -- a call that is answered was made in a gateway that is open
  have absurd {place : Nat} {call : Call RoundRequest RoundReply} {base : View}
      (found : gateway.calls[place]? = some call) (same : base.closed = gateway.view.closed)
      (here : base.closed = true) : base.calls = [] := by
    have opened : gateway.view.closed = false := found_opened quiet found
    rw [same, opened] at here
    cases here
  cases stepped with
  | kept | elapsed | unseen | hidden | shown | rearmed | fired | cleared => exact seen closed
  | ended _ finished => exact finished.calls
  | began _ _ _ _ opened _ posts =>
      rw [posts.unchanged] at closed
      exact Bool.noConfusion (opened.symm.trans closed)
  | resumed _ _ _ _ _ _ _ _ moves => exact moves.quiet seen closed
  | renewing _ _ _ found => exact absurd found rfl closed
  | renewingDelayed _ _ found => exact absurd found rfl closed
  | posted _ _ found posts =>
      refine absurd found ?_ closed
      rw [posts.unchanged]
      rfl
  | submissionAnswered _ _ _ found _ hears moves =>
      exact moves.quiet (absurd found (by rw [hears.unchanged]; rfl)) closed
  | pollAnswered _ _ _ found _ hears moves =>
      rw [polled_closed] at closed
      rw [polled_calls]
      exact moves.quiet (absurd found (by rw [hears.unchanged]; rfl)) closed
  | resubmitted _ _ _ found _ hears _ _ posts =>
      rw [polled_closed] at closed
      rw [polled_calls]
      refine absurd found ?_ closed
      rw [posts.unchanged, hears.unchanged]
      rfl
  | polled _ _ _ opened _ _ _ posts =>
      rw [posts.unchanged] at closed
      exact Bool.noConfusion (opened.symm.trans closed)

/-- No request has been sent, and none is scheduled. -/
structure View.Fresh (view : View) : Prop where
  opened : view.closed = false
  calls : view.calls = []
  timer : view.pollTimer = {}
  notBefore : view.pollNotBeforeAtMs = none
  log : view.log = []
  pending : ∀ round, view.pending = some round →
    round.id < view.nextRound ∧ round.pollRequestActive = false ∧ round.delivered = false

/-- A session begins with what is done to the round that it finds. -/
theorem Opens.moves (opens : Opens config gateway) :
    ∃ base : View, base.Fresh ∧ Moves 0 0 base gateway.view := by
  have fresh (base : RgsGateway) (opened : base.closed = false) (calls : base.calls = [])
      (timer : base.pollTimer = {}) (notBefore : base.pollNotBeforeAtMs = none)
      (log : base.log = []) (pending : ∀ round, base.pending = some round →
        round.id < base.nextRound ∧ round.pollRequestActive = false ∧
          round.deliveredSequence = none) : base.view.Fresh := by
    refine ⟨opened, ?_, timer, notBefore, log, ?_⟩
    · unfold RgsGateway.view
      rw [calls]
      rfl
    · intro round held
      obtain ⟨earlier, found, rfl⟩ := Option.map_eq_some_iff.mp held
      obtain ⟨known, idle, undelivered⟩ := pending earlier found
      exact ⟨known, idle, by rw [PendingRound.state, undelivered]; rfl⟩
  cases opens with
  | fresh now session online visible =>
      exact ⟨_, fresh (opened now session online visible) rfl rfl rfl rfl rfl
        (fun _ absent => by cases absent), .kept fun _ => rfl⟩
  | restored now session online visible pending isNew =>
      refine ⟨_, ?_, @RgsGateway.schedulePoll_moves config _ 0 none (some 0) ?_⟩
      · refine fresh _ rfl rfl rfl rfl rfl fun round held => ?_
        obtain rfl := Option.some.inj held
        rw [isNew]
        exact ⟨Nat.one_pos, rfl, rfl⟩
      · intro delay zero
        cases zero
        decide
  | discovered now session online visible pending decoded sample isNew base begins =>
      refine ⟨base.view, ?_, ?_⟩
      · rw [begins]
        refine fresh _ rfl rfl rfl rfl rfl fun round held => ?_
        obtain rfl := Option.some.inj held
        rw [isNew]
        exact ⟨Nat.one_pos, rfl, rfl⟩
      · split
        next accepted => exact RgsGateway.acceptCommitted_moves accepted
        · exact @RgsGateway.schedulePoll_moves config base 0 sample none fun _ absent => by
            cases absent
        · exact RgsGateway.terminatePendingRecovery_moves _

end SlotsGame.Gateway
