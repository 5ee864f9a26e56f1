/-
# SlotsGame.Outbox.Delivery -- order, fencing and at-least-once delivery

`Logged` is what the log says about the order of events: a claim finds every
predecessor published, and what is marked published was taken by the publisher before.
`outbox_run_sound` reads the guarantees of the outbox off the invariants, for
every interleaving of writers, claims, deliveries, failures and lost answers.
-/
import SlotsGame.Outbox.Invariants

namespace SlotsGame.Outbox

open SlotsGame.Rgs SlotsGame.Theory

set_option autoImplicit false

namespace OutboxSystem

variable {π ι : Type} {system after : OutboxSystem π ι} {start : OutboxTable}

/-! ## The log -/

/-- The claim of this line found its event and its predecessors so. -/
def LogEntry.InOrder (entry : LogEntry) : Prop :=
  ∃ row, entry.outbox.lookup entry.event = some row ∧ row.Unpublished ∧
    ∀ other third, entry.outbox.lookup other = some third → third.aggregate = row.aggregate →
      other < entry.event → ¬ third.Unpublished

/-- Among these lines the publisher took the event, under the same claim. -/
def Accepted (log : List LogEntry) (id : Int) (token : String) : Prop :=
  ∃ entry ∈ log, entry.event = id ∧ entry.what = .accepted token

structure Logged (start : OutboxTable) (system : OutboxSystem π ι) : Prop where
  granted : ∀ entry ∈ system.log, ∀ token, entry.what = .granted token → LogEntry.InOrder entry
  deliveries : ∀ delivery ∈ system.deliveries,
    (∃ entropy, delivery.leaseToken = newLeaseToken entropy) ∧ 0 < delivery.event.id ∧
      (delivery.stage = .accepted → Accepted system.log delivery.event.id delivery.leaseToken)
  acknowledged : ∀ left entry right token, system.log = left ++ entry :: right →
    entry.what = .published token → Accepted left entry.event token
  published : ∀ id row, system.outbox.lookup id = some row → ¬ row.Unpublished →
    (∃ first, start.lookup id = some first ∧ ¬ first.Unpublished) ∨
      ∃ entry ∈ system.log, entry.event = id ∧ ∃ token, entry.what = .published token

theorem Accepted.mono {log entries : List LogEntry} {id : Int} {token : String}
    (accepted : Accepted log id token) : Accepted (log ++ entries) id token := by
  obtain ⟨entry, member, fact⟩ := accepted
  exact ⟨entry, List.mem_append_left _ member, fact⟩

/-- A line of a longer log is an earlier one, or has the earlier ones before it. -/
theorem line_cases {log entries left right : List LogEntry} {entry : LogEntry}
    (whole : log ++ entries = left ++ entry :: right) :
    (∃ rest, log = left ++ entry :: rest) ∨ (entry ∈ entries ∧ ∃ rest, left = log ++ rest) := by
  rcases List.append_eq_append_iff.mp whole with ⟨rest, rfl, same⟩ | ⟨rest, rfl, same⟩
  · refine .inr ⟨?_, rest, rfl⟩
    rw [same]
    exact List.mem_append_right _ List.mem_cons_self
  · cases rest with
    | nil =>
        refine .inr ⟨?_, [], by rw [List.append_nil, List.append_nil]⟩
        rw [← List.nil_append entries, ← same]
        exact List.mem_cons_self
    | cons first rest =>
        obtain ⟨rfl, _⟩ := List.cons.inj same
        exact .inl ⟨rest, rfl⟩

namespace Logged

/-- New lines, together with what the step does to the table. -/
theorem logs (logged : Logged start system) (entries : List LogEntry) (outbox : OutboxTable)
    (granted : ∀ entry ∈ entries, ∀ token, entry.what = .granted token → LogEntry.InOrder entry)
    (acknowledged : ∀ entry ∈ entries, ∀ token, entry.what = .published token →
      Accepted system.log entry.event token)
    (published : ∀ id row, outbox.lookup id = some row → ¬ row.Unpublished →
      system.outbox.lookup id = some row ∨
        ∃ entry ∈ entries, entry.event = id ∧ ∃ token, entry.what = .published token) :
    Logged start { system with outbox := outbox, log := system.log ++ entries } where
  granted := by
    intro entry member
    rcases List.mem_append.mp member with earlier | new
    · exact logged.granted entry earlier
    · exact granted entry new
  deliveries := by
    intro delivery member
    obtain ⟨token, positive, accepted⟩ := logged.deliveries delivery member
    exact ⟨token, positive, fun stage => (accepted stage).mono⟩
  acknowledged := by
    intro left entry right token whole what
    rcases line_cases whole with ⟨rest, earlier⟩ | ⟨member, rest, rfl⟩
    · exact logged.acknowledged left entry rest token earlier what
    · exact (acknowledged entry member token what).mono
  published := by
    intro id row found final
    rcases published id row found final with before | ⟨entry, member, fact⟩
    · rcases logged.published id row before final with first | ⟨entry, member, fact⟩
      · exact .inl first
      · exact .inr ⟨entry, List.mem_append_left _ member, fact⟩
    · exact .inr ⟨entry, List.mem_append_right _ member, fact⟩

/-- Deliveries come and go. -/
theorem delivers (logged : Logged start system) {deliveries : List Delivery}
    (sound : ∀ delivery ∈ deliveries, delivery ∈ system.deliveries ∨
      ((∃ entropy, delivery.leaseToken = newLeaseToken entropy) ∧ 0 < delivery.event.id ∧
        (delivery.stage = .accepted → Accepted system.log delivery.event.id delivery.leaseToken))) :
    Logged start { system with deliveries := deliveries } :=
  { logged with
    deliveries := fun delivery member =>
      (sound delivery member).elim (logged.deliveries delivery) id }

/-- One delivery is gone. -/
theorem drops (logged : Logged start system) {left right : List Delivery} {delivery : Delivery}
    (running : system.deliveries = left ++ delivery :: right) :
    Logged start { system with deliveries := left ++ right } := by
  apply logged.delivers
  intro other member
  rw [running]
  rcases List.mem_append.mp member with before | behind
  · exact .inl (List.mem_append_left _ before)
  · exact .inl (List.mem_append_right _ (List.mem_cons_of_mem delivery behind))

/-- One delivery goes on. -/
theorem advances (logged : Logged start system) {left right : List Delivery} {delivery : Delivery}
    (running : system.deliveries = left ++ delivery :: right) {stage : Stage}
    (accepted : stage = .accepted → Accepted system.log delivery.event.id delivery.leaseToken) :
    Logged start
      { system with deliveries := left ++ { delivery with stage := stage } :: right } := by
  apply logged.delivers
  intro other member
  have mine : delivery ∈ system.deliveries := by
    rw [running]
    exact List.mem_append_right _ List.mem_cons_self
  obtain ⟨token, positive, _⟩ := logged.deliveries delivery mine
  rw [running]
  rcases List.mem_append.mp member with before | behind
  · exact .inl (List.mem_append_left _ before)
  · rcases List.mem_cons.mp behind with rfl | behind
    · exact .inr ⟨token, positive, accepted⟩
    · exact .inl (List.mem_append_right _ (List.mem_cons_of_mem delivery behind))

/-- A row that is published in a changed table was so before, or is the changed one. -/
theorem published_insert {outbox : OutboxTable} {id other : Int} {row third : OutboxRow}
    (found : (outbox.insert id row).lookup other = some third) :
    outbox.lookup other = some third ∨ (other = id ∧ third = row) := by
  rw [Table.lookup_insert] at found
  by_cases here : other = id
  · rw [if_pos here] at found
    exact .inr ⟨here, (Option.some.inj found).symm⟩
  · rw [if_neg here] at found
    exact .inl found

variable [DecidableEq ι]

theorem granting (logged : Logged start system) (ordered : Ordered system) {id : ι}
    {claim : ClaimStatement} (running : system.claims id = some claim) (clock : Int → Time) :
    Logged start (system.granting id claim clock) := by
  have lines := logged.logs
    (claim.locked.map fun event =>
      { event := event, what := .granted claim.request.leaseToken, outbox := system.outbox })
    (grant system.outbox claim.request clock claim.locked)
    (by
      intro entry member token _
      obtain ⟨event, locked, rfl⟩ := List.mem_map.mp member
      exact (ordered.claims id claim running).predecessors locked)
    (by
      intro entry member token what
      obtain ⟨event, _, rfl⟩ := List.mem_map.mp member
      cases what)
    (by
      intro event row found final
      rw [grant, Table.lookup_update] at found
      obtain ⟨earlier, present, rfl⟩ := Option.map_eq_some_iff.mp found
      refine .inl ?_
      rw [present]
      split
      next here =>
        rw [if_pos here] at final
        by_cases unpublished : earlier.Unpublished
        · exact absurd (OutboxRow.grant_unpublished _ unpublished).2 final
        · rw [OutboxRow.grant_published unpublished]
      next => rfl)
  exact { lines with }

theorem claimed_event {outbox : OutboxTable} {locked : List Int} {events : List Event}
    (read : claimed outbox locked = .ok events) (event : Event) (member : event ∈ events) :
    0 < event.id := by
  dsimp only [claimed] at read
  split at read
  next valid =>
    obtain rfl := Except.ok.inj read
    have checked := List.all_eq_true.mp valid event member
    simp only [validClaimedEvent, Bool.and_eq_true, decide_eq_true_iff] at checked
    exact checked.1.1.1.1.1.1.1.1
  next => cases read

variable [DecidableEq π]

theorem step (logged : Logged start system) (ordered : Ordered system) (fenced : Fenced system)
    (stepped : Step system after) : Logged start after := by
  cases stepped with
  | opens id free => exact { logged with }
  | holds id writer aggregate running free => exact { logged with }
  | appends id writer aggregate eventType payload now running held => exact { logged with }
  | commits id writer running =>
      refine { logged with published := ?_ }
      intro event row found final
      rcases lookup_commit.mp found with staged | ⟨_, found⟩
      · exact absurd ⟨none, ((ordered.writers id writer running).fresh event row staged).1⟩ final
      · exact logged.published event row found final
  | rollsBack id writer running => exact { logged with }
  | claims id dispatcher entropy clock free => exact { logged with }
  | locks id claim next rest now running waiting room unlocked qualifies => exact { logged with }
  | skips id claim next rest running waiting => exact { logged with }
  | grants id claim clock events running finished read =>
      apply (logged.granting ordered running clock).delivers
      intro delivery member
      rcases List.mem_append.mp member with before | new
      · exact .inl before
      · obtain ⟨event, returned, rfl⟩ := List.mem_map.mp new
        obtain ⟨entropy, _, request⟩ := fenced.requests id claim running
        refine .inr ⟨⟨entropy, ?_⟩, claimed_event read event returned, by rintro ⟨⟩⟩
        rw [request]
        rfl
  | unread id claim clock running finished => exact logged.granting ordered running clock
  | fails id claim running => exact { logged with }
  | accepts left right delivery running stage =>
      let line : LogEntry :=
        { event := delivery.event.id, what := .accepted delivery.leaseToken, outbox := system.outbox }
      have lines := logged.logs [line] system.outbox
        (by
          rintro entry member token what
          obtain rfl := List.mem_singleton.mp member
          cases what)
        (by
          rintro entry member token what
          obtain rfl := List.mem_singleton.mp member
          cases what)
        (fun _ _ found _ => .inl found)
      exact lines.advances running fun _ =>
        ⟨line, List.mem_append_right _ (List.mem_singleton.mpr rfl), rfl, rfl⟩
  | refuses left right delivery running stage => exact logged.advances running (by rintro ⟨⟩)
  | acknowledges left right delivery now running stage waits =>
      have mine : delivery ∈ system.deliveries := by
        rw [running]
        exact List.mem_append_right _ List.mem_cons_self
      have accepted := (logged.deliveries delivery mine).2.2 stage
      have completed : Logged start
          (system.completing delivery .published (system.acknowledgement delivery now)) := by
        rw [acknowledgement, completing]
        rcases markPublished_cases system.outbox
          (Dispatcher.completion delivery.leaseToken delivery.event) now with
          ⟨error, same⟩ | ⟨row, found, held, same⟩
        · rw [same, if_neg (by rintro ⟨⟩), List.append_nil]
          exact { logged with }
        · rw [same, if_pos rfl]
          apply logged.logs
          · intro entry member token what
            obtain rfl := List.mem_singleton.mp member
            cases what
          · intro entry member token what
            obtain rfl := List.mem_singleton.mp member
            cases what
            exact accepted
          · intro other third present final
            rcases published_insert present with before | ⟨rfl, _⟩
            · exact .inl before
            · exact .inr ⟨_, List.mem_singleton.mpr rfl, rfl, delivery.leaseToken, rfl⟩
      exact completed.drops running
  | defers left right delivery now running stage waits =>
      let failure := delivery.dispatcher.failure delivery.leaseToken delivery.event
      have completed : Logged start
          (system.completing delivery .deferred (markFailed system.outbox failure now)) := by
        rw [completing]
        rcases markFailed_cases system.outbox failure now with
          ⟨error, same⟩ | ⟨row, found, held, same⟩
        · rw [same, if_neg (by rintro ⟨⟩), List.append_nil]
          exact { logged with }
        · rw [same, if_pos rfl]
          apply logged.logs
          · intro entry member token what
            obtain rfl := List.mem_singleton.mp member
            cases what
          · intro entry member token what
            obtain rfl := List.mem_singleton.mp member
            cases what
          · intro other third present final
            rcases published_insert present with before | ⟨_, rfl⟩
            · exact .inl before
            · exact absurd (OutboxRow.markFailed_unpublished failure now) final
      exact completed.drops running
  | abandons left right delivery running => exact logged.drops running

end Logged

/-! ## Runs -/

/-- A table as the migrations leave it. -/
structure Opened (outbox : OutboxTable) (nextID : Int) : Prop where
  positive : 0 < nextID
  numbered : ∀ id row, outbox.lookup id = some row → 0 < id ∧ id < nextID
  unleased : ∀ id row, outbox.lookup id = some row → row.leaseToken = none

section Runs

variable [DecidableEq π] [DecidableEq ι] {nextID : Int}

abbrev Reaches : OutboxSystem π ι → OutboxSystem π ι → Prop := Relation.ReflTransGen Step

theorem draws_step (stepped : Step system after) : ∃ new, after.draws = system.draws ++ new := by
  cases stepped with
  | claims id dispatcher entropy clock free => exact ⟨[entropy], rfl⟩
  | _ => exact ⟨[], (List.append_nil _).symm⟩

/-- The three invariants hold along every run. -/
theorem reached_sound (opened : Opened start nextID)
    (reached : Reaches (OutboxSystem.start start nextID : OutboxSystem π ι) system)
    (fresh : system.draws.Nodup) : Ordered system ∧ Fenced system ∧ Logged start system := by
  induction reached with
  | refl =>
      refine ⟨?_, ?_, ?_⟩
      · exact ⟨opened.positive, opened.numbered, by rintro _ _ ⟨⟩, by rintro _ _ _ _ _ ⟨⟩,
          by rintro _ _ ⟨⟩, by rintro _ _ _ _ _ ⟨⟩, by rintro _ ⟨⟩⟩
      · refine ⟨?_, fun _ => List.nodup_nil, by rintro _ _ ⟨⟩, by rintro _ _ ⟨⟩, by rintro _ _ ⟨⟩,
          by rintro _ _ _ _ _ ⟨⟩⟩
        intro id
        show none = (start.lookup id).bind OutboxRow.leaseToken
        cases found : start.lookup id with
        | none => rfl
        | some row => exact (opened.unleased id row found).symm
      · refine ⟨by rintro _ ⟨⟩, by rintro _ ⟨⟩, ?_, fun id row found final => .inl ⟨row, found, final⟩⟩
        intro left entry right token whole
        exact absurd whole.symm (by simp [OutboxSystem.start])
  | tail path stepped ih =>
      obtain ⟨new, drawn⟩ := draws_step stepped
      have earlier := fresh
      rw [drawn] at earlier
      obtain ⟨ordered, fenced, logged⟩ := ih (List.nodup_append.mp earlier).1
      exact ⟨ordered.step stepped, fenced.step ordered stepped fresh,
        logged.step ordered fenced stepped⟩

/-- What a step writes to the log stands under the table it found. -/
theorem log_step (stepped : Step system after) :
    ∃ new, after.log = system.log ++ new ∧ ∀ entry ∈ new, entry.outbox = system.outbox := by
  have granting (claim : ClaimStatement) :
      ∀ entry ∈ claim.locked.map fun event =>
        (⟨event, .granted claim.request.leaseToken, system.outbox⟩ : LogEntry),
      entry.outbox = system.outbox := by
    intro entry member
    obtain ⟨event, _, rfl⟩ := List.mem_map.mp member
    rfl
  have completing (delivery : Delivery) (what : String → Happening)
      (statement : Except OutboxError Unit × OutboxTable) :
      ∀ entry ∈ (if statement.1 = .ok () then
        [⟨delivery.event.id, what delivery.leaseToken, system.outbox⟩] else [] : List LogEntry),
      entry.outbox = system.outbox := by
    intro entry member
    split at member
    next => rw [List.mem_singleton.mp member]
    next => cases member
  cases stepped with
  | grants id claim clock => exact ⟨_, rfl, granting claim⟩
  | unread id claim clock => exact ⟨_, rfl, granting claim⟩
  | accepts left right delivery =>
      refine ⟨_, rfl, ?_⟩
      intro entry member
      rw [List.mem_singleton.mp member]
  | acknowledges left right delivery now => exact ⟨_, rfl, completing delivery _ _⟩
  | defers left right delivery now => exact ⟨_, rfl, completing delivery _ _⟩
  | _ => exact ⟨[], (List.append_nil _).symm, by rintro _ ⟨⟩⟩

/-- From any state of a run on, the table grows and new lines see it grown. -/
theorem reached_later {middle : OutboxSystem π ι} (opened : Opened start nextID)
    (first : Reaches (OutboxSystem.start start nextID) middle) (rest : Reaches middle system)
    (fresh : system.draws.Nodup) :
    Later middle.outbox system.outbox ∧
      ∃ new, system.log = middle.log ++ new ∧ ∀ entry ∈ new, Later middle.outbox entry.outbox := by
  induction rest with
  | refl => exact ⟨.refl _, [], (List.append_nil _).symm, by rintro _ ⟨⟩⟩
  | tail path stepped ih =>
      obtain ⟨more, drawn⟩ := draws_step stepped
      have earlier := fresh
      rw [drawn] at earlier
      have fresh := (List.nodup_append.mp earlier).1
      obtain ⟨later, new, log, lines⟩ := ih fresh
      have ordered := (reached_sound opened (first.trans path) fresh).1
      obtain ⟨last, log', lines'⟩ := log_step stepped
      refine ⟨later.trans (ordered.later stepped), new ++ last, ?_, ?_⟩
      · rw [log', log, List.append_assoc]
      · intro entry member
        rcases List.mem_append.mp member with before | now
        · exact lines entry before
        · rw [lines' entry now]
          exact later

end Runs

end OutboxSystem

/-! ## The guarantees -/

open OutboxSystem

/-- What holds of the outbox after any run. -/
structure OutboxSound {π ι : Type} [DecidableEq π] [DecidableEq ι] (start system : OutboxSystem π ι) :
    Prop where
  /-- A claimed event was unpublished, and every event of its aggregate with a smaller
  id, whenever it may come, was there and published. -/
  ordered : ∀ entry ∈ system.log, ∀ token, entry.what = .granted token →
    ∃ row, entry.outbox.lookup entry.event = some row ∧ row.Unpublished ∧
      ∀ other third, system.outbox.lookup other = some third → third.aggregate = row.aggregate →
        other < entry.event → ∃ earlier, entry.outbox.lookup other = some earlier ∧ ¬ earlier.Unpublished
  /-- No event is dropped or changed, and a published one is final. -/
  kept : ∀ middle, Reaches start middle → Reaches middle system → ∀ id row,
    middle.outbox.lookup id = some row → ∃ row', system.outbox.lookup id = some row' ∧
      row.SameEvent row' ∧ (¬ row.Unpublished → row' = row)
  /-- A published event is not claimed again. -/
  final : ∀ middle, Reaches start middle → Reaches middle system → ∀ id row,
    middle.outbox.lookup id = some row → ¬ row.Unpublished →
      ∃ new, system.log = middle.log ++ new ∧
        ∀ entry ∈ new, ∀ token, entry.what = .granted token → entry.event ≠ id
  /-- A claim is stale once another claim of its event, or its own end, has followed. -/
  stalePublished : ∀ completion now,
    Fence.Superseded (fences system.log completion.eventID) completion.leaseToken →
      markPublished system.outbox completion now =
        (.error (if completion.Valid then .leaseLost else .invalidInput), system.outbox)
  staleFailed : ∀ failure now,
    Fence.Superseded (fences system.log failure.eventID) failure.leaseToken →
      markFailed system.outbox failure now =
        (.error (if failure.Valid then .leaseLost else .invalidInput), system.outbox)
  /-- The calls of the dispatchers are well formed. -/
  calls : ∀ delivery ∈ system.deliveries,
    (Dispatcher.completion delivery.leaseToken delivery.event).Valid ∧
      (delivery.dispatcher.failure delivery.leaseToken delivery.event).Valid
  /-- What is marked published was taken by the publisher before. -/
  delivered : ∀ id row, system.outbox.lookup id = some row → ¬ row.Unpublished →
    (∃ first, start.outbox.lookup id = some first ∧ ¬ first.Unpublished) ∨
      ∃ left entry right token, system.log = left ++ entry :: right ∧ entry.event = id ∧
        entry.what = .published token ∧ Accepted left id token
  /-- The first unpublished event of an aggregate can be claimed again, as long as its attempts can
  be counted. -/
  claimable : ∀ id row, system.outbox.lookup id = some row → row.Unpublished →
    Unblocked system.outbox id row → row.attempts < maximumAttempts →
      ∃ due, ∀ clock : Int → Time, due ≤ clock id → id ∈ candidates system.outbox clock

/-- Whatever the interleaving, as long as the random source does not repeat itself. -/
theorem outbox_run_sound {π ι : Type} [DecidableEq π] [DecidableEq ι] (outbox : OutboxTable)
    (nextID : Int) (opened : Opened outbox nextID) (system : OutboxSystem π ι)
    (reached : Reaches (OutboxSystem.start outbox nextID) system) (fresh : system.draws.Nodup) :
    OutboxSound (OutboxSystem.start outbox nextID) system := by
  obtain ⟨ordered, fenced, logged⟩ := reached_sound opened reached fresh
  constructor
  case ordered =>
    intro entry member token what
    obtain ⟨row, found, unpublished, predecessors⟩ := logged.granted entry member token what
    refine ⟨row, found, unpublished, ?_⟩
    intro other third present aggregate smaller
    obtain ⟨earlier, before, aggregate'⟩ :=
      (ordered.log entry member).predecessor found present aggregate smaller
    exact ⟨earlier, before, predecessors other earlier before aggregate' smaller⟩
  case kept =>
    intro middle first rest
    exact (reached_later opened first rest fresh).1.kept
  case final =>
    intro middle first rest id row found published
    obtain ⟨_, new, log, lines⟩ := reached_later opened first rest fresh
    refine ⟨new, log, ?_⟩
    rintro entry member token what rfl
    have mine : entry ∈ system.log := by
      rw [log]
      exact List.mem_append_right _ member
    obtain ⟨row', found', unpublished, _⟩ := logged.granted entry mine token what
    rw [(lines entry member).published found published] at found'
    obtain rfl := Option.some.inj found'
    exact published unpublished
  case stalePublished =>
    intro completion now superseded
    exact markPublished_other now (fenced.stale superseded)
  case staleFailed =>
    intro failure now superseded
    exact markFailed_other now (fenced.stale superseded)
  case calls =>
    intro delivery member
    obtain ⟨⟨entropy, token⟩, positive, _⟩ := logged.deliveries delivery member
    rw [token]
    exact ⟨Dispatcher.completion_valid entropy positive, delivery.dispatcher.failure_valid entropy positive⟩
  case delivered =>
    intro id row found published
    rcases logged.published id row found published with first | ⟨entry, member, rfl, token, what⟩
    · exact .inl first
    · obtain ⟨left, right, whole⟩ := List.append_of_mem member
      exact .inr ⟨left, entry, right, token, whole, rfl, what,
        logged.acknowledged left entry right token whole what⟩
  case claimable =>
    intro id row found unpublished unblocked counted
    refine ⟨max row.availableAt ((row.lease.map Lease.leaseUntil).getD row.availableAt), ?_⟩
    intro clock due
    refine mem_candidates.mpr ⟨row, found, ⟨unpublished, ?_, ?_, counted⟩, unblocked⟩
    · exact le_trans (le_max_left _ _) due
    · intro lease leased
      rw [Option.mem_def] at leased
      rw [leased] at due
      exact le_trans (le_max_right _ _) due

/-! ## A run -/

def demoConfig : DispatcherConfig :=
  { owner := "host-1", interval := 0, leaseDuration := 0, publishTimeout := 0, batchSize := 0
    maxParallel := 0, initialBackoff := 0, maximumBackoff := 0 }

def demoDispatcher : Dispatcher where
  config := demoConfig.withDefaults
  opened := ⟨demoConfig, by decide⟩

def demoRow : OutboxRow :=
  { newRow ⟨"op", "round", "round-1"⟩ "ROUND_PREPARED" [] 5 with attempts := 2 }

/-- One event that nobody has claimed. -/
def demoTable : OutboxTable := AList.insert 1 demoRow ∅

/-- One pass claims the event and crashes. -/
def demoClaim (pending locked : List Int) : ClaimStatement :=
  { dispatcher := demoDispatcher
    request := demoDispatcher.claimRequest (newLeaseToken fun _ => 7)
    snapshot := demoTable, pending := pending, locked := locked }

abbrev DemoSystem := OutboxSystem Unit Unit

def demoClaimed (pending locked : List Int) : DemoSystem :=
  { (OutboxSystem.start demoTable 2 : DemoSystem).claiming () (some (demoClaim pending locked)) with
    draws := [fun _ => 7] }

theorem demo_reached : Reaches (OutboxSystem.start demoTable 2)
    ((demoClaimed [] [1]).granting () (demoClaim [] [1]) fun _ => 10) := by
  have claims : Step (OutboxSystem.start demoTable 2) (demoClaimed [1] []) :=
    .claims () demoDispatcher (fun _ => 7) (fun _ => 10) rfl
  have locks : Step (demoClaimed [1] []) (demoClaimed [] [1]) := by
    have step : Step (demoClaimed [1] []) _ :=
      .locks () (demoClaim [1] []) 1 [] 10 rfl rfl (by decide) (by rintro _ _ ⟨⟩ ⟨⟩) (.inl rfl)
    exact step
  have unread : Step (demoClaimed [] [1])
      ((demoClaimed [] [1]).granting () (demoClaim [] [1]) fun _ => 10) :=
    .unread () (demoClaim [] [1]) (fun _ => 10) rfl (.inl rfl)
  exact ((Relation.ReflTransGen.single claims).tail locks).tail unread

theorem demo_outbox_run_sound : OutboxSound (OutboxSystem.start demoTable 2)
    ((demoClaimed [] [1]).granting () (demoClaim [] [1]) fun _ => 10) := by
  refine outbox_run_sound demoTable 2 ⟨by decide, ?_, ?_⟩ _ demo_reached (List.nodup_singleton _)
  · intro id row found
    obtain ⟨rfl, _⟩ : id = 1 ∧ demoRow = row := by
      rw [demoTable, Table.lookup_insert] at found
      by_cases here : id = 1
      · rw [if_pos here] at found
        exact ⟨here, Option.some.inj found⟩
      · rw [if_neg here] at found
        cases found
    decide
  · intro id row found
    rw [demoTable, Table.lookup_insert] at found
    by_cases here : id = 1
    · rw [if_pos here] at found
      rw [← Option.some.inj found]
      rfl
    · rw [if_neg here] at found
      cases found

end SlotsGame.Outbox
