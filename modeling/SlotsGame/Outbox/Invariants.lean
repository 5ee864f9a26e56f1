/-
# SlotsGame.Outbox.Invariants -- what every run keeps of the table and the tokens

`Ordered` is about the table, the writers and the claims in flight.  `Fenced` ties the
lease token of a row to the log: it is the token of the last claim of the event,
unless that claim has ended, and no event is claimed twice under one token.
-/
import SlotsGame.Outbox.Ordering

namespace SlotsGame.Outbox

open SlotsGame.Rgs SlotsGame.Theory

set_option autoImplicit false

namespace OutboxSystem

variable {π ι : Type} {system after : OutboxSystem π ι}

/-! ## The table and its readers -/

/-- Two claims lock different rows. -/
def Separate (claim other : ClaimStatement) : Prop := ∀ event ∈ claim.locked, event ∉ other.locked

theorem Separate.symm {claim other : ClaimStatement} (separate : Separate claim other) :
    Separate other claim :=
  fun event theirs mine => separate event mine theirs

structure Ordered (system : OutboxSystem π ι) : Prop where
  positive : 0 < system.nextID
  numbered : ∀ id row, system.outbox.lookup id = some row → 0 < id ∧ id < system.nextID
  writers : InEach system.writers (WriterSound system.outbox system.nextID)
  apart : InEachTwo system.writers Apart
  claims : InEach system.claims (ClaimSound system.outbox)
  exclusive : InEachTwo system.claims Separate
  log : ∀ entry ∈ system.log, Later entry.outbox system.outbox

namespace Ordered

theorem logs (ordered : Ordered system) (entries : List LogEntry)
    (now : ∀ entry ∈ entries, entry.outbox = system.outbox) :
    Ordered { system with log := system.log ++ entries } :=
  { ordered with
    log := by
      intro entry member
      rcases List.mem_append.mp member with earlier | new
      · exact ordered.log entry earlier
      · rw [now entry new]
        exact .refl system.outbox }

/-- Rows change in place, and no claim loses a row it has locked. -/
theorem changes (ordered : Ordered system) {outbox : OutboxTable} (later : Later system.outbox outbox)
    (same : ∀ id, system.outbox.lookup id = none → outbox.lookup id = none)
    (safe : ∀ id claim, system.claims id = some claim → ∀ event ∈ claim.locked, ∀ row,
      system.outbox.lookup event = some row → row.Unpublished →
        ∃ row', outbox.lookup event = some row' ∧ row'.Unpublished) :
    Ordered { system with outbox := outbox } :=
  { ordered with
    numbered := by
      intro id row found
      cases present : system.outbox.lookup id with
      | none =>
          rw [same id present] at found
          cases found
      | some earlier => exact ordered.numbered id earlier present
    writers := fun id writer running => (ordered.writers id writer running).keep later same
    claims := fun id claim running => (ordered.claims id claim running).keep later (safe id claim running)
    log := fun entry member => (ordered.log entry member).trans later }

section Writers

variable [DecidableEq π]

theorem writes (ordered : Ordered system) (id : π) {writer : Writer}
    (sound : WriterSound system.outbox system.nextID writer)
    (apart : ∀ other third, id ≠ other → system.writers other = some third → Apart writer third) :
    Ordered (system.writing id (some writer)) :=
  { ordered with
    writers := ordered.writers.update (by rintro _ ⟨⟩; exact sound)
    apart := ordered.apart.update (fun _ _ => Apart.symm) (by rintro _ ⟨⟩; exact apart) }

theorem ends (ordered : Ordered system) (id : π) : Ordered (system.writing id none) :=
  { ordered with
    writers := ordered.writers.clear
    apart := ordered.apart.clear fun _ _ => Apart.symm }

end Writers

section Claims

variable [DecidableEq ι]

theorem proceeds (ordered : Ordered system) (id : ι) {claim : ClaimStatement}
    (sound : ClaimSound system.outbox claim)
    (exclusive : ∀ other third, id ≠ other → system.claims other = some third →
      Separate claim third) :
    Ordered (system.claiming id (some claim)) :=
  { ordered with
    claims := ordered.claims.update (by rintro _ ⟨⟩; exact sound)
    exclusive := ordered.exclusive.update (fun _ _ => Separate.symm) (by
      rintro _ ⟨⟩
      exact exclusive) }

theorem releases (ordered : Ordered system) (id : ι) : Ordered (system.claiming id none) :=
  { ordered with
    claims := ordered.claims.clear
    exclusive := ordered.exclusive.clear fun _ _ => Separate.symm }

/-- The claim at its end writes rows it alone has locked, and leaves them unpublished. -/
theorem granted (ordered : Ordered system) (id : ι) (claim : ClaimStatement) (clock : Int → Time) :
    Ordered (system.granting id claim clock) := by
  have logged := (ordered.releases id).logs
    (claim.locked.map fun event =>
      { event := event, what := .granted claim.request.leaseToken, outbox := system.outbox })
    (by
      intro entry member
      obtain ⟨event, _, rfl⟩ := List.mem_map.mp member
      rfl)
  refine logged.changes (later_grant system.outbox claim.request clock claim.locked) ?_ ?_
  · intro event absent
    show (grant system.outbox claim.request clock claim.locked).lookup event = none
    rw [grant, Table.lookup_update, show system.outbox.lookup event = none from absent, Option.map_none]
  · intro other third _ event _ row found unpublished
    rw [grant, Table.lookup_update, show system.outbox.lookup event = some row from found,
      Option.map_some]
    refine ⟨_, rfl, ?_⟩
    split
    next => exact (OutboxRow.grant_unpublished _ unpublished).2
    next => exact unpublished

end Claims

/-- The row of one event changes, and no claim has it locked if that publishes it. -/
theorem updates (ordered : Ordered system) {id : Int} {row : OutboxRow} {change : OutboxRow → OutboxRow}
    (found : system.outbox.lookup id = some row) (unpublished : row.Unpublished)
    (same : row.SameEvent (change row)) (safe : (change row).Unpublished ∨ system.Unlocked id) :
    Ordered { system with outbox := system.outbox.insert id (change row) } := by
  refine ordered.changes (later_insert change found unpublished same) ?_ ?_
  · intro other absent
    rw [lookup_insert_change found, absent, Option.map_none]
  · intro other claim running event mine third present kept
    rw [lookup_insert_change found, present, Option.map_some]
    refine ⟨_, rfl, ?_⟩
    by_cases here : event = id
    · subst here
      rw [if_pos rfl]
      rw [found] at present
      obtain rfl := Option.some.inj present
      rcases safe with still | unlocked
      · exact still
      · exact absurd mine (unlocked other claim running)
    · rw [if_neg here]
      exact kept

/-- A delivery's last statement changes the row its event is held in, or nothing. -/
theorem completes (ordered : Ordered system) (delivery : Delivery) (what : String → Happening)
    {statement : Except OutboxError Unit × OutboxTable} (id : Int) (change : OutboxRow → OutboxRow)
    (cases_ : (∃ error, statement = (.error error, system.outbox)) ∨
      ∃ row, system.outbox.lookup id = some row ∧ row.Unpublished ∧
        statement = (.ok (), system.outbox.insert id (change row)))
    (same : ∀ row : OutboxRow, row.SameEvent (change row))
    (safe : statement.1 = .ok () → (∀ row : OutboxRow, (change row).Unpublished) ∨ system.Unlocked id) :
    Ordered (system.completing delivery what statement) := by
  rcases cases_ with ⟨error, rfl⟩ | ⟨row, found, unpublished, rfl⟩
  · exact ordered.logs _ (by
      intro entry member
      rw [if_neg (by rintro ⟨⟩)] at member
      cases member)
  · have logged := ordered.logs
      [{ event := delivery.event.id, what := what delivery.leaseToken, outbox := system.outbox }]
      (by
        intro entry member
        obtain rfl := List.mem_singleton.mp member
        rfl)
    rw [completing, if_pos rfl]
    exact logged.updates found unpublished (same row) ((safe rfl).imp_left fun still => still row)

variable [DecidableEq π] [DecidableEq ι]

theorem step (ordered : Ordered system) (stepped : Step system after) : Ordered after := by
  cases stepped with
  | opens id free =>
      refine ordered.writes id ⟨?_, ?_, ?_, ?_⟩ fun other third _ _ => ⟨?_, ?_⟩
      · rintro event row ⟨⟩
      · rintro event row ⟨⟩
      · rintro event row ⟨⟩
      · rintro event row ⟨⟩
      · rintro aggregate ⟨⟩
      · rintro event row ⟨⟩
  | holds id writer aggregate running free =>
      have sound := ordered.writers id writer running
      refine ordered.writes id ?_ ?_
      · exact ⟨fun event row staged => List.mem_cons_of_mem _ (sound.held event row staged),
          sound.numbered, sound.fresh, sound.last⟩
      · intro other third different theirs
        have apart := ordered.apart id other writer third different running theirs
        refine ⟨?_, apart.rows⟩
        intro held member
        rcases List.mem_cons.mp member with rfl | mine
        · exact free other third theirs
        · exact apart.held held mine
  | appends id writer aggregate eventType payload now running held =>
      have numbered (event : Int) (row : OutboxRow)
          (found : system.outbox.lookup event = some row) : event < system.nextID :=
        (ordered.numbered event row found).2
      have advanced : Ordered { system with nextID := system.nextID + 1 } :=
        { ordered with
          positive := by
            have positive := ordered.positive
            show 0 < system.nextID + 1
            omega
          numbered := by
            intro event row found
            have bounds := ordered.numbered event row found
            show 0 < event ∧ event < system.nextID + 1
            omega
          writers := by
            intro other third theirs
            have sound := ordered.writers other third theirs
            refine ⟨sound.held, ?_, sound.fresh, sound.last⟩
            intro event row staged
            have bounds := sound.numbered event row staged
            show 0 < event ∧ event < system.nextID + 1
            omega }
      refine advanced.writes id ((ordered.writers id writer running).append held eventType payload now
        ordered.positive numbered) ?_
      intro other third different theirs
      have apart := ordered.apart id other writer third different running theirs
      refine ⟨apart.held, ?_⟩
      intro event row staged
      rw [Table.lookup_insert] at staged
      by_cases here : event = system.nextID
      · cases found : third.rows.lookup event with
        | none => rfl
        | some row' =>
            have bounds := (ordered.writers other third theirs).numbered event row' found
            omega
      · rw [if_neg here] at staged
        exact apart.rows event row staged
  | commits id writer running =>
      have sound := ordered.writers id writer running
      have later := sound.later
      have ended := ordered.ends id
      refine { ended with numbered := ?_, writers := ?_, claims := ?_, log := ?_ }
      · intro event row found
        rcases lookup_commit.mp found with staged | ⟨_, found⟩
        · exact sound.numbered event row staged
        · exact ordered.numbered event row found
      · intro other third theirs
        rcases slot_cases theirs with ⟨_, ended⟩ | ⟨different, theirs⟩
        · cases ended
        · exact (ordered.writers other third theirs).beside sound
            (ordered.apart other id third writer different theirs running)
      · intro other claim claiming
        refine (ordered.claims other claim claiming).keep later ?_
        intro event _ row found unpublished
        exact ⟨row, sound.lookup_old found, unpublished⟩
      · intro entry member
        exact (ordered.log entry member).trans later
  | rollsBack id writer running => exact ordered.ends id
  | claims id dispatcher entropy clock free =>
      have proceeded := ordered.proceeds id (ClaimSound.begins dispatcher
        (dispatcher.claimRequest (newLeaseToken entropy)) clock) (by rintro other third _ _ event ⟨⟩)
      exact { proceeded with }
  | locks id claim next rest now running waiting room unlocked qualifies =>
      refine ordered.proceeds id ((ordered.claims id claim running).lock waiting qualifies) ?_
      intro other third different theirs event member
      rcases List.mem_append.mp member with mine | new
      · exact ordered.exclusive id other claim third different running theirs event mine
      · obtain rfl := List.mem_singleton.mp new
        exact unlocked other third theirs
  | skips id claim next rest running waiting =>
      refine ordered.proceeds id ((ordered.claims id claim running).skip waiting) ?_
      intro other third different theirs
      exact ordered.exclusive id other claim third different running theirs
  | grants id claim clock events running finished read =>
      exact { ordered.granted id claim clock with }
  | unread id claim clock running finished => exact ordered.granted id claim clock
  | fails id claim running => exact ordered.releases id
  | accepts left right delivery running stage =>
      have logged := ordered.logs
        [{ event := delivery.event.id, what := .accepted delivery.leaseToken
           outbox := system.outbox }]
        (by
          intro entry member
          obtain rfl := List.mem_singleton.mp member
          rfl)
      exact { logged with }
  | refuses left right delivery running stage => exact { ordered with }
  | acknowledges left right delivery now running stage waits =>
      have completed := ordered.completes delivery .published delivery.event.id
        (fun row => row.markPublished now)
        ((markPublished_cases system.outbox _ now).imp_right
          fun ⟨row, found, held, done⟩ => ⟨row, found, held.2, done⟩)
        (fun row => .refl row) (fun done => .inr (waits done))
      exact { completed with }
  | defers left right delivery now running stage waits =>
      let failure := delivery.dispatcher.failure delivery.leaseToken delivery.event
      have completed := ordered.completes delivery .deferred delivery.event.id
        (fun row => row.markFailed failure now)
        ((markFailed_cases system.outbox failure now).imp_right
          fun ⟨row, found, held, done⟩ => ⟨row, found, held.2, done⟩)
        (fun row => .refl row) (fun _ => .inl fun row => OutboxRow.markFailed_unpublished _ now)
      exact { completed with }
  | abandons left right delivery running => exact { ordered with }

/-- The table only grows. -/
theorem later (ordered : Ordered system) (stepped : Step system after) :
    Later system.outbox after.outbox := by
  cases stepped with
  | commits id writer running => exact (ordered.writers id writer running).later
  | grants id claim clock => exact later_grant system.outbox claim.request clock claim.locked
  | unread id claim clock => exact later_grant system.outbox claim.request clock claim.locked
  | acknowledges left right delivery now =>
      show Later system.outbox (system.acknowledgement delivery now).2
      rcases markPublished_cases system.outbox
        (Dispatcher.completion delivery.leaseToken delivery.event) now with
        ⟨error, same⟩ | ⟨row, found, held, same⟩
      · rw [acknowledgement, same]
        exact .refl system.outbox
      · rw [acknowledgement, same]
        exact later_insert (fun row => row.markPublished now) found held.2 (.refl row)
  | defers left right delivery now =>
      let failure := delivery.dispatcher.failure delivery.leaseToken delivery.event
      show Later system.outbox (markFailed system.outbox failure now).2
      rcases markFailed_cases system.outbox failure now with
        ⟨error, same⟩ | ⟨row, found, held, same⟩
      · rw [same]
        exact .refl system.outbox
      · rw [same]
        exact later_insert (fun row => row.markFailed failure now) found held.2 (.refl row)
  | _ => exact .refl system.outbox

end Ordered

/-! ## Tokens -/

theorem fences_append (log entries : List LogEntry) (id : Int) :
    fences (log ++ entries) id = fences log id ++ fences entries id :=
  List.filterMap_append

theorem fences_granted {locked : List Int} (distinct : locked.Nodup) (token : String)
    (outbox : OutboxTable) (id : Int) :
    fences (locked.map fun event => { event := event, what := .granted token, outbox := outbox }) id =
      if id ∈ locked then [.granted token] else [] := by
  induction locked with
  | nil => rfl
  | cons event rest ih =>
      obtain ⟨absent, distinct⟩ := List.nodup_cons.mp distinct
      rw [List.map_cons, fences, List.filterMap_cons]
      by_cases here : event = id
      · subst here
        have rest := ih distinct
        rw [if_neg absent, fences] at rest
        rw [if_pos rfl, if_pos List.mem_cons_self, rest]
        rfl
      · have rest := ih distinct
        rw [fences] at rest
        simp only [if_neg here, rest, List.mem_cons, Ne.symm here, false_or]

structure Fenced (system : OutboxSystem π ι) : Prop where
  holder : ∀ id, Fence.holder (fences system.log id) =
    (system.outbox.lookup id).bind OutboxRow.leaseToken
  distinct : ∀ id, (Fence.grants (fences system.log id)).Nodup
  drawn : ∀ id, ∀ token ∈ Fence.grants (fences system.log id),
    token ∈ system.draws.map newLeaseToken
  requests : InEach system.claims fun claim => ∃ entropy ∈ system.draws,
    claim.request = claim.dispatcher.claimRequest (newLeaseToken entropy)
  unused : InEach system.claims fun claim => ∀ id,
    claim.request.leaseToken ∉ Fence.grants (fences system.log id)
  tokens : InEachTwo system.claims fun claim other =>
    claim.request.leaseToken ≠ other.request.leaseToken

namespace Fenced

/-- Lines that grant nothing. -/
theorem logs (fenced : Fenced system) (outbox : OutboxTable) {entries : List LogEntry}
    (nothing : ∀ id, Fence.grants (fences entries id) = [])
    (holder : ∀ id, Fence.holder (fences (system.log ++ entries) id) =
      (outbox.lookup id).bind OutboxRow.leaseToken) :
    Fenced { system with outbox := outbox, log := system.log ++ entries } := by
  have same (id : Int) : Fence.grants (fences (system.log ++ entries) id) =
      Fence.grants (fences system.log id) := by
    rw [fences_append, Fence.grants_append, nothing, List.append_nil]
  constructor
  case holder => exact holder
  case distinct =>
    intro id
    rw [same]
    exact fenced.distinct id
  case drawn =>
    intro id token
    rw [same]
    exact fenced.drawn id token
  case requests => exact fenced.requests
  case unused =>
    intro id claim running event
    rw [same]
    exact fenced.unused id claim running event
  case tokens => exact fenced.tokens

/-- A delivery's last statement releases the row, or does nothing. -/
theorem completes (fenced : Fenced system) (delivery : Delivery) (what : String → Happening)
    (released : ∀ token, (what token).fence = some .released)
    {statement : Except OutboxError Unit × OutboxTable} (change : OutboxRow → OutboxRow)
    (cases_ : (∃ error, statement = (.error error, system.outbox)) ∨
      ∃ row, system.outbox.lookup delivery.event.id = some row ∧
        statement = (.ok (), system.outbox.insert delivery.event.id (change row)))
    (unleased : ∀ row : OutboxRow, (change row).leaseToken = none) :
    Fenced (system.completing delivery what statement) := by
  rcases cases_ with ⟨error, rfl⟩ | ⟨row, found, rfl⟩
  · rw [completing, if_neg (by rintro ⟨⟩), List.append_nil]
    exact { fenced with }
  · rw [completing, if_pos rfl]
    have mine (id : Int) : fences
        [{ event := delivery.event.id, what := what delivery.leaseToken, outbox := system.outbox }] id =
          if delivery.event.id = id then [.released] else [] := by
      simp only [fences, List.filterMap_cons, List.filterMap_nil, released]
      by_cases here : delivery.event.id = id
      · rw [if_pos here, if_pos here]
      · rw [if_neg here, if_neg here]
    apply fenced.logs (system.outbox.insert delivery.event.id (change row))
    · intro id
      rw [mine]
      split
      next => rfl
      next => rfl
    · intro id
      rw [fences_append, mine, Table.lookup_insert]
      by_cases here : delivery.event.id = id
      · rw [if_pos here, if_pos here.symm, Fence.holder_append_one, Option.bind_some, unleased]
        rfl
      · rw [if_neg here, if_neg (Ne.symm here), List.append_nil]
        exact fenced.holder id

/-- A claim that something followed no longer holds its event. -/
theorem stale (fenced : Fenced system) {id : Int} {token : String}
    (superseded : Fence.Superseded (fences system.log id) token) (row : OutboxRow)
    (found : system.outbox.lookup id = some row) : ¬ row.HeldUnder token := by
  intro held
  apply Fence.holder_ne_superseded (fenced.distinct id) superseded
  rw [fenced.holder, found, Option.bind_some]
  exact held.1

variable [DecidableEq ι]

/-- The claim at its end takes its rows under a token nobody has used. -/
theorem granted (fenced : Fenced system) (ordered : Ordered system) {id : ι} {claim : ClaimStatement}
    (running : system.claims id = some claim) (clock : Int → Time) :
    Fenced (system.granting id claim clock) := by
  have distinct : claim.locked.Nodup :=
    (List.nodup_append.mp (ordered.claims id claim running).distinct).1
  have mine (event : Int) := fences_granted distinct claim.request.leaseToken system.outbox event
  have grants (event : Int) : Fence.grants (fences (system.granting id claim clock).log event) =
      Fence.grants (fences system.log event) ++
        if event ∈ claim.locked then [claim.request.leaseToken] else [] := by
    rw [granting, fences_append, Fence.grants_append, mine]
    split
    next => rfl
    next => rfl
  have unused := fenced.unused id claim running
  constructor
  case holder =>
    intro event
    rw [granting, fences_append, mine]
    show _ = ((grant system.outbox claim.request clock claim.locked).lookup event).bind _
    rw [grant, Table.lookup_update]
    by_cases here : event ∈ claim.locked
    · obtain ⟨row, found, unpublished⟩ := (ordered.claims id claim running).locked event here
      have leased := (OutboxRow.grant_unpublished (claim.request.lease (clock event)) unpublished).1
      rw [if_pos here, Fence.holder_append_one, found, Option.map_some, Option.bind_some, if_pos here,
        OutboxRow.leaseToken, leased]
      rfl
    · rw [if_neg here, List.append_nil, fenced.holder event]
      simp only [if_neg here, Option.map_id']
  case distinct =>
    intro event
    rw [grants]
    split
    next =>
      refine List.nodup_append.mpr ⟨fenced.distinct event, List.nodup_singleton _, ?_⟩
      intro token earlier other new
      obtain rfl := List.mem_singleton.mp new
      rintro rfl
      exact unused event earlier
    next =>
      rw [List.append_nil]
      exact fenced.distinct event
  case drawn =>
    intro event token member
    rw [grants] at member
    rcases List.mem_append.mp member with earlier | new
    · exact fenced.drawn event token earlier
    · split at new
      next =>
        obtain rfl := List.mem_singleton.mp new
        obtain ⟨entropy, drawn, same⟩ := fenced.requests id claim running
        rw [same]
        exact List.mem_map_of_mem drawn
      next => cases new
  case requests => exact fenced.requests.clear
  case unused =>
    intro other third theirs event
    rcases slot_cases theirs with ⟨_, ended⟩ | ⟨different, theirs⟩
    · cases ended
    · rw [grants, List.mem_append, not_or]
      refine ⟨fenced.unused other third theirs event, ?_⟩
      split
      next =>
        rw [List.mem_singleton]
        exact fenced.tokens other id third claim different theirs running
      next => exact List.not_mem_nil
  case tokens => exact fenced.tokens.clear fun _ _ => Ne.symm

/-- A claim whose request stays goes on. -/
theorem proceeds (fenced : Fenced system) {id : ι} {claim next : ClaimStatement}
    (running : system.claims id = some claim) (dispatcher : next.dispatcher = claim.dispatcher)
    (request : next.request = claim.request) : Fenced (system.claiming id (some next)) :=
  { fenced with
    requests := fenced.requests.update (by
      rintro _ ⟨⟩
      rw [dispatcher, request]
      exact fenced.requests id claim running)
    unused := fenced.unused.update (by
      rintro _ ⟨⟩
      rw [request]
      exact fenced.unused id claim running)
    tokens := fenced.tokens.update (fun _ _ => Ne.symm) (by
      rintro _ ⟨⟩ other third different theirs
      rw [request]
      exact fenced.tokens id other claim third different running theirs) }

variable [DecidableEq π]

theorem step (fenced : Fenced system) (ordered : Ordered system) (stepped : Step system after)
    (fresh : after.draws.Nodup) : Fenced after := by
  cases stepped with
  | opens id free => exact { fenced with }
  | holds id writer aggregate running free => exact { fenced with }
  | appends id writer aggregate eventType payload now running held => exact { fenced with }
  | commits id writer running =>
      have sound := ordered.writers id writer running
      refine { fenced with holder := ?_ }
      intro event
      show Fence.holder (fences system.log event) =
        ((writer.rows ∪ system.outbox : OutboxTable).lookup event).bind OutboxRow.leaseToken
      rw [fenced.holder event]
      cases found : system.outbox.lookup event with
      | some row => rw [sound.lookup_old found]
      | none =>
          cases present : (writer.rows ∪ system.outbox : OutboxTable).lookup event with
          | none => rfl
          | some row =>
              rcases lookup_commit.mp present with staged | ⟨_, there⟩
              · rw [Option.bind_none, Option.bind_some, OutboxRow.leaseToken, OutboxRow.lease,
                  (sound.fresh event row staged).1]
                rfl
              · rw [found] at there
                cases there
  | rollsBack id writer running => exact { fenced with }
  | claims id dispatcher entropy clock free =>
      have new : entropy ∉ system.draws :=
        fun member => (List.nodup_append.mp fresh).2.2 entropy member entropy
          (List.mem_singleton.mpr rfl) rfl
      have newToken : newLeaseToken entropy ∉ system.draws.map newLeaseToken := by
        intro member
        obtain ⟨other, drawn, same⟩ := List.mem_map.mp member
        obtain rfl := newLeaseToken_injective same
        exact new drawn
      refine { fenced with drawn := ?_, requests := ?_, unused := ?_, tokens := ?_ }
      · intro event token member
        show token ∈ (system.draws ++ [entropy]).map newLeaseToken
        rw [List.map_append]
        exact List.mem_append_left _ (fenced.drawn event token member)
      · refine InEach.update ?_ ?_
        · intro other third theirs
          obtain ⟨earlier, drawn, same⟩ := fenced.requests other third theirs
          exact ⟨earlier, List.mem_append_left _ drawn, same⟩
        · rintro _ ⟨⟩
          exact ⟨entropy, List.mem_append_right _ (List.mem_singleton.mpr rfl), rfl⟩
      · refine fenced.unused.update ?_
        rintro _ ⟨⟩ event member
        exact newToken (fenced.drawn event _ member)
      · refine fenced.tokens.update (fun _ _ => Ne.symm) ?_
        rintro _ ⟨⟩ other third _ theirs same
        obtain ⟨earlier, drawn, request⟩ := fenced.requests other third theirs
        apply newToken
        show newLeaseToken entropy ∈ _
        rw [show newLeaseToken entropy = third.request.leaseToken from same, request]
        exact List.mem_map_of_mem drawn
  | locks id claim next rest now running waiting room unlocked qualifies =>
      exact fenced.proceeds running rfl rfl
  | skips id claim next rest running waiting => exact fenced.proceeds running rfl rfl
  | grants id claim clock events running finished read =>
      exact { fenced.granted ordered running clock with }
  | unread id claim clock running finished => exact fenced.granted ordered running clock
  | fails id claim running =>
      exact { fenced with
        requests := fenced.requests.clear
        unused := fenced.unused.clear
        tokens := fenced.tokens.clear fun _ _ => Ne.symm }
  | accepts left right delivery running stage =>
      have nothing (id : Int) : fences
          [{ event := delivery.event.id, what := .accepted delivery.leaseToken
             outbox := system.outbox }] id = [] := by
        simp only [fences, List.filterMap_cons, Happening.fence, ite_self, List.filterMap_nil]
      have logged := fenced.logs system.outbox (fun id => by rw [nothing]; rfl) (fun id => by
        rw [fences_append, nothing, List.append_nil]
        exact fenced.holder id)
      exact { logged with }
  | refuses left right delivery running stage => exact { fenced with }
  | acknowledges left right delivery now running stage waits =>
      have completed := fenced.completes delivery .published (fun _ => rfl)
        (fun row => row.markPublished now)
        ((markPublished_cases system.outbox
            (Dispatcher.completion delivery.leaseToken delivery.event) now).imp_right
          fun ⟨row, found, _, done⟩ => ⟨row, found, done⟩)
        (fun _ => rfl)
      exact { completed with }
  | defers left right delivery now running stage waits =>
      let failure := delivery.dispatcher.failure delivery.leaseToken delivery.event
      have completed := fenced.completes delivery .deferred (fun _ => rfl)
        (fun row => row.markFailed failure now)
        ((markFailed_cases system.outbox failure now).imp_right
          fun ⟨row, found, _, done⟩ => ⟨row, found, done⟩)
        (fun _ => rfl)
      exact { completed with }
  | abandons left right delivery running => exact { fenced with }

end Fenced

end OutboxSystem

end SlotsGame.Outbox
