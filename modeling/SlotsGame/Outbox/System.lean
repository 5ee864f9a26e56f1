/-
# SlotsGame.Outbox.System -- writers, claims and deliveries interleaved

Writers append events in transactions of their own, and a writer locks the
session or round an event is about before it draws the event's id.  Any number
of passes claim at once: a claim takes its snapshot, locks its candidates one by
one, skips those it cannot have and writes them all at its end.  The events it
hands over are delivered independently of each other.

Every statement may fail and every answer may be lost; a delivery may be given up at any
point, which is also what a crash does to all deliveries of a process.
-/
import SlotsGame.Outbox.Dispatcher
import SlotsGame.Theory.Fencing
import SlotsGame.Theory.Runs
import SlotsGame.Theory.Slots

namespace SlotsGame.Outbox

open SlotsGame.Rgs SlotsGame.Theory

set_option autoImplicit false

/-! ## State -/

/-- A transaction that writes events: the aggregates whose owner it has locked, and
its rows, which nobody else sees yet. -/
structure Writer where
  held : List Aggregate
  rows : OutboxTable

/-- A claim in flight: the candidates it has not looked at, and the rows it has locked. -/
structure ClaimStatement where
  dispatcher : Dispatcher
  request : ClaimRequest
  snapshot : OutboxTable
  pending : List Int
  locked : List Int

/-- How far `deliver` has come. -/
inductive Stage
  | claimed | accepted | refused
  deriving DecidableEq

structure Delivery where
  dispatcher : Dispatcher
  leaseToken : String
  event : Event
  stage : Stage

/-- What the log tells about an event: it was claimed, the publisher took it, it was
marked published, it was deferred. -/
inductive Happening
  | granted (token : String)
  | accepted (token : String)
  | published (token : String)
  | deferred (token : String)
  deriving DecidableEq

/-- One line of the log, with the table as it stood before. -/
structure LogEntry where
  event : Int
  what : Happening
  outbox : OutboxTable

def Happening.fence : Happening → Option (Fence String)
  | granted token => some (.granted token)
  | accepted _ => none
  | published _ => some .released
  | deferred _ => some .released

/-- The claims of one event and their ends. -/
def fences (log : List LogEntry) (id : Int) : List (Fence String) :=
  log.filterMap fun entry => if entry.event = id then entry.what.fence else none

structure OutboxSystem (π ι : Type) where
  outbox : OutboxTable
  nextID : Int
  writers : π → Option Writer
  claims : ι → Option ClaimStatement
  deliveries : List Delivery
  draws : List Entropy
  log : List LogEntry

namespace OutboxSystem

variable {π ι : Type}

/-- The server before its first step. -/
def start (outbox : OutboxTable) (nextID : Int) : OutboxSystem π ι :=
  { outbox := outbox, nextID := nextID, writers := fun _ => none, claims := fun _ => none
    deliveries := [], draws := [], log := [] }

/-- No claim in flight has locked the row. -/
def Unlocked (system : OutboxSystem π ι) (id : Int) : Prop :=
  ∀ other claim, system.claims other = some claim → id ∉ claim.locked

/-- The row of `insertOutbox`. -/
def newRow (aggregate : Aggregate) (eventType : String) (payload : JsonObject) (now : Time) :
    OutboxRow :=
  { aggregate := aggregate, eventType := eventType, payload := payload, createdAt := now
    availableAt := now, publication := .pending none, attempts := 0, lastError := none }

variable [DecidableEq π] [DecidableEq ι]

def writing (system : OutboxSystem π ι) (id : π) (writer : Option Writer) : OutboxSystem π ι :=
  { system with writers := Function.update system.writers id writer }

def claiming (system : OutboxSystem π ι) (id : ι) (claim : Option ClaimStatement) :
    OutboxSystem π ι :=
  { system with claims := Function.update system.claims id claim }

/-- The claim is written and its locks are gone. -/
def granting (system : OutboxSystem π ι) (id : ι) (claim : ClaimStatement) (clock : Int → Time) :
    OutboxSystem π ι :=
  { system.claiming id none with
    outbox := grant system.outbox claim.request clock claim.locked
    log := system.log ++ claim.locked.map fun event =>
      { event := event, what := .granted claim.request.leaseToken, outbox := system.outbox } }

/-- A delivery has completed its claim: `result` and `after` are the statement's. -/
def completing (system : OutboxSystem π ι) (delivery : Delivery) (what : String → Happening)
    (statement : Except OutboxError Unit × OutboxTable) : OutboxSystem π ι :=
  { system with
    outbox := statement.2
    log := system.log ++
      if statement.1 = .ok () then
        [{ event := delivery.event.id, what := what delivery.leaseToken, outbox := system.outbox }]
      else [] }

/-- `MarkPublished` as `deliver` calls it. -/
def acknowledgement (system : OutboxSystem π ι) (delivery : Delivery) (now : Time) :
    Except OutboxError Unit × OutboxTable :=
  markPublished system.outbox (Dispatcher.completion delivery.leaseToken delivery.event) now

/-- `MarkFailed` as `deliver` calls it. -/
def deferral (system : OutboxSystem π ι) (delivery : Delivery) (now : Time) :
    Except OutboxError Unit × OutboxTable :=
  markFailed system.outbox (delivery.dispatcher.failure delivery.leaseToken delivery.event) now

/-! ## Steps -/

inductive Step (system : OutboxSystem π ι) : OutboxSystem π ι → Prop
  | opens (id : π) (free : system.writers id = none) :
      Step system (system.writing id (some { held := [], rows := ∅ }))
  -- the row lock on the session or round, held to the end of the transaction
  | holds (id : π) (writer : Writer) (aggregate : Aggregate)
      (running : system.writers id = some writer)
      (free : ∀ other third, system.writers other = some third → aggregate ∉ third.held) :
      Step system (system.writing id (some { writer with held := aggregate :: writer.held }))
  | appends (id : π) (writer : Writer) (aggregate : Aggregate) (eventType : String)
      (payload : JsonObject) (now : Time) (running : system.writers id = some writer)
      (held : aggregate ∈ writer.held) :
      Step system
        { system.writing id
            (some { writer with
              rows := writer.rows.insert system.nextID (newRow aggregate eventType payload now) })
          with nextID := system.nextID + 1 }
  | commits (id : π) (writer : Writer) (running : system.writers id = some writer) :
      Step system { system.writing id none with outbox := writer.rows ∪ system.outbox }
  | rollsBack (id : π) (writer : Writer) (running : system.writers id = some writer) :
      Step system (system.writing id none)
  | claims (id : ι) (dispatcher : Dispatcher) (entropy : Entropy) (clock : Int → Time)
      (free : system.claims id = none) :
      Step system
        { system.claiming id
            (some { dispatcher := dispatcher
                    request := dispatcher.claimRequest (newLeaseToken entropy)
                    snapshot := system.outbox
                    pending := candidates system.outbox clock
                    locked := [] })
          with draws := system.draws ++ [entropy] }
  | locks (id : ι) (claim : ClaimStatement) (next : Int) (rest : List Int) (now : Time)
      (running : system.claims id = some claim) (waiting : claim.pending = next :: rest)
      (room : claim.locked.length < claim.request.limit) (unlocked : system.Unlocked next)
      (qualifies : Qualifies claim.snapshot system.outbox now next) :
      Step system
        (system.claiming id (some { claim with pending := rest, locked := claim.locked ++ [next] }))
  -- another statement holds the row, or it has changed and no longer qualifies
  | skips (id : ι) (claim : ClaimStatement) (next : Int) (rest : List Int)
      (running : system.claims id = some claim) (waiting : claim.pending = next :: rest) :
      Step system (system.claiming id (some { claim with pending := rest }))
  | grants (id : ι) (claim : ClaimStatement) (clock : Int → Time) (events : List Event)
      (running : system.claims id = some claim)
      (finished : claim.pending = [] ∨ claim.locked.length = claim.request.limit)
      (read : claimed (grant system.outbox claim.request clock claim.locked) claim.locked = .ok events) :
      Step system
        { system.granting id claim clock with
          deliveries := system.deliveries ++ events.map fun event =>
            { dispatcher := claim.dispatcher, leaseToken := claim.request.leaseToken
              event := event, stage := .claimed } }
  -- the answer of the claim is lost, or a row of it is refused
  | unread (id : ι) (claim : ClaimStatement) (clock : Int → Time)
      (running : system.claims id = some claim)
      (finished : claim.pending = [] ∨ claim.locked.length = claim.request.limit) :
      Step system (system.granting id claim clock)
  | fails (id : ι) (claim : ClaimStatement) (running : system.claims id = some claim) :
      Step system (system.claiming id none)
  | accepts (left right : List Delivery) (delivery : Delivery)
      (running : system.deliveries = left ++ delivery :: right)
      (stage : delivery.stage = .claimed) :
      Step system
        { system with
          deliveries := left ++ { delivery with stage := .accepted } :: right
          log := system.log ++
            [{ event := delivery.event.id, what := .accepted delivery.leaseToken
               outbox := system.outbox }] }
  -- the publisher fails, panics or runs out of time
  | refuses (left right : List Delivery) (delivery : Delivery)
      (running : system.deliveries = left ++ delivery :: right)
      (stage : delivery.stage = .claimed) :
      Step system { system with deliveries := left ++ { delivery with stage := .refused } :: right }
  -- the statement waits for a lock on the row it changes
  | acknowledges (left right : List Delivery) (delivery : Delivery) (now : Time)
      (running : system.deliveries = left ++ delivery :: right)
      (stage : delivery.stage = .accepted)
      (waits : (system.acknowledgement delivery now).1 = .ok () → system.Unlocked delivery.event.id) :
      Step system
        { system.completing delivery .published (system.acknowledgement delivery now) with
          deliveries := left ++ right }
  | defers (left right : List Delivery) (delivery : Delivery) (now : Time)
      (running : system.deliveries = left ++ delivery :: right)
      (stage : delivery.stage = .refused)
      (waits : (system.deferral delivery now).1 = .ok () → system.Unlocked delivery.event.id) :
      Step system
        { system.completing delivery .deferred (system.deferral delivery now) with
          deliveries := left ++ right }
  | abandons (left right : List Delivery) (delivery : Delivery)
      (running : system.deliveries = left ++ delivery :: right) :
      Step system { system with deliveries := left ++ right }

end OutboxSystem

end SlotsGame.Outbox
