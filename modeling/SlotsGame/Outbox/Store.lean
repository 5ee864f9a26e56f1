/-
# SlotsGame.Outbox.Store -- the outbox table and its three statements

`rgs_outbox` is a table of events under an increasing id.  The check constraint
`rgs_outbox_lease_state` lets only an unpublished row carry a lease, so the columns
`published_at`, `lease_owner`, `lease_token` and `lease_until` are one value here.

A claim reads its candidates from one snapshot and then locks them one by one;
`candidates` and `qualifies` are its two reads, `grant` its write.  The other two
statements touch one row and are functions of the table.
-/
import Mathlib.Data.List.Sort
import SlotsGame.Text
import SlotsGame.Rgs.Types
import SlotsGame.Theory.Tables

namespace SlotsGame.Outbox

open SlotsGame.Rgs SlotsGame.Text SlotsGame.Theory

set_option autoImplicit false

/-! ## Rows and events -/

/-- `ErrInvalidInput`, `ErrLeaseLost` and `ErrInvariant`. -/
inductive OutboxError
  | invalidInput | leaseLost | invariant
  deriving DecidableEq, Repr

def millisecond : Duration := 1000000

/-- `durationMilliseconds` -/
def durationMilliseconds (duration : Duration) : Int := (duration + millisecond - 1) / millisecond

/-- The members of a JSON object, each with its raw value. -/
abbrev JsonObject := List (String × String)

structure Aggregate where
  operatorID : String
  aggregateType : String
  aggregateID : String
  deriving DecidableEq

structure Lease where
  owner : String
  token : String
  leaseUntil : Time
  deriving DecidableEq

inductive Publication
  | pending (lease : Option Lease)
  | published (publishedAt : Time)
  deriving DecidableEq

structure OutboxRow where
  aggregate : Aggregate
  eventType : String
  payload : JsonObject
  createdAt : Time
  availableAt : Time
  publication : Publication
  attempts : Nat
  lastError : Option String
  deriving DecidableEq

/-- `outbox.Event` -/
structure Event where
  id : Int
  aggregate : Aggregate
  eventType : String
  payload : JsonObject
  createdAt : Time
  availableAt : Time
  leaseUntil : Time
  attempts : Nat
  deriving DecidableEq

abbrev OutboxTable := Table Int OutboxRow

namespace OutboxRow

def Unpublished (row : OutboxRow) : Prop := ∃ lease, row.publication = .pending lease

instance (row : OutboxRow) : Decidable row.Unpublished :=
  match same : row.publication with
  | .pending lease => .isTrue ⟨lease, same⟩
  | .published _ => .isFalse fun ⟨_, other⟩ => by rw [same] at other; cases other

def lease (row : OutboxRow) : Option Lease :=
  match row.publication with
  | .pending lease => lease
  | .published _ => none

def leaseToken (row : OutboxRow) : Option String := row.lease.map Lease.token

/-- What no statement of the server changes. -/
def SameEvent (row other : OutboxRow) : Prop :=
  row.aggregate = other.aggregate ∧ row.eventType = other.eventType ∧ row.payload = other.payload ∧
    row.createdAt = other.createdAt

end OutboxRow

/-! ## Claim -/

structure ClaimRequest where
  owner : String
  leaseToken : String
  leaseDuration : Duration
  limit : Nat
  deriving DecidableEq

def maximumOutboxBatch : Nat := 1000

/-- `2147483647`, the largest attempt count. -/
def maximumAttempts : Nat := 2147483647

def ClaimRequest.Valid (request : ClaimRequest) : Prop :=
  identifierPattern request.owner = true ∧ identifierPattern request.leaseToken = true ∧
    millisecond ≤ request.leaseDuration ∧ request.leaseDuration ≤ 2 * Duration.hour ∧
    1 ≤ request.limit ∧ request.limit ≤ maximumOutboxBatch

instance (request : ClaimRequest) : Decidable request.Valid :=
  inferInstanceAs (Decidable (_ ∧ _))

namespace OutboxRow

/-- The conditions of the claim on the row itself. -/
def Due (row : OutboxRow) (now : Time) : Prop :=
  row.Unpublished ∧ row.availableAt ≤ now ∧ (∀ lease ∈ row.lease, lease.leaseUntil ≤ now) ∧
    row.attempts < maximumAttempts

instance (row : OutboxRow) (now : Time) : Decidable (row.Due now) :=
  inferInstanceAs (Decidable (_ ∧ _))

end OutboxRow

/-- `NOT EXISTS` an unpublished predecessor in the aggregate. -/
def Unblocked (outbox : OutboxTable) (id : Int) (row : OutboxRow) : Prop :=
  ∀ other ∈ outbox.rows, other.2.aggregate = row.aggregate → other.1 < id → ¬ other.2.Unpublished

instance (outbox : OutboxTable) (id : Int) (row : OutboxRow) : Decidable (Unblocked outbox id row) :=
  inferInstanceAs (Decidable (∀ other ∈ outbox.rows, _))

/-- `ORDER BY pending.available_at, pending.id` -/
def ClaimOrder (left right : Int × OutboxRow) : Prop :=
  left.2.availableAt < right.2.availableAt ∨
    left.2.availableAt = right.2.availableAt ∧ left.1 ≤ right.1

instance : DecidableRel ClaimOrder :=
  fun _ _ => inferInstanceAs (Decidable (_ ∨ _))

/-- The candidates in one snapshot, in the order in which they are locked.  Each row has
its own reading of `clock_timestamp()`. -/
def candidates (snapshot : OutboxTable) (clock : Int → Time) : List Int :=
  ((snapshot.rows.filter fun row =>
    decide (row.2.Due (clock row.1) ∧ Unblocked snapshot row.1 row.2)).insertionSort ClaimOrder).map
      Prod.fst

/-- Whether a candidate still qualifies once it is locked: a row that was changed since the
snapshot is looked at again, its predecessors are not. -/
def Qualifies (snapshot outbox : OutboxTable) (now : Time) (id : Int) : Prop :=
  outbox.lookup id = snapshot.lookup id ∨ ∃ row ∈ outbox.lookup id, row.Due now

/-- What the claim writes to a row it has locked. -/
def OutboxRow.grant (row : OutboxRow) (lease : Lease) : OutboxRow :=
  match row.publication with
  | .pending _ => { row with publication := .pending (some lease), attempts := row.attempts + 1 }
  | .published _ => row

def ClaimRequest.lease (request : ClaimRequest) (now : Time) : Lease :=
  { owner := request.owner, token := request.leaseToken
    leaseUntil := now + durationMilliseconds request.leaseDuration * millisecond }

/-- The update of the locked rows. -/
def grant (outbox : OutboxTable) (request : ClaimRequest) (clock : Int → Time) (locked : List Int) :
    OutboxTable :=
  outbox.update fun id row => if id ∈ locked then row.grant (request.lease (clock id)) else row

/-- One returned row. -/
def OutboxRow.event (row : OutboxRow) (id : Int) : Event :=
  { id := id, aggregate := row.aggregate, eventType := row.eventType, payload := row.payload
    createdAt := row.createdAt, availableAt := row.availableAt
    leaseUntil := (row.lease.map Lease.leaseUntil).getD 0, attempts := row.attempts }

/-- `validClaimedEvent`; that the payload is a JSON object is in its type. -/
def validClaimedEvent (event : Event) : Bool :=
  decide (0 < event.id) && decide (1 ≤ event.attempts) &&
    identifierPattern event.aggregate.operatorID && identifierPattern event.aggregate.aggregateType &&
    identifierPattern event.aggregate.aggregateID && identifierPattern event.eventType &&
    decide (event.createdAt ≠ 0) && decide (event.availableAt ≠ 0) && decide (event.leaseUntil ≠ 0)

/-- What the rows of the answer are read as. -/
def claimed (outbox : OutboxTable) (locked : List Int) : Except OutboxError (List Event) :=
  let events := locked.filterMap fun id => (outbox.lookup id).map fun row => row.event id
  if events.all validClaimedEvent then .ok events else .error .invariant

/-! ## MarkPublished and MarkFailed -/

structure Completion where
  eventID : Int
  leaseToken : String
  deriving DecidableEq

structure Failure where
  eventID : Int
  leaseToken : String
  retryAfter : Duration
  code : String
  deriving DecidableEq

/-- `^[A-Z][A-Z0-9_]{0,127}$` -/
def outboxFailurePattern (text : String) : Bool :=
  matchesPattern Char.isUpper (fun c => upperAlphanum c || c == '_') 0 127 text

def Completion.Valid (completion : Completion) : Prop :=
  0 < completion.eventID ∧ identifierPattern completion.leaseToken = true

instance (completion : Completion) : Decidable completion.Valid :=
  inferInstanceAs (Decidable (_ ∧ _))

def Failure.Valid (failure : Failure) : Prop :=
  0 < failure.eventID ∧ identifierPattern failure.leaseToken = true ∧
    millisecond ≤ failure.retryAfter ∧ failure.retryAfter ≤ 24 * Duration.hour ∧
    outboxFailurePattern failure.code = true

instance (failure : Failure) : Decidable failure.Valid :=
  inferInstanceAs (Decidable (_ ∧ _))

/-- `WHERE id = $1 AND lease_token = $2 AND published_at IS NULL` -/
def OutboxRow.HeldUnder (row : OutboxRow) (token : String) : Prop :=
  row.leaseToken = some token ∧ row.Unpublished

instance (row : OutboxRow) (token : String) : Decidable (row.HeldUnder token) :=
  inferInstanceAs (Decidable (_ ∧ _))

/-- The rows an update of one held row affects, and the table it leaves. -/
def updateHeld (outbox : OutboxTable) (id : Int) (token : String) (change : OutboxRow → OutboxRow) :
    Nat × OutboxTable :=
  match outbox.lookup id with
  | some row => if row.HeldUnder token then (1, outbox.insert id (change row)) else (0, outbox)
  | none => (0, outbox)

/-- `requireOutboxLease` -/
def requireOutboxLease (rows : Nat) : Except OutboxError Unit :=
  if rows = 0 then .error .leaseLost else if rows ≠ 1 then .error .invariant else .ok ()

def OutboxRow.markPublished (row : OutboxRow) (now : Time) : OutboxRow :=
  { row with publication := .published now, lastError := none }

def OutboxRow.markFailed (row : OutboxRow) (failure : Failure) (now : Time) : OutboxRow :=
  { row with
    availableAt := now + durationMilliseconds failure.retryAfter * millisecond
    publication := .pending none, lastError := some failure.code }

/-- `MarkPublished` -/
def markPublished (outbox : OutboxTable) (completion : Completion) (now : Time) :
    Except OutboxError Unit × OutboxTable :=
  if ¬ completion.Valid then (.error .invalidInput, outbox)
  else
    let (rows, after) := updateHeld outbox completion.eventID completion.leaseToken fun row =>
      row.markPublished now
    (requireOutboxLease rows, after)

/-- `MarkFailed` -/
def markFailed (outbox : OutboxTable) (failure : Failure) (now : Time) :
    Except OutboxError Unit × OutboxTable :=
  if ¬ failure.Valid then (.error .invalidInput, outbox)
  else
    let (rows, after) := updateHeld outbox failure.eventID failure.leaseToken fun row =>
      row.markFailed failure now
    (requireOutboxLease rows, after)

/-! ## What the statements do -/

namespace OutboxRow

variable {row : OutboxRow} {lease : Lease} {token : String}

theorem SameEvent.refl (row : OutboxRow) : row.SameEvent row := ⟨rfl, rfl, rfl, rfl⟩

theorem SameEvent.trans {first second third : OutboxRow} (left : first.SameEvent second)
    (right : second.SameEvent third) : first.SameEvent third :=
  ⟨left.1.trans right.1, left.2.1.trans right.2.1, left.2.2.1.trans right.2.2.1,
    left.2.2.2.trans right.2.2.2⟩

theorem grant_same : row.SameEvent (row.grant lease) := by
  unfold grant
  split <;> exact SameEvent.refl row

theorem grant_unpublished (lease : Lease) (unpublished : row.Unpublished) :
    (row.grant lease).lease = some lease ∧ (row.grant lease).Unpublished := by
  obtain ⟨earlier, same⟩ := unpublished
  rw [grant, same]
  exact ⟨rfl, some lease, rfl⟩

theorem grant_published (published : ¬ row.Unpublished) : row.grant lease = row := by
  unfold grant
  split
  next earlier same => exact absurd ⟨earlier, same⟩ published
  next => rfl

theorem markFailed_unpublished (failure : Failure) (now : Time) :
    (row.markFailed failure now).Unpublished :=
  ⟨none, rfl⟩

end OutboxRow

section Statements

variable {outbox : OutboxTable} {id : Int} {token : String} {change : OutboxRow → OutboxRow}

theorem updateHeld_held {row : OutboxRow} (found : outbox.lookup id = some row)
    (held : row.HeldUnder token) :
    updateHeld outbox id token change = (1, outbox.insert id (change row)) := by
  rw [updateHeld, found]
  exact if_pos held

theorem updateHeld_other (other : ∀ row, outbox.lookup id = some row → ¬ row.HeldUnder token) :
    updateHeld outbox id token change = (0, outbox) := by
  unfold updateHeld
  split
  next row found => exact if_neg (other row found)
  next => rfl

/-- An acknowledgement under a token the row is not held under changes nothing. -/
theorem markPublished_other {completion : Completion} (now : Time)
    (other : ∀ row, outbox.lookup completion.eventID = some row →
      ¬ row.HeldUnder completion.leaseToken) :
    markPublished outbox completion now =
      (.error (if completion.Valid then .leaseLost else .invalidInput), outbox) := by
  unfold markPublished
  by_cases valid : completion.Valid
  · rw [if_neg (not_not.mpr valid), updateHeld_other other, if_pos valid]
    rfl
  · rw [if_pos valid, if_neg valid]

theorem markFailed_other {failure : Failure} (now : Time)
    (other : ∀ row, outbox.lookup failure.eventID = some row → ¬ row.HeldUnder failure.leaseToken) :
    markFailed outbox failure now =
      (.error (if failure.Valid then .leaseLost else .invalidInput), outbox) := by
  unfold markFailed
  by_cases valid : failure.Valid
  · rw [if_neg (not_not.mpr valid), updateHeld_other other, if_pos valid]
    rfl
  · rw [if_pos valid, if_neg valid]

/-- Nothing is published but a row held under the token. -/
theorem markPublished_cases (outbox : OutboxTable) (completion : Completion) (now : Time) :
    (∃ error, markPublished outbox completion now = (.error error, outbox)) ∨
      ∃ row, outbox.lookup completion.eventID = some row ∧ row.HeldUnder completion.leaseToken ∧
        markPublished outbox completion now =
          (.ok (), outbox.insert completion.eventID (row.markPublished now)) := by
  by_cases held : ∃ row, outbox.lookup completion.eventID = some row ∧
      row.HeldUnder completion.leaseToken
  · obtain ⟨row, found, held⟩ := held
    by_cases valid : completion.Valid
    · refine .inr ⟨row, found, held, ?_⟩
      rw [markPublished, if_neg (not_not.mpr valid), updateHeld_held found held]
      rfl
    · exact .inl ⟨_, by rw [markPublished, if_pos valid]⟩
  · refine .inl ⟨_, markPublished_other now ?_⟩
    intro row found under
    exact held ⟨row, found, under⟩

theorem markFailed_cases (outbox : OutboxTable) (failure : Failure) (now : Time) :
    (∃ error, markFailed outbox failure now = (.error error, outbox)) ∨
      ∃ row, outbox.lookup failure.eventID = some row ∧ row.HeldUnder failure.leaseToken ∧
        markFailed outbox failure now =
          (.ok (), outbox.insert failure.eventID (row.markFailed failure now)) := by
  by_cases held : ∃ row, outbox.lookup failure.eventID = some row ∧
      row.HeldUnder failure.leaseToken
  · obtain ⟨row, found, held⟩ := held
    by_cases valid : failure.Valid
    · refine .inr ⟨row, found, held, ?_⟩
      rw [markFailed, if_neg (not_not.mpr valid), updateHeld_held found held]
      rfl
    · exact .inl ⟨_, by rw [markFailed, if_pos valid]⟩
  · refine .inl ⟨_, markFailed_other now ?_⟩
    intro row found under
    exact held ⟨row, found, under⟩

theorem mem_candidates {snapshot : OutboxTable} {clock : Int → Time} :
    id ∈ candidates snapshot clock ↔
      ∃ row, snapshot.lookup id = some row ∧ row.Due (clock id) ∧ Unblocked snapshot id row := by
  rw [candidates, List.mem_map]
  constructor
  · rintro ⟨⟨other, row⟩, member, rfl⟩
    rw [List.mem_insertionSort, List.mem_filter, decide_eq_true_iff] at member
    exact ⟨row, Table.mem_rows.mp member.1, member.2⟩
  · rintro ⟨row, found, fits⟩
    refine ⟨(id, row), ?_, rfl⟩
    rw [List.mem_insertionSort, List.mem_filter, decide_eq_true_iff]
    exact ⟨Table.mem_rows.mpr found, fits⟩

end Statements

end SlotsGame.Outbox
