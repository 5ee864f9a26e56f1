/-
# SlotsGame.Outbox.Ordering -- what every step keeps of the table

`Later` says how the table grows: no row goes away or changes its event, a published
row is final, and a new row has a larger id than every row of its aggregate.  The
last is what the writers' locks are for (`WriterSound`), and it is what makes a
claim's snapshot good enough: whatever commits after the snapshot is not a predecessor of
a candidate (`ClaimSound`).
-/
import SlotsGame.Outbox.System

namespace SlotsGame.Outbox

open SlotsGame.Rgs SlotsGame.Theory

set_option autoImplicit false

/-! ## Growth -/

structure Later (before after : OutboxTable) : Prop where
  kept : ∀ id row, before.lookup id = some row → ∃ row', after.lookup id = some row' ∧
    row.SameEvent row' ∧ (¬ row.Unpublished → row' = row)
  appended : ∀ id row, before.lookup id = none → after.lookup id = some row →
    ∀ other third, before.lookup other = some third → third.aggregate = row.aggregate → other < id

namespace Later

variable {first second third : OutboxTable}

theorem refl (outbox : OutboxTable) : Later outbox outbox :=
  { kept := fun _ row found => ⟨row, found, .refl row, fun _ => rfl⟩
    appended := by
      intro id row absent found
      rw [absent] at found
      cases found }

theorem trans (left : Later first second) (right : Later second third) : Later first third where
  kept := by
    intro id row found
    obtain ⟨middle, found', same, final⟩ := left.kept id row found
    obtain ⟨last, found'', same', final'⟩ := right.kept id middle found'
    refine ⟨last, found'', same.trans same', ?_⟩
    intro published
    obtain rfl := final published
    exact final' published
  appended := by
    intro id row absent found other earlier found' aggregate
    obtain ⟨middle, foundMiddle, same, _⟩ := left.kept other earlier found'
    cases present : second.lookup id with
    | none =>
        exact right.appended id row present found other middle foundMiddle (same.1.symm.trans aggregate)
    | some row' =>
        obtain ⟨last, foundLast, same', _⟩ := right.kept id row' present
        rw [found] at foundLast
        obtain rfl := Option.some.inj foundLast
        exact left.appended id row' absent present other earlier found' (aggregate.trans same'.1.symm)

/-- Rows change in place. -/
theorem of_change {before after : OutboxTable} (change : Int → OutboxRow → OutboxRow)
    (changed : ∀ id, after.lookup id = (before.lookup id).map (change id))
    (keeps : ∀ id row, before.lookup id = some row →
      row.SameEvent (change id row) ∧ (¬ row.Unpublished → change id row = row)) :
    Later before after where
  kept := by
    intro id row found
    refine ⟨change id row, ?_, keeps id row found⟩
    rw [changed, found, Option.map_some]
  appended := by
    intro id row absent found
    rw [changed, absent] at found
    cases found

/-- What was published stays so. -/
theorem published {before after : OutboxTable} (later : Later before after) {id : Int}
    {row : OutboxRow} (found : before.lookup id = some row) (published : ¬ row.Unpublished) :
    after.lookup id = some row := by
  obtain ⟨row', found', _, final⟩ := later.kept id row found
  rw [found', final published]

/-- A predecessor in the later table was there before. -/
theorem predecessor {before after : OutboxTable} (later : Later before after) {id other : Int}
    {row third : OutboxRow} (found : before.lookup id = some row)
    (found' : after.lookup other = some third) (aggregate : third.aggregate = row.aggregate)
    (smaller : other < id) :
    ∃ earlier, before.lookup other = some earlier ∧ earlier.aggregate = row.aggregate := by
  cases present : before.lookup other with
  | none =>
      have larger := later.appended other third present found' id row found aggregate.symm
      omega
  | some earlier =>
      obtain ⟨row', foundLater, same, _⟩ := later.kept other earlier present
      rw [found'] at foundLater
      obtain rfl := Option.some.inj foundLater
      exact ⟨earlier, rfl, same.1.trans aggregate⟩

end Later

theorem lookup_insert_change {outbox : OutboxTable} {id : Int} {row : OutboxRow}
    (found : outbox.lookup id = some row) (change : OutboxRow → OutboxRow) (other : Int) :
    (outbox.insert id (change row)).lookup other =
      (outbox.lookup other).map fun third => if other = id then change third else third := by
  rw [Table.lookup_insert]
  by_cases same : other = id
  · subst same
    simp only [if_pos, found, Option.map_some]
  · simp only [if_neg same, Option.map_id']

theorem later_insert {outbox : OutboxTable} {id : Int} {row : OutboxRow}
    (change : OutboxRow → OutboxRow) (found : outbox.lookup id = some row)
    (unpublished : row.Unpublished) (same : row.SameEvent (change row)) :
    Later outbox (outbox.insert id (change row)) := by
  apply Later.of_change (fun other third => if other = id then change third else third)
    (lookup_insert_change found change)
  intro other third found'
  by_cases here : other = id
  · subst here
    rw [found] at found'
    obtain rfl := Option.some.inj found'
    rw [if_pos rfl]
    exact ⟨same, fun published => absurd unpublished published⟩
  · rw [if_neg here]
    exact ⟨.refl third, fun _ => rfl⟩

theorem later_grant (outbox : OutboxTable) (request : ClaimRequest) (clock : Int → Time)
    (locked : List Int) : Later outbox (grant outbox request clock locked) := by
  apply Later.of_change _ (Table.lookup_update outbox _)
  intro id row _
  split
  next => exact ⟨OutboxRow.grant_same, OutboxRow.grant_published⟩
  next => exact ⟨.refl row, fun _ => rfl⟩

/-! ## Writers -/

/-- What a writer has staged goes to the end of its aggregates. -/
structure WriterSound (outbox : OutboxTable) (nextID : Int) (writer : Writer) : Prop where
  held : ∀ id row, writer.rows.lookup id = some row → row.aggregate ∈ writer.held
  numbered : ∀ id row, writer.rows.lookup id = some row → 0 < id ∧ id < nextID
  fresh : ∀ id row, writer.rows.lookup id = some row →
    row.publication = .pending none ∧ outbox.lookup id = none
  last : ∀ id row, writer.rows.lookup id = some row → ∀ other third,
    outbox.lookup other = some third → third.aggregate = row.aggregate → other < id

/-- Two writers hold different aggregates and draw different ids. -/
structure Apart (writer other : Writer) : Prop where
  held : ∀ aggregate ∈ writer.held, aggregate ∉ other.held
  rows : ∀ id row, writer.rows.lookup id = some row → other.rows.lookup id = none

theorem Apart.symm {writer other : Writer} (apart : Apart writer other) : Apart other writer where
  held := fun aggregate theirs mine => apart.held aggregate mine theirs
  rows := by
    intro id row theirs
    cases mine : writer.rows.lookup id with
    | none => rfl
    | some row' =>
        rw [apart.rows id row' mine] at theirs
        cases theirs

/-- A row of a union is a staged row, or one of the table's own. -/
theorem lookup_commit {writer : Writer} {outbox : OutboxTable} {id : Int} {row : OutboxRow} :
    (writer.rows ∪ outbox : OutboxTable).lookup id = some row ↔
      writer.rows.lookup id = some row ∨ (writer.rows.lookup id = none ∧ outbox.lookup id = some row) := by
  have absent : id ∉ writer.rows ↔ writer.rows.lookup id = none := AList.lookup_eq_none.symm
  rw [← Option.mem_def, AList.mem_lookup_union, absent]
  rfl

theorem lookup_commit_none {writer : Writer} {outbox : OutboxTable} {id : Int} :
    (writer.rows ∪ outbox : OutboxTable).lookup id = none ↔
      writer.rows.lookup id = none ∧ outbox.lookup id = none := by
  constructor
  · intro absent
    constructor
    · cases staged : writer.rows.lookup id with
      | none => rfl
      | some row =>
          rw [lookup_commit.mpr (.inl staged)] at absent
          cases absent
    · cases found : outbox.lookup id with
      | none => rfl
      | some row =>
          cases staged : writer.rows.lookup id with
          | none =>
              rw [lookup_commit.mpr (.inr ⟨staged, found⟩)] at absent
              cases absent
          | some row' =>
              rw [lookup_commit.mpr (.inl staged)] at absent
              cases absent
  · rintro ⟨staged, found⟩
    cases present : (writer.rows ∪ outbox : OutboxTable).lookup id with
    | none => rfl
    | some row =>
        rcases lookup_commit.mp present with here | ⟨_, here⟩
        · rw [staged] at here
          cases here
        · rw [found] at here
          cases here

namespace WriterSound

variable {outbox : OutboxTable} {nextID : Int} {writer other : Writer}

/-- A commit does not touch the rows that are there. -/
theorem lookup_old (sound : WriterSound outbox nextID writer) {id : Int} {row : OutboxRow}
    (found : outbox.lookup id = some row) :
    (writer.rows ∪ outbox : OutboxTable).lookup id = some row := by
  refine lookup_commit.mpr (.inr ⟨?_, found⟩)
  cases staged : writer.rows.lookup id with
  | none => rfl
  | some row' =>
      rw [(sound.fresh id row' staged).2] at found
      cases found

theorem later (sound : WriterSound outbox nextID writer) :
    Later outbox (writer.rows ∪ outbox : OutboxTable) where
  kept := fun _ row found => ⟨row, sound.lookup_old found, .refl row, fun _ => rfl⟩
  appended := by
    intro id row absent found
    rcases lookup_commit.mp found with staged | ⟨_, found⟩
    · exact sound.last id row staged
    · rw [absent] at found
      cases found

/-- Rows that change in place are nothing to a writer. -/
theorem keep (sound : WriterSound outbox nextID writer) {after : OutboxTable}
    (later : Later outbox after) (same : ∀ id, outbox.lookup id = none → after.lookup id = none) :
    WriterSound after nextID writer where
  held := sound.held
  numbered := sound.numbered
  fresh := fun id row staged =>
    ⟨(sound.fresh id row staged).1, same id (sound.fresh id row staged).2⟩
  last := by
    intro id row staged third third' found aggregate
    cases present : outbox.lookup third with
    | none =>
        rw [same third present] at found
        cases found
    | some earlier =>
        obtain ⟨row', found', sameEvent, _⟩ := later.kept third earlier present
        rw [found] at found'
        obtain rfl := Option.some.inj found'
        exact sound.last id row staged third earlier present (sameEvent.1.trans aggregate)

/-- The commit of another writer is nothing to a writer. -/
theorem beside (sound : WriterSound outbox nextID writer) (theirs : WriterSound outbox nextID other)
    (apart : Apart writer other) : WriterSound (other.rows ∪ outbox : OutboxTable) nextID writer where
  held := sound.held
  numbered := sound.numbered
  fresh := fun id row staged => ⟨(sound.fresh id row staged).1,
    lookup_commit_none.mpr ⟨apart.rows id row staged, (sound.fresh id row staged).2⟩⟩
  last := by
    intro id row staged third third' found aggregate
    rcases lookup_commit.mp found with theirRow | ⟨_, found⟩
    · have mine := sound.held id row staged
      have them := theirs.held third third' theirRow
      rw [aggregate] at them
      exact absurd them (apart.held row.aggregate mine)
    · exact sound.last id row staged third third' found aggregate

/-- The next id is larger than all there are. -/
theorem append (sound : WriterSound outbox nextID writer) {aggregate : Aggregate}
    (held : aggregate ∈ writer.held) (eventType : String) (payload : JsonObject) (now : Time)
    (positive : 0 < nextID) (numbered : ∀ id row, outbox.lookup id = some row → id < nextID) :
    WriterSound outbox (nextID + 1)
      { writer with
        rows := writer.rows.insert nextID (OutboxSystem.newRow aggregate eventType payload now) } := by
  have cases_ {id : Int} {row : OutboxRow}
      (staged : (writer.rows.insert nextID
        (OutboxSystem.newRow aggregate eventType payload now) : OutboxTable).lookup id = some row) :
      (id = nextID ∧ row = OutboxSystem.newRow aggregate eventType payload now) ∨
        writer.rows.lookup id = some row := by
    rw [Table.lookup_insert] at staged
    by_cases here : id = nextID
    · rw [if_pos here] at staged
      exact .inl ⟨here, (Option.some.inj staged).symm⟩
    · rw [if_neg here] at staged
      exact .inr staged
  have absent : outbox.lookup nextID = none := by
    cases found : outbox.lookup nextID with
    | none => rfl
    | some row => exact absurd (numbered nextID row found) (lt_irrefl nextID)
  constructor
  case held =>
    intro id row staged
    rcases cases_ staged with ⟨rfl, rfl⟩ | staged
    · exact held
    · exact sound.held id row staged
  case numbered =>
    intro id row staged
    rcases cases_ staged with ⟨rfl, rfl⟩ | staged
    · omega
    · have bounds := sound.numbered id row staged
      omega
  case fresh =>
    intro id row staged
    rcases cases_ staged with ⟨rfl, rfl⟩ | staged
    · exact ⟨rfl, absent⟩
    · exact sound.fresh id row staged
  case last =>
    intro id row staged other third found aggregate'
    rcases cases_ staged with ⟨rfl, rfl⟩ | staged
    · exact numbered other third found
    · exact sound.last id row staged other third found aggregate'

end WriterSound

/-! ## Claims -/

structure ClaimSound (outbox : OutboxTable) (claim : ClaimStatement) : Prop where
  later : Later claim.snapshot outbox
  distinct : (claim.locked ++ claim.pending).Nodup
  seen : ∀ id ∈ claim.locked ++ claim.pending, ∃ row, claim.snapshot.lookup id = some row ∧
    row.Unpublished ∧ Unblocked claim.snapshot id row
  locked : ∀ id ∈ claim.locked, ∃ row, outbox.lookup id = some row ∧ row.Unpublished

theorem candidates_nodup (snapshot : OutboxTable) (clock : Int → Time) :
    (candidates snapshot clock).Nodup := by
  have rows : (snapshot.rows.map Prod.fst).Nodup := by
    have distinct := Table.rows_distinct snapshot
    rw [List.Nodup, List.pairwise_map]
    exact distinct
  rw [candidates]
  have sorted := (List.perm_insertionSort ClaimOrder (snapshot.rows.filter fun row =>
    decide (row.2.Due (clock row.1) ∧ Unblocked snapshot row.1 row.2))).map Prod.fst
  rw [sorted.nodup_iff]
  exact rows.sublist (List.filter_sublist.map Prod.fst)

namespace ClaimSound

variable {outbox after : OutboxTable} {claim : ClaimStatement}

theorem begins (dispatcher : Dispatcher) (request : ClaimRequest) (clock : Int → Time) :
    ClaimSound outbox
      { dispatcher := dispatcher, request := request, snapshot := outbox
        pending := candidates outbox clock, locked := [] } where
  later := .refl outbox
  distinct := candidates_nodup outbox clock
  seen := by
    intro id member
    obtain ⟨row, found, due, unblocked⟩ := mem_candidates.mp member
    exact ⟨row, found, due.1, unblocked⟩
  locked := by
    intro id member
    cases member

/-- What others do leaves a claim sound, unless it publishes a row the claim has locked. -/
theorem keep (sound : ClaimSound outbox claim) (later : Later outbox after)
    (safe : ∀ id ∈ claim.locked, ∀ row, outbox.lookup id = some row → row.Unpublished →
      ∃ row', after.lookup id = some row' ∧ row'.Unpublished) :
    ClaimSound after claim where
  later := sound.later.trans later
  distinct := sound.distinct
  seen := sound.seen
  locked := by
    intro id member
    obtain ⟨row, found, unpublished⟩ := sound.locked id member
    exact safe id member row found unpublished

theorem skip (sound : ClaimSound outbox claim) {next : Int} {rest : List Int}
    (waiting : claim.pending = next :: rest) : ClaimSound outbox { claim with pending := rest } where
  later := sound.later
  distinct := by
    have distinct := sound.distinct
    rw [waiting] at distinct
    exact distinct.sublist ((List.sublist_cons_self next rest).append_left claim.locked)
  seen := by
    intro id member
    apply sound.seen
    rw [waiting]
    rcases List.mem_append.mp member with mine | waits
    · exact List.mem_append_left _ mine
    · exact List.mem_append_right _ (List.mem_cons_of_mem next waits)
  locked := sound.locked

theorem lock (sound : ClaimSound outbox claim) {next : Int} {rest : List Int} {now : Time}
    (waiting : claim.pending = next :: rest) (qualifies : Qualifies claim.snapshot outbox now next) :
    ClaimSound outbox { claim with pending := rest, locked := claim.locked ++ [next] } := by
  have same : claim.locked ++ claim.pending = (claim.locked ++ [next]) ++ rest := by
    rw [waiting, List.append_cons]
  constructor
  case later => exact sound.later
  case distinct =>
    have distinct := sound.distinct
    rw [same] at distinct
    exact distinct
  case seen =>
    intro id member
    apply sound.seen
    rw [same]
    exact member
  case locked =>
    intro id member
    rcases List.mem_append.mp member with mine | new
    · exact sound.locked id mine
    · obtain rfl := List.mem_singleton.mp new
      rcases qualifies with unchanged | ⟨row, found, due⟩
      · obtain ⟨row, found, unpublished, _⟩ := sound.seen id (by
          rw [waiting]
          exact List.mem_append_right _ List.mem_cons_self)
        rw [← unchanged] at found
        exact ⟨row, found, unpublished⟩
      · exact ⟨row, found, due.1⟩

/-- Every predecessor of a locked row is published. -/
theorem predecessors (sound : ClaimSound outbox claim) {id : Int} (member : id ∈ claim.locked) :
    ∃ row, outbox.lookup id = some row ∧ row.Unpublished ∧
      ∀ other third, outbox.lookup other = some third → third.aggregate = row.aggregate →
        other < id → ¬ third.Unpublished := by
  obtain ⟨row, found, unpublished⟩ := sound.locked id member
  obtain ⟨first, found', _, unblocked⟩ := sound.seen id (List.mem_append_left _ member)
  obtain ⟨row', foundLater, same, _⟩ := sound.later.kept id first found'
  rw [found] at foundLater
  obtain rfl := Option.some.inj foundLater
  refine ⟨row, found, unpublished, ?_⟩
  intro other third foundThird aggregate smaller
  obtain ⟨earlier, present, aggregate'⟩ := sound.later.predecessor found' foundThird
    (aggregate.trans same.1.symm) smaller
  have published := unblocked (other, earlier) (Table.mem_rows.mpr present) aggregate' smaller
  rw [sound.later.published present published] at foundThird
  obtain rfl := Option.some.inj foundThird
  exact published

end ClaimSound

end SlotsGame.Outbox
