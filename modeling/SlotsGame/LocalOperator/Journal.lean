/-
# SlotsGame.LocalOperator.Journal -- the audit journal of the local operator

Envelopes, one to a line, in an active file and the archives that it was renamed to.  The
index of what was accepted lives in memory only and is read back from the files when the
store opens; `Kept` is what both agree on, `Kept.append` and `Kept.opened` say that appending
keeps it and that opening recovers it.

The files are listed by the stamps of the archives, which the clock gives at a rotation.
A clock that stepped back lists an archive before an older one.
-/
import Mathlib.Algebra.BigOperators.Group.List.Basic
import Mathlib.Algebra.Ring.Int.Defs
import Mathlib.Data.List.Sort
import SlotsGame.LocalOperator.Envelope
import SlotsGame.Theory.Effects
import SlotsGame.Theory.Lines

namespace SlotsGame.LocalOperator

open SlotsGame.Theory

set_option autoImplicit false

/-! ## Files -/

abbrev Bytes := List UInt8

/-- `'\n'` -/
def lineFeed : UInt8 := 10

/-- `'\r'` -/
def carriageReturn : UInt8 := 13

/-- A sealed segment, by the nanosecond in its name. -/
structure Archive where
  stamp : Nat
  content : Bytes

/-- The directory of a journal. -/
structure Files where
  archives : List Archive := []
  active : Bytes := []

inductive JournalError
  | limits
  | constraints
  | idempotencyConflict
  | seek
  | rotate
  | exhausted
  | write
  | sync
  | incomplete
  | scan
  | invalid
  | conflicting
  | capacity
  deriving DecidableEq

/-- `JSONLSegments`: the archives by name, then the active file. -/
def jsonlSegments (files : Files) : List Bytes :=
  (files.archives.insertionSort fun left right => left.stamp ≤ right.stamp).map Archive.content ++
    [files.active]

/-- What a call of `Write` does: the bytes that reach the file, and whether it fails. -/
structure Written where
  bytes : Nat
  fails : Bool

/-- `writeFileFull`: the calls in turn, of which those after the listed ones write all. -/
def writeFileFull : List Written → Bytes → Bytes → Except JournalError Unit × Bytes
  | _, file, [] => (.ok (), file)
  | [], file, encoded => (.ok (), file ++ encoded)
  | call :: calls, file, encoded =>
      let file := file ++ encoded.take call.bytes
      if call.fails then (.error .write, file)
      else if call.bytes = 0 then (.error .write, file)
      else writeFileFull calls file (encoded.drop call.bytes)

/-- How a rotation goes, when no archive has its name yet. -/
inductive Rotation
  | done
  | syncFails
  | inspectFails
  | sealFails
  | openFails
  | closeFails
  deriving DecidableEq

/-- `rotateJSONLSegment`: a rename that is not followed by a new file is taken back. -/
def rotateJSONLSegment (rotation : Rotation) (now : Nat) (files : Files) :
    Except JournalError Unit × Files :=
  if rotation = .syncFails then (.error .rotate, files)
  else if rotation = .inspectFails ∨ now ∈ files.archives.map Archive.stamp then
    (.error .rotate, files)
  else if rotation = .sealFails then (.error .rotate, files)
  else if rotation = .openFails then (.error .rotate, files)
  else
    let rotated := { archives := files.archives ++ [⟨now, files.active⟩], active := [] }
    if rotation = .closeFails then (.error .rotate, rotated) else (.ok (), rotated)

/-! ## The store -/

/-- What the store is opened with. -/
structure Limits where
  maximum : Int
  fileLimit : Int
  segment : Int
  /-- `int(s.maximum)+1` does not wrap: every caller passes at most `1<<20`. -/
  narrow : maximum < 2 ^ 63 - 1

/-- `time.Parse(time.RFC3339Nano, ·)` in nanoseconds since the zero `time.Time`, and SHA-256
in hexadecimal digits. -/
structure Codec where
  parseTime : String → Option Int
  sha256 : Bytes → String

structure AuditJSONLStore where
  files : Files
  total : Int
  accepted : String → Option String

/-- What fails during a call of `Append`, and the clock's reading if it rotates. -/
structure Faults where
  seek : Bool := false
  rotation : Rotation := .done
  now : Nat := 0
  writes : List Written := []
  sync : Bool := false

section Store

variable (codec : Codec) (limits : Limits)

/-- The bytes that the scanner holds at most, a line feed among them. -/
def Limits.token (limits : Limits) : Int := max 65536 (limits.maximum + 1)

/-- `dropCR` of bufio -/
def dropCR (line : Bytes) : Bytes :=
  if line.getLast? = some carriageReturn then line.dropLast else line

/-- One line of `rebuildIndex`. -/
def indexLine (accepted : String → Option String) (line : Bytes) :
    Except JournalError (String → Option String) := do
  refuse (line.length + 1 > limits.token) JournalError.scan
  let encoded := dropCR line
  match decodeAuditEnvelope codec.parseTime encoded with
  | none => throw .invalid
  | some event =>
      let digest := codec.sha256 encoded
      refuse (∃ previous ∈ accepted event.id, previous ≠ digest) JournalError.conflicting
      pure (Function.update accepted event.id (some digest))

/-- One segment of `rebuildIndex`. -/
def indexSegment (index : Int × (String → Option String)) (segment : Bytes) :
    Except JournalError (Int × (String → Option String)) := do
  refuse (complete lineFeed segment = false) JournalError.incomplete
  let accepted ← (scanned lineFeed [] segment).foldlM (indexLine codec limits) index.2
  pure (index.1 + segment.length, accepted)

/-- `rebuildIndex` -/
def rebuildIndex (files : Files) : Except JournalError (Int × (String → Option String)) := do
  refuse (limits.maximum ≤ 0 ∨ limits.fileLimit ≤ 0 ∨ limits.segment ≤ 0 ∨
    limits.segment > limits.fileLimit) JournalError.limits
  let index ← (jsonlSegments files).foldlM (indexSegment codec limits) (0, fun _ => none)
  refuse (index.1 > limits.fileLimit) JournalError.capacity
  pure index

/-- `openJSONLStoreWithSegment` -/
def openJSONLStore (files : Files) : Except JournalError AuditJSONLStore := do
  let index ← rebuildIndex codec limits files
  pure { files, total := index.1, accepted := index.2 }

/-- The part of `Append` that writes a line at the end of the active file. -/
def AuditJSONLStore.write (store : AuditJSONLStore) (eventID : String) (encoded : Bytes)
    (start : Nat) (faults : Faults) : Except JournalError Bool × AuditJSONLStore :=
  let line := encoded ++ [lineFeed]
  if line.length > limits.fileLimit - store.total then (.error .exhausted, store)
  else
    match writeFileFull faults.writes store.files.active line with
    | (.error error, active) =>
        (.error error, { store with files := { store.files with active := active.take start } })
    | (.ok (), active) =>
        if faults.sync then
          (.error .sync, { store with files := { store.files with active := active.take start } })
        else
          (.ok true,
            { files := { store.files with active }
              total := store.total + line.length
              accepted := Function.update store.accepted eventID (some (codec.sha256 encoded)) })

/-- `Append` -/
def AuditJSONLStore.append (store : AuditJSONLStore) (eventID : String) (encoded : Bytes)
    (faults : Faults) : Except JournalError Bool × AuditJSONLStore :=
  if encoded.length > limits.maximum ∨ carriageReturn ∈ encoded ∨ lineFeed ∈ encoded then
    (.error .constraints, store)
  else
    match store.accepted eventID with
    | some previous =>
        if previous ≠ codec.sha256 encoded then (.error .idempotencyConflict, store)
        else (.ok false, store)
    | none =>
        if faults.seek then (.error .seek, store)
        else
          let start := store.files.active.length
          if start > 0 ∧ start + (encoded.length + 1) > limits.segment then
            match rotateJSONLSegment faults.rotation faults.now store.files with
            | (.error error, files) => (.error error, { store with files })
            | (.ok (), files) => { store with files }.write codec limits eventID encoded 0 faults
          else store.write codec limits eventID encoded start faults

/-! ## Writing a line -/

/-- The files once the active one is sealed. -/
def Files.rotated (files : Files) (now : Nat) : Files :=
  { archives := files.archives ++ [⟨now, files.active⟩], active := [] }

theorem writeFileFull_ends (calls : List Written) (file encoded : Bytes) :
    ∃ written, (writeFileFull calls file encoded).2 = file ++ written ∧
      ((writeFileFull calls file encoded).1 = .ok () → written = encoded) := by
  induction calls generalizing file encoded with
  | nil =>
      refine ⟨encoded, ?_, fun _ => rfl⟩
      cases encoded <;> simp [writeFileFull]
  | cons call calls ih =>
      cases encoded with
      | nil => exact ⟨[], by simp [writeFileFull], fun _ => rfl⟩
      | cons first rest =>
          rw [writeFileFull]
          · split
            · exact ⟨_, rfl, fun wrong => by cases wrong⟩
            · split
              · exact ⟨_, rfl, fun wrong => by cases wrong⟩
              · obtain ⟨written, ends, full⟩ := ih (file ++ (first :: rest).take call.bytes)
                  ((first :: rest).drop call.bytes)
                refine ⟨(first :: rest).take call.bytes ++ written, ?_, fun ok => ?_⟩
                · rw [ends, List.append_assoc]
                · rw [full ok, List.take_append_drop]
          · exact List.cons_ne_nil _ _

theorem rotateJSONLSegment_cases (rotation : Rotation) (now : Nat) (files : Files) :
    (∃ error, rotateJSONLSegment rotation now files = (.error error, files)) ∨
      (∃ error, rotateJSONLSegment rotation now files = (.error error, files.rotated now)) ∨
      rotateJSONLSegment rotation now files = (.ok (), files.rotated now) := by
  unfold rotateJSONLSegment
  split
  · exact .inl ⟨_, rfl⟩
  split
  · exact .inl ⟨_, rfl⟩
  split
  · exact .inl ⟨_, rfl⟩
  split
  · exact .inl ⟨_, rfl⟩
  · dsimp only
    split
    · exact .inr (.inl ⟨_, rfl⟩)
    · exact .inr (.inr rfl)

/-- The store with a line at the end of its active file. -/
def AuditJSONLStore.stored (store : AuditJSONLStore) (eventID : String) (encoded : Bytes) :
    AuditJSONLStore where
  files := { store.files with active := store.files.active ++ (encoded ++ [lineFeed]) }
  total := store.total + (encoded.length + 1)
  accepted := Function.update store.accepted eventID (some (codec.sha256 encoded))

/-- What fails is truncated away. -/
theorem AuditJSONLStore.write_cases (store : AuditJSONLStore) (eventID : String)
    (encoded : Bytes) (faults : Faults) {start : Nat} (end_ : start = store.files.active.length) :
    (∃ error, store.write codec limits eventID encoded start faults = (.error error, store)) ∨
      (store.total + (encoded.length + 1) ≤ limits.fileLimit ∧
        store.write codec limits eventID encoded start faults =
          (.ok true, store.stored codec eventID encoded)) := by
  subst end_
  unfold AuditJSONLStore.write
  dsimp only
  split
  · exact .inl ⟨_, rfl⟩
  rename_i room
  obtain ⟨written, ends, full⟩ :=
    writeFileFull_ends faults.writes store.files.active (encoded ++ [lineFeed])
  have truncated : (store.files.active ++ written).take store.files.active.length =
      store.files.active := List.take_left
  split
  · rename_i error active wrote
    rw [wrote] at ends
    refine .inl ⟨error, ?_⟩
    dsimp only at ends
    rw [ends, truncated]
  · rename_i active wrote
    rw [wrote] at ends full
    dsimp only at ends
    split
    · refine .inl ⟨.sync, ?_⟩
      rw [ends, truncated]
    · refine .inr ⟨?_, ?_⟩
      · simp only [List.length_append, List.length_singleton, gt_iff_lt, not_lt] at room
        push_cast at room
        omega
      · rw [ends, full rfl]
        simp [AuditJSONLStore.stored]

/-- What a call of `Append` does. -/
inductive Appended (store : AuditJSONLStore) (eventID : String) (encoded : Bytes) (now : Nat) :
    Except JournalError Bool × AuditJSONLStore → Prop
  | refused (error : JournalError) : Appended store eventID encoded now (.error error, store)
  | known (same : store.accepted eventID = some (codec.sha256 encoded)) :
      Appended store eventID encoded now (.ok false, store)
  | rotated (error : JournalError) (absent : store.accepted eventID = none) :
      Appended store eventID encoded now
        (.error error, { store with files := store.files.rotated now })
  | stored (files : Files) (segment : files = store.files ∨ files = store.files.rotated now)
      (absent : store.accepted eventID = none)
      (short : (encoded.length : Int) ≤ limits.maximum)
      (unbroken : carriageReturn ∉ encoded ∧ lineFeed ∉ encoded)
      (room : store.total + (encoded.length + 1) ≤ limits.fileLimit) :
      Appended store eventID encoded now
        (.ok true, { store with files }.stored codec eventID encoded)

theorem AuditJSONLStore.append_cases (store : AuditJSONLStore) (eventID : String)
    (encoded : Bytes) (faults : Faults) :
    Appended codec limits store eventID encoded faults.now
      (store.append codec limits eventID encoded faults) := by
  unfold AuditJSONLStore.append
  split
  · exact .refused _
  rename_i constraints
  simp only [gt_iff_lt, not_or, not_lt] at constraints
  obtain ⟨short, unbroken⟩ := constraints
  cases found : store.accepted eventID with
  | some previous =>
      dsimp only
      split
      · exact .refused _
      · rename_i same
        exact .known (by rw [found, not_not.mp same])
  | none =>
      dsimp only
      split
      · exact .refused _
      split
      · rcases rotateJSONLSegment_cases faults.rotation faults.now store.files with
          ⟨error, failed⟩ | ⟨error, failed⟩ | done
        · rw [failed]
          exact .refused error
        · rw [failed]
          exact .rotated error found
        · rw [done]
          dsimp only
          rcases @AuditJSONLStore.write_cases codec limits
              { store with files := store.files.rotated faults.now } eventID encoded faults 0 rfl
            with ⟨error, failed⟩ | ⟨room, written⟩
          · rw [failed]
            exact .rotated error found
          · rw [written]
            exact .stored _ (.inr rfl) found short unbroken room
      · rcases AuditJSONLStore.write_cases codec limits store eventID encoded faults rfl with
          ⟨error, failed⟩ | ⟨room, written⟩
        · rw [failed]
          exact .refused error
        · rw [written]
          exact .stored _ (.inl rfl) found short unbroken room

/-! ## What the files hold -/

/-- The lines of all segments. -/
def Files.lines (files : Files) : List Bytes :=
  (jsonlSegments files).flatMap (scanned lineFeed [])

/-- The event that a line is the envelope of. -/
def identifier (line : Bytes) : Option String :=
  (decodeAuditEnvelope codec.parseTime line).map AuditEnvelope.id

/-- An index that knows of each line its event and its digest, and of nothing else. -/
def Indexes (accepted : String → Option String) (lines : List Bytes) : Prop :=
  ∀ id digest, accepted id = some digest ↔
    ∃ line ∈ lines, identifier codec line = some id ∧ codec.sha256 line = digest

/-- A line as `Append` writes it. -/
structure Entry (line : Bytes) : Prop where
  short : (line.length : Int) ≤ limits.maximum
  unbroken : carriageReturn ∉ line
  named : (identifier codec line).isSome

/-- The index, the total and the files agree. -/
structure Kept (store : AuditJSONLStore) : Prop where
  whole : ∀ segment ∈ jsonlSegments store.files,
    segment = joined lineFeed (scanned lineFeed [] segment)
  entries : ∀ line ∈ store.files.lines, Entry codec limits line
  once : store.files.lines.Pairwise fun left right => identifier codec left ≠ identifier codec right
  indexed : Indexes codec store.accepted store.files.lines
  total : store.total = ((jsonlSegments store.files).map fun segment => (segment.length : Int)).sum
  bounded : store.total ≤ limits.fileLimit

theorem jsonlSegments_perm (files : Files) :
    (jsonlSegments files).Perm (files.archives.map Archive.content ++ [files.active]) :=
  ((List.perm_insertionSort _ files.archives).map Archive.content).append_right _

theorem rotated_segments (files : Files) (now : Nat) :
    (jsonlSegments (files.rotated now)).Perm (jsonlSegments files ++ [[]]) := by
  refine (jsonlSegments_perm _).trans (List.Perm.trans ?_
    ((jsonlSegments_perm files).symm.append_right [[]]))
  simp [Files.rotated]

theorem rotated_lines (files : Files) (now : Nat) :
    (files.rotated now).lines.Perm files.lines := by
  have segments := (rotated_segments files now).flatMap_right (scanned lineFeed [])
  simpa [Files.lines, scanned] using segments

theorem active_segments (files : Files) (active : Bytes) :
    ∃ sealed, jsonlSegments files = sealed ++ [files.active] ∧
      jsonlSegments { files with active } = sealed ++ [active] := ⟨_, rfl, rfl⟩

theorem insertionSort_concat {last : Archive} {archives : List Archive}
    (later : ∀ archive ∈ archives, archive.stamp < last.stamp) :
    (archives ++ [last]).insertionSort (fun left right => left.stamp ≤ right.stamp) =
      archives.insertionSort (fun left right => left.stamp ≤ right.stamp) ++ [last] := by
  induction archives with
  | nil => rfl
  | cons first rest ih =>
      have before : first.stamp ≤ last.stamp := (later first List.mem_cons_self).le
      rw [List.cons_append, List.insertionSort_cons,
        ih fun archive member => later archive (List.mem_cons_of_mem _ member),
        List.insertionSort_cons]
      induction rest.insertionSort fun left right => left.stamp ≤ right.stamp with
      | nil => simp [List.orderedInsert, before]
      | cons least more ih =>
          by_cases below : first.stamp ≤ least.stamp
          · simp [List.orderedInsert, below]
          · simpa [List.orderedInsert, below] using ih

/-- A segment sealed after all archives is listed after them. -/
theorem rotated_listed {files : Files} {now : Nat}
    (later : ∀ archive ∈ files.archives, archive.stamp < now) :
    jsonlSegments (files.rotated now) = jsonlSegments files ++ [[]] := by
  unfold jsonlSegments Files.rotated
  rw [@insertionSort_concat ⟨now, files.active⟩ files.archives later]
  simp

/-! ## Appending -/

theorem Indexes.absent {accepted : String → Option String} {lines : List Bytes}
    (indexed : Indexes codec accepted lines) {id : String} :
    accepted id = none ↔ ∀ line ∈ lines, identifier codec line ≠ some id := by
  constructor
  · intro absent line member named
    have found := (indexed id (codec.sha256 line)).mpr ⟨line, member, named, rfl⟩
    rw [absent] at found
    cases found
  · intro unnamed
    cases found : accepted id with
    | none => rfl
    | some digest =>
        obtain ⟨line, member, named, _⟩ := (indexed id digest).mp found
        exact absurd named (unnamed line member)

theorem Indexes.perm {accepted : String → Option String} {lines others : List Bytes}
    (indexed : Indexes codec accepted lines) (same : others.Perm lines) :
    Indexes codec accepted others := by
  intro id digest
  rw [indexed id digest]
  simp only [same.mem_iff]

theorem Indexes.unique {left right : String → Option String} {lines : List Bytes}
    (leftIndexed : Indexes codec left lines) (rightIndexed : Indexes codec right lines) :
    left = right := by
  funext id
  apply Option.ext
  intro digest
  exact (leftIndexed id digest).trans (rightIndexed id digest).symm

theorem Indexes.add {accepted : String → Option String} {lines : List Bytes}
    (indexed : Indexes codec accepted lines) {line : Bytes} {id : String}
    (named : identifier codec line = some id) (absent : accepted id = none) :
    Indexes codec (Function.update accepted id (some (codec.sha256 line))) (lines ++ [line]) := by
  have unnamed := (indexed.absent codec).mp absent
  intro other digest
  by_cases same : other = id
  · subst same
    rw [Function.update_self]
    constructor
    · intro found
      exact ⟨line, by simp, named, Option.some.inj found⟩
    · rintro ⟨found, member, foundNamed, rfl⟩
      rcases List.mem_append.mp member with old | new
      · exact absurd foundNamed (unnamed found old)
      · rw [List.mem_singleton.mp new]
  · rw [Function.update_of_ne same, indexed other digest]
    constructor
    · rintro ⟨found, member, rest⟩
      exact ⟨found, List.mem_append_left _ member, rest⟩
    · rintro ⟨found, member, foundNamed, rest⟩
      rcases List.mem_append.mp member with old | new
      · exact ⟨found, old, foundNamed, rest⟩
      · rw [List.mem_singleton.mp new, named] at foundNamed
        exact absurd (Option.some.inj foundNamed).symm same

theorem Kept.rotated {store : AuditJSONLStore} (kept : Kept codec limits store) (now : Nat) :
    Kept codec limits { store with files := store.files.rotated now } := by
  have segments := rotated_segments store.files now
  have lines := rotated_lines store.files now
  constructor
  · intro segment member
    rcases List.mem_append.mp (segments.mem_iff.mp member) with old | new
    · exact kept.whole segment old
    · rw [List.mem_singleton.mp new]
      rfl
  · exact fun line member => kept.entries line (lines.mem_iff.mp member)
  · exact (lines.pairwise_iff fun distinct => distinct.symm).mpr kept.once
  · exact kept.indexed.perm codec lines
  · rw [kept.total, (segments.map fun segment => (segment.length : Int)).sum_eq]
    simp
  · exact kept.bounded

theorem Kept.stored {store : AuditJSONLStore} (kept : Kept codec limits store) {eventID : String}
    {encoded : Bytes} (named : identifier codec encoded = some eventID)
    (absent : store.accepted eventID = none)
    (short : (encoded.length : Int) ≤ limits.maximum)
    (unbroken : carriageReturn ∉ encoded ∧ lineFeed ∉ encoded)
    (room : store.total + (encoded.length + 1) ≤ limits.fileLimit) :
    Kept codec limits (store.stored codec eventID encoded) := by
  obtain ⟨sealed, before, after⟩ :=
    active_segments store.files (store.files.active ++ (encoded ++ [lineFeed]))
  have old : store.files.active = joined lineFeed (scanned lineFeed [] store.files.active) :=
    kept.whole _ (by rw [before]; simp)
  have unscanned : ∀ line ∈ scanned lineFeed [] store.files.active, lineFeed ∉ line := by
    exact scanned_unbroken lineFeed List.not_mem_nil
  have new : store.files.active ++ (encoded ++ [lineFeed]) =
      joined lineFeed (scanned lineFeed [] store.files.active ++ [encoded]) := by
    rw [joined_append, ← old, joined_singleton]
  have read : scanned lineFeed [] (store.files.active ++ (encoded ++ [lineFeed])) =
      scanned lineFeed [] store.files.active ++ [encoded] := by
    rw [new, scanned_joined]
    intro line member
    rcases List.mem_append.mp member with early | last
    · exact unscanned line early
    · rw [List.mem_singleton.mp last]
      exact unbroken.2
  have lines : (store.stored codec eventID encoded).files.lines =
      store.files.lines ++ [encoded] := by
    change List.flatMap _ (jsonlSegments _) = List.flatMap _ (jsonlSegments _) ++ _
    rw [AuditJSONLStore.stored, after, before, List.flatMap_append, List.flatMap_append,
      List.flatMap_singleton, List.flatMap_singleton, read, List.append_assoc]
  have unnamed := (kept.indexed.absent codec).mp absent
  constructor
  · intro segment member
    rw [AuditJSONLStore.stored, after] at member
    rcases List.mem_append.mp member with early | last
    · exact kept.whole segment (by rw [before]; exact List.mem_append_left _ early)
    · rw [List.mem_singleton.mp last, read]
      exact new
  · rw [lines]
    intro line member
    rcases List.mem_append.mp member with early | last
    · exact kept.entries line early
    · rw [List.mem_singleton.mp last]
      exact ⟨short, unbroken.1, by rw [named]; rfl⟩
  · rw [lines, List.pairwise_append]
    refine ⟨kept.once, List.pairwise_singleton _ _, fun left member right last => ?_⟩
    rw [List.mem_singleton.mp last, named]
    exact unnamed left member
  · rw [lines]
    exact kept.indexed.add codec named absent
  · have total := kept.total
    rw [before] at total
    rw [AuditJSONLStore.stored, after]
    simp only [List.map_append, List.sum_append, List.map_singleton, List.sum_singleton,
      List.length_append, List.length_singleton] at total ⊢
    push_cast
    omega
  · exact room

/-! ## Opening -/

/-- The conditions that `rebuildIndex` puts on the limits. -/
def Limits.Sane : Prop :=
  ¬ (limits.maximum ≤ 0 ∨ limits.fileLimit ≤ 0 ∨ limits.segment ≤ 0 ∨
    limits.segment > limits.fileLimit)

theorem Entry.index {line : Bytes} (entry : Entry codec limits line)
    {accepted : String → Option String} {id : String}
    (named : identifier codec line = some id) (absent : accepted id = none) :
    indexLine codec limits accepted line =
      .ok (Function.update accepted id (some (codec.sha256 line))) := by
  have held : ¬ (line.length : Int) + 1 > limits.token := by
    have short := entry.short
    unfold Limits.token
    omega
  have undropped : dropCR line = line := by
    unfold dropCR
    rw [if_neg]
    intro last
    exact entry.unbroken (List.mem_of_getLast? last)
  obtain ⟨event, decoded, rfl⟩ := Option.map_eq_some_iff.mp named
  unfold indexLine
  rw [undropped]
  dsimp only
  rw [decoded]
  simp [refuse, held, absent]
  rfl

theorem indexLines_kept {front lines : List Bytes} {accepted : String → Option String}
    (entries : ∀ line ∈ lines, Entry codec limits line)
    (once : (front ++ lines).Pairwise fun left right => identifier codec left ≠ identifier codec right)
    (indexed : Indexes codec accepted front) :
    ∃ after, lines.foldlM (indexLine codec limits) accepted = .ok after ∧
      Indexes codec after (front ++ lines) := by
  induction lines generalizing front accepted with
  | nil => exact ⟨accepted, rfl, by rwa [List.append_nil]⟩
  | cons line rest ih =>
      have entry := entries line List.mem_cons_self
      obtain ⟨id, named⟩ := Option.isSome_iff_exists.mp entry.named
      have absent : accepted id = none := by
        refine (indexed.absent codec).mpr fun old member same => ?_
        exact (List.pairwise_append.mp once).2.2 old member line List.mem_cons_self
          (same.trans named.symm)
      rw [List.append_cons] at once ⊢
      obtain ⟨after, folded, final⟩ := ih (fun other member =>
        entries other (List.mem_cons_of_mem _ member)) once (indexed.add codec named absent)
      exact ⟨after, by rw [List.foldlM_cons, entry.index codec limits named absent]; exact folded,
        final⟩

theorem indexSegments_kept {front : List Bytes} {segments : List Bytes} {total : Int}
    {accepted : String → Option String}
    (whole : ∀ segment ∈ segments, segment = joined lineFeed (scanned lineFeed [] segment))
    (entries : ∀ line ∈ segments.flatMap (scanned lineFeed []), Entry codec limits line)
    (once : (front ++ segments.flatMap (scanned lineFeed [])).Pairwise fun left right =>
      identifier codec left ≠ identifier codec right)
    (indexed : Indexes codec accepted front) :
    ∃ after, segments.foldlM (indexSegment codec limits) (total, accepted) =
        .ok (total + (segments.map fun segment => (segment.length : Int)).sum, after) ∧
      Indexes codec after (front ++ segments.flatMap (scanned lineFeed [])) := by
  induction segments generalizing front total accepted with
  | nil => exact ⟨accepted, by simp, by simpa using indexed⟩
  | cons segment rest ih =>
      rw [List.flatMap_cons] at entries once ⊢
      rw [← List.append_assoc] at once ⊢
      have ends : complete lineFeed segment = true := by
        rw [whole segment List.mem_cons_self]
        exact complete_joined lineFeed _
      obtain ⟨middle, read, known⟩ := indexLines_kept codec limits
        (fun line member => entries line (List.mem_append_left _ member))
        (List.pairwise_append.mp once).1 indexed
      obtain ⟨after, folded, final⟩ := @ih (front ++ scanned lineFeed [] segment)
        (total + segment.length) middle
        (fun other member => whole other (List.mem_cons_of_mem _ member))
        (fun line member => entries line (List.mem_append_right _ member)) once known
      have first : indexSegment codec limits (total, accepted) segment =
          .ok (total + segment.length, middle) := by
        unfold indexSegment
        rw [read]
        simp [refuse, ends]
        rfl
      refine ⟨after, ?_, final⟩
      rw [List.foldlM_cons, first, List.map_cons, List.sum_cons, ← add_assoc]
      exact folded

theorem Kept.opened {store : AuditJSONLStore} (kept : Kept codec limits store)
    (sane : limits.Sane) : openJSONLStore codec limits store.files = .ok store := by
  have empty : Indexes codec (fun _ => none) [] := by
    intro id digest
    simp
  obtain ⟨after, folded, final⟩ := @indexSegments_kept codec limits [] (jsonlSegments store.files)
    0 (fun _ => none) kept.whole kept.entries kept.once empty
  have same : after = store.accepted := final.unique codec kept.indexed
  have fits : ¬ store.total > limits.fileLimit := by
    have bounded := kept.bounded
    omega
  rw [zero_add, ← kept.total, same] at folded
  have index : rebuildIndex codec limits store.files = .ok (store.total, store.accepted) := by
    refine bind_ok.mpr ⟨(), refuse_ok.mpr sane, ?_⟩
    exact bind_ok.mpr ⟨_, folded, bind_ok.mpr ⟨(), refuse_ok.mpr fits, rfl⟩⟩
  unfold openJSONLStore
  rw [index]
  rfl

theorem opened_sane {files : Files} {store : AuditJSONLStore}
    (opens : openJSONLStore codec limits files = .ok store) : limits.Sane := by
  unfold openJSONLStore rebuildIndex at opens
  obtain ⟨_, index, _⟩ := bind_ok.mp opens
  obtain ⟨_, sane, _⟩ := bind_ok.mp index
  exact refuse_ok.mp sane

/-! ## Runs -/

/-- The states of a store that was opened on no files, where every envelope comes under the
identifier that it names. -/
inductive Reached : AuditJSONLStore → Prop
  | opened {store : AuditJSONLStore} (opens : openJSONLStore codec limits {} = .ok store) :
      Reached store
  | appended {store : AuditJSONLStore} (reached : Reached store) {encoded : Bytes}
      {event : AuditEnvelope} (decoded : decodeAuditEnvelope codec.parseTime encoded = some event)
      (faults : Faults) : Reached (store.append codec limits event.id encoded faults).2
  | reopened {store after : AuditJSONLStore} (reached : Reached store)
      (opens : openJSONLStore codec limits store.files = .ok after) : Reached after

theorem Kept.append {store : AuditJSONLStore} (kept : Kept codec limits store) {eventID : String}
    {encoded : Bytes} (named : identifier codec encoded = some eventID) (faults : Faults) :
    Kept codec limits (store.append codec limits eventID encoded faults).2 := by
  have cases_ := AuditJSONLStore.append_cases codec limits store eventID encoded faults
  generalize store.append codec limits eventID encoded faults = answer at cases_
  cases cases_ with
  | refused error => exact kept
  | known same => exact kept
  | rotated error absent => exact kept.rotated codec limits faults.now
  | stored files segment absent short unbroken room =>
      rcases segment with rfl | rfl
      · exact kept.stored codec limits named absent short unbroken room
      · exact (kept.rotated codec limits faults.now).stored codec limits named absent short unbroken
          room

theorem Reached.kept {store : AuditJSONLStore} (reached : Reached codec limits store) :
    Kept codec limits store ∧ limits.Sane := by
  induction reached with
  | @opened store opens =>
      have sane := opened_sane codec limits opens
      have fresh : Kept codec limits { files := {}, total := 0, accepted := fun _ => none } := by
        have positive : 0 ≤ limits.fileLimit := by
          unfold Limits.Sane at sane
          omega
        constructor
        · intro segment member
          rw [List.mem_singleton.mp member]
          rfl
        · intro line member
          cases member
        · exact List.Pairwise.nil
        · intro id digest
          change none = some digest ↔ ∃ line ∈ ([] : List Bytes), _
          simp
        · rfl
        · exact positive
      have same := fresh.opened codec limits sane
      change openJSONLStore codec limits {} = _ at same
      rw [opens] at same
      exact ⟨Except.ok.inj same ▸ fresh, sane⟩
  | appended _ decoded faults ih =>
      exact ⟨ih.1.append codec limits (by rw [identifier, decoded]; rfl) faults, ih.2⟩
  | @reopened store after _ opens ih =>
      have same := ih.1.opened codec limits ih.2
      rw [opens] at same
      exact ⟨Except.ok.inj same ▸ ih.1, ih.2⟩

/-- The content of all segments, as they are listed. -/
def Files.journal (files : Files) : Bytes := (jsonlSegments files).flatten

/-- An append that is refused leaves the index and the total, and the journal too unless it
sealed a segment that is not listed last. -/
theorem append_refused {store : AuditJSONLStore} {eventID : String} {encoded : Bytes}
    {faults : Faults} {error : JournalError}
    (refused : (store.append codec limits eventID encoded faults).1 = .error error) :
    (store.append codec limits eventID encoded faults).2.accepted = store.accepted ∧
      (store.append codec limits eventID encoded faults).2.total = store.total ∧
      ((store.append codec limits eventID encoded faults).2.files.archives.length =
            store.files.archives.length ∨
          (∀ archive ∈ store.files.archives, archive.stamp < faults.now) →
        (store.append codec limits eventID encoded faults).2.files.journal =
          store.files.journal) := by
  have cases_ := AuditJSONLStore.append_cases codec limits store eventID encoded faults
  generalize store.append codec limits eventID encoded faults = answer at cases_ refused
  cases cases_ with
  | refused _ => exact ⟨rfl, rfl, fun _ => rfl⟩
  | known _ => cases refused
  | rotated _ _ =>
      refine ⟨rfl, rfl, fun ordered => ?_⟩
      rcases ordered with same | later
      · simp [Files.rotated] at same
      · change (jsonlSegments (store.files.rotated faults.now)).flatten = _
        rw [rotated_listed later, List.flatten_append]
        simp [Files.journal]
  | stored => cases refused

/-- A second body is refused, unless SHA-256 takes it for the first. -/
theorem second_body_refused {store : AuditJSONLStore}
    (indexed : Indexes codec store.accepted store.files.lines) {eventID : String} {line : Bytes}
    (member : line ∈ store.files.lines) (named : identifier codec line = some eventID)
    {encoded : Bytes} (other : codec.sha256 line ≠ codec.sha256 encoded) (faults : Faults) :
    ∃ error, store.append codec limits eventID encoded faults = (.error error, store) := by
  have found := (indexed eventID (codec.sha256 line)).mpr ⟨line, member, named, rfl⟩
  unfold AuditJSONLStore.append
  split
  · exact ⟨_, rfl⟩
  · simp [found, other]

/-- In every state of a journal, each event is stored once, the index and the total are those
of the files, and opening the files gives the same store; a second body is refused, and
what fails leaves the index, and the journal as far as the clock lists what was sealed. -/
theorem journal_sound {store : AuditJSONLStore} (reached : Reached codec limits store) :
    (∀ line ∈ store.files.lines, (identifier codec line).isSome) ∧
      (store.files.lines.Pairwise fun left right =>
        identifier codec left ≠ identifier codec right) ∧
      Indexes codec store.accepted store.files.lines ∧
      store.total = ((jsonlSegments store.files).map fun segment => (segment.length : Int)).sum ∧
      store.total ≤ limits.fileLimit ∧
      openJSONLStore codec limits store.files = .ok store ∧
      ∀ (eventID : String) (encoded : Bytes) (faults : Faults),
        (∀ line ∈ store.files.lines, identifier codec line = some eventID →
          line ≠ encoded → codec.sha256 line ≠ codec.sha256 encoded →
          ∃ error, store.append codec limits eventID encoded faults = (.error error, store)) ∧
        ∀ error, (store.append codec limits eventID encoded faults).1 = .error error →
          (store.append codec limits eventID encoded faults).2.accepted = store.accepted ∧
            (store.append codec limits eventID encoded faults).2.total = store.total ∧
            ((store.append codec limits eventID encoded faults).2.files.archives.length =
                  store.files.archives.length ∨
                (∀ archive ∈ store.files.archives, archive.stamp < faults.now) →
              (store.append codec limits eventID encoded faults).2.files.journal =
                store.files.journal) := by
  obtain ⟨kept, sane⟩ := reached.kept codec limits
  refine ⟨fun line member => (kept.entries line member).named, kept.once, kept.indexed,
    kept.total, kept.bounded, kept.opened codec limits sane, fun eventID encoded faults =>
      ⟨fun line member named _ other => ?_, fun error failed => ?_⟩⟩
  · exact second_body_refused codec limits kept.indexed member named other faults
  · exact append_refused codec limits failed

end Store

/-! ## A clock that steps back -/

def demoCodec : Codec where
  parseTime _ := some 1
  sha256 bytes := String.ofList (bytes.map fun byte => Char.ofNat byte.toNat)

/-- Two envelopes do not fit into one segment. -/
def demoLimits : Limits where
  maximum := 256
  fileLimit := 1024
  segment := 256
  narrow := by decide

def demoEnvelope (id : String) : Bytes :=
  encodeUtf8 ("\x7b\"schemaVersion\":\"rgs-outbox-http-v1\",\"id\":\"".toList ++ id.toList ++
    "\",\"operatorId\":\"o\",\"aggregateType\":\"a\",\"aggregateId\":\"1\",".toList ++
    "\"eventType\":\"e\",\"occurredAt\":\"\",\"payload\":\x7b\x7d\x7d".toList)

theorem demoEnvelope_decoded : ∀ id ∈ ["1", "2", "3"],
    (decodeAuditEnvelope demoCodec.parseTime (demoEnvelope id)).map AuditEnvelope.id = some id := by
  decide +kernel

/-- Nothing stored. -/
def emptyStore : AuditJSONLStore where
  files := {}
  total := 0
  accepted _ := none

/-- The first event sealed at five, and the second in the active file. -/
def sealedStore : AuditJSONLStore :=
  ((emptyStore.append demoCodec demoLimits "1" (demoEnvelope "1") {}).2.append demoCodec demoLimits
    "2" (demoEnvelope "2") { now := 5 }).2

theorem Reached.demo {store : AuditJSONLStore} (reached : Reached demoCodec demoLimits store)
    {id : String} (listed : id ∈ ["1", "2", "3"]) (faults : Faults) :
    Reached demoCodec demoLimits
      (store.append demoCodec demoLimits id (demoEnvelope id) faults).2 := by
  obtain ⟨event, decoded, rfl⟩ := Option.map_eq_some_iff.mp (demoEnvelope_decoded id listed)
  exact reached.appended decoded faults

theorem sealedStore_reached : Reached demoCodec demoLimits sealedStore := by
  have opened : Reached demoCodec demoLimits emptyStore := .opened rfl
  exact (opened.demo (by simp) {}).demo (by simp) { now := 5 }

theorem sealedStore_sound :
    openJSONLStore demoCodec demoLimits sealedStore.files = .ok sealedStore :=
  (journal_sound demoCodec demoLimits sealedStore_reached).2.2.2.2.2.1

/-- A write that fails after the clock stepped back lists the second event first; and an
envelope under an identifier that is not its own is not found again. -/
theorem stepped_clock_reorders :
    (∃ faults : Faults, Reached demoCodec demoLimits sealedStore ∧
      (sealedStore.append demoCodec demoLimits "3" (demoEnvelope "3") faults).1 = .error .write ∧
      (sealedStore.append demoCodec demoLimits "3" (demoEnvelope "3") faults).2.files.journal ≠
        sealedStore.files.journal) ∧
      (emptyStore.append demoCodec demoLimits "2" (demoEnvelope "1") {}).2.accepted "2" ≠ none ∧
      (openJSONLStore demoCodec demoLimits
        (emptyStore.append demoCodec demoLimits "2" (demoEnvelope "1") {}).2.files).map
          (fun store => store.accepted "2") = .ok none := by
  refine ⟨⟨{ now := 3, writes := [⟨0, true⟩] }, sealedStore_reached, ?_, ?_⟩, ?_, ?_⟩
  · decide +kernel
  · decide +kernel
  · decide +kernel
  · decide +kernel

end SlotsGame.LocalOperator
