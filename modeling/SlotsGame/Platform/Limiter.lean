/-
# SlotsGame.Platform.Limiter -- the rate limiter inside a process

A limiter keeps its buckets twice: under their keys, and in a list that the least
recently used one leads.  Both hold references to one heap, as in the source, so that
it means something to say that they hold the same buckets.

A bucket that has been idle is dropped, and its key starts again with a full one.  That
is what a token bucket would hold only if its burst flows in while it is idle:
`sound_iff` says that this is exactly when the limiter keeps its bound.
-/
import Mathlib.Algebra.Order.Ring.Rat
import Mathlib.Data.Finmap
import SlotsGame.Rgs.Types
import SlotsGame.Theory.Tables
import SlotsGame.Theory.TokenBucket

namespace SlotsGame.Platform

open SlotsGame.Rgs SlotsGame.Theory

set_option autoImplicit false

/-! ## The limiter -/

/-- `Time.Sub(...).Seconds()`, and an instant in seconds. -/
def seconds (duration : Duration) : ℚ := duration / Duration.second

structure Bucket where
  tokens : ℚ
  last : Time
  lastSeen : Time := 0
  key : String
  deriving DecidableEq

/-- A pointer to a bucket. -/
abbrev BucketRef := Nat

/-- The parameters of a limiter. -/
structure Limiter where
  rate : ℚ
  burst : Int
  maxKeys : Int
  idleExpiry : Duration

/-- The buckets of a limiter; `heap` are all that were ever allocated. -/
structure Buckets where
  heap : List Bucket := []
  buckets : Table String BucketRef := ∅
  idleOrder : List BucketRef := []

/-- `MoveToBack` -/
def moveToBack (order : List BucketRef) (ref : BucketRef) : List BucketRef :=
  if ref ∈ order then order.erase ref ++ [ref] else order

namespace Limiter

variable (limiter : Limiter)

/-- Allow can admit something. -/
def Admits : Prop :=
  0 < limiter.rate ∧ 1 ≤ limiter.burst ∧ 1 ≤ limiter.maxKeys ∧ 0 < limiter.idleExpiry

instance : Decidable limiter.Admits := inferInstanceAs (Decidable (_ ∧ _))

def cleanupExpired (now : Time) : Nat → Buckets → Buckets
  | 0, state => state
  | budget + 1, state =>
      match state.idleOrder with
      | [] => state
      | oldest :: rest =>
          match state.heap[oldest]? with
          | none => cleanupExpired now budget { state with idleOrder := rest }
          | some bucket =>
              if now - bucket.lastSeen < limiter.idleExpiry then state
              else
                cleanupExpired now budget
                  { state with buckets := state.buckets.erase bucket.key, idleOrder := rest }

/-- What flows in up to `now`, up to the burst. -/
def refill (bucket : Bucket) (now : Time) : Bucket :=
  if bucket.last < now then
    { bucket with
      tokens := min (limiter.burst : ℚ) (bucket.tokens + seconds (now - bucket.last) * limiter.rate)
      last := now }
  else bucket

/-- One call on a bucket that is there. -/
def draw (bucket : Bucket) (now : Time) : Bool × Bucket :=
  let bucket := { limiter.refill bucket now with lastSeen := now }
  if 1 ≤ bucket.tokens then (true, { bucket with tokens := bucket.tokens - 1 })
  else (false, bucket)

/-- The draw on a reference. -/
def drawAt (state : Buckets) (ref : BucketRef) (now : Time) : Bool × Buckets :=
  match state.heap[ref]? with
  | none => (false, state)
  | some bucket =>
      ((limiter.draw bucket now).1,
        { state with heap := state.heap.set ref (limiter.draw bucket now).2 })

/-- A full bucket for a key that has none. -/
def allocate (state : Buckets) (key : String) (now : Time) : Buckets :=
  { heap := state.heap ++ [{ tokens := limiter.burst, last := now, key := key }]
    buckets := state.buckets.insert key state.heap.length
    idleOrder := state.idleOrder ++ [state.heap.length] }

def allow (state : Buckets) (key : String) (now : Time) : Bool × Buckets :=
  if key = "" ∨ limiter.rate ≤ 0 ∨ limiter.burst < 1 ∨ limiter.maxKeys < 1 ∨
      limiter.idleExpiry ≤ 0 then (false, state)
  else
    let state := limiter.cleanupExpired now 64 state
    match state.buckets.lookup key with
    | none =>
        if (state.buckets.keys.length : Int) ≥ limiter.maxKeys then (false, state)
        else limiter.drawAt (limiter.allocate state key now) state.heap.length now
    | some ref =>
        limiter.drawAt { state with idleOrder := moveToBack state.idleOrder ref } ref now

/-- A call of `Allow`. -/
structure Call where
  key : String
  now : Time

/-- Calls one after the other, with what each was answered. -/
def run : Buckets → List Call → List (Call × Bool) × Buckets
  | state, [] => ([], state)
  | state, call :: rest =>
      let (allowed, after) := limiter.allow state call.key call.now
      let (answers, last) := run after rest
      ((call, allowed) :: answers, last)

end Limiter

/-! ## What it promises -/

/-- The map and the list hold the same buckets, each under its key. -/
structure Buckets.InStep (state : Buckets) : Prop where
  distinct : state.idleOrder.Nodup
  listed : ∀ key ref, state.buckets.lookup key = some ref ↔
    ref ∈ state.idleOrder ∧ ∃ bucket, state.heap[ref]? = some bucket ∧ bucket.key = key
  there : ∀ ref ∈ state.idleOrder, ∃ bucket, state.heap[ref]? = some bucket

/-- The list is ordered by last use. -/
def Buckets.Ordered (state : Buckets) : Prop :=
  state.idleOrder.Pairwise fun earlier later => ∀ bucket other,
    state.heap[earlier]? = some bucket → state.heap[later]? = some other →
      bucket.lastSeen ≤ other.lastSeen

/-- The calls of a key that were allowed from `first` to `last`, both included. -/
def allowedWithin (key : String) (first last : Time) (answers : List (Limiter.Call × Bool)) : Nat :=
  answers.countP fun (call, allowed) =>
    allowed && decide (call.key = key ∧ first ≤ call.now ∧ call.now ≤ last)

/-- What the limiter is for, along every sequence of calls at times that do not fall. -/
def Limiter.Sound (limiter : Limiter) : Prop :=
  ∀ calls : List Limiter.Call, calls.Pairwise (fun earlier later => earlier.now ≤ later.now) →
    ((limiter.run {} calls).2.buckets.keys.length : Int) ≤ limiter.maxKeys ∧
    (limiter.run {} calls).2.InStep ∧ (limiter.run {} calls).2.Ordered ∧
    ∀ key first last, first ≤ last →
      (allowedWithin key first last (limiter.run {} calls).1 : ℚ) ≤
        limiter.burst + limiter.rate * seconds (last - first)

/-! ## The map and the list -/

namespace Buckets

variable {limiter : Limiter} {state after : Buckets} {now : Time} {key : String}
  {ref oldest : BucketRef} {rest others : List BucketRef} {bucket : Bucket}

/-- The bucket of a key. -/
def find (state : Buckets) (key : String) : Option Bucket :=
  (state.buckets.lookup key).bind fun ref => state.heap[ref]?

/-- The invariant between two calls, the last of them not after `now`. -/
structure Formed (limiter : Limiter) (state : Buckets) (now : Time) : Prop where
  inStep : state.InStep
  ordered : state.Ordered
  bounded : (state.buckets.keys.length : Int) ≤ limiter.maxKeys
  seen : ∀ ref ∈ state.idleOrder, ∀ bucket, state.heap[ref]? = some bucket →
    bucket.last = bucket.lastSeen ∧ bucket.lastSeen ≤ now

theorem Formed.new (limiter : Limiter) (positive : 1 ≤ limiter.maxKeys) (now : Time) :
    Formed limiter {} now where
  inStep := ⟨List.nodup_nil, fun key ref => by simp, fun ref member => by cases member⟩
  ordered := List.Pairwise.nil
  bounded := by
    show ((0 : Nat) : Int) ≤ limiter.maxKeys
    omega
  seen ref member := by cases member

theorem Formed.later {later : Time} (formed : Formed limiter state now) (ordered : now ≤ later) :
    Formed limiter state later :=
  { formed with
    seen := fun ref member bucket found =>
      ⟨(formed.seen ref member bucket found).1,
        (formed.seen ref member bucket found).2.trans ordered⟩ }

theorem InStep.bucket_of_mem (inStep : state.InStep) (member : ref ∈ state.idleOrder)
    (found : state.heap[ref]? = some bucket) : state.find bucket.key = some bucket := by
  have listed := (inStep.listed bucket.key ref).mpr ⟨member, bucket, found, rfl⟩
  rw [Buckets.find, listed]
  exact found

/-- Two references to a key are one. -/
theorem InStep.ref_unique (inStep : state.InStep) {other : BucketRef} {third : Bucket}
    (member : ref ∈ state.idleOrder) (found : state.heap[ref]? = some bucket)
    (member' : other ∈ state.idleOrder) (found' : state.heap[other]? = some third)
    (same : third.key = bucket.key) : other = ref := by
  have listed := (inStep.listed bucket.key ref).mpr ⟨member, bucket, found, rfl⟩
  have listed' := (inStep.listed bucket.key other).mpr ⟨member', third, found', same⟩
  exact Option.some.inj (listed'.symm.trans listed)

/-- The least recently used bucket goes from the map and from the list. -/
theorem Formed.dropped (formed : Formed limiter state now)
    (order : state.idleOrder = oldest :: rest) (found : state.heap[oldest]? = some bucket) :
    Formed limiter { state with buckets := state.buckets.erase bucket.key, idleOrder := rest } now ∧
      ∀ key, Buckets.find { state with
          buckets := state.buckets.erase bucket.key, idleOrder := rest } key =
        if key = bucket.key then none else state.find key := by
  obtain ⟨inStep, ordered, bounded, seen⟩ := formed
  have distinct := inStep.distinct
  rw [order] at distinct
  have within {ref : BucketRef} (member : ref ∈ rest) : ref ∈ state.idleOrder := by
    rw [order]
    exact List.mem_cons_of_mem oldest member
  have first : oldest ∈ state.idleOrder := by
    rw [order]
    exact List.mem_cons_self
  have apart {ref : BucketRef} {other : Bucket} (member : ref ∈ rest)
      (found' : state.heap[ref]? = some other) : other.key ≠ bucket.key := by
    intro same
    have here := inStep.ref_unique first found (within member) found' same
    exact (List.nodup_cons.mp distinct).1 (here ▸ member)
  refine ⟨⟨⟨(List.nodup_cons.mp distinct).2, ?listed, fun ref member => inStep.there ref
    (within member)⟩, ?ordered, ?bounded, fun ref member => seen ref (within member)⟩, ?bucket⟩
  case listed =>
    intro key ref
    by_cases same : key = bucket.key
    · subst same
      simp only [AList.lookup_erase, reduceCtorEq, false_iff, not_and, not_exists]
      exact fun member other found' => apart member found'
    · rw [show AList.lookup key (state.buckets.erase bucket.key) = state.buckets.lookup key from
        AList.lookup_erase_ne same, inStep.listed, order]
      constructor
      · rintro ⟨member, other, found', keyed⟩
        rcases List.mem_cons.mp member with rfl | member
        · rw [found, Option.some.injEq] at found'
          exact absurd (keyed.symm.trans (congrArg Bucket.key found'.symm)) same
        · exact ⟨member, other, found', keyed⟩
      · rintro ⟨member, other, found', keyed⟩
        exact ⟨List.mem_cons_of_mem oldest member, other, found', keyed⟩
  case ordered =>
    have tail := ordered
    rw [Buckets.Ordered, order] at tail
    exact (List.pairwise_cons.mp tail).2
  case bounded =>
    show ((state.buckets.erase bucket.key).keys.length : Int) ≤ limiter.maxKeys
    have fewer : (state.buckets.erase bucket.key).keys.length ≤ state.buckets.keys.length := by
      rw [AList.keys_erase]
      exact List.length_erase_le
    omega
  case bucket =>
    intro key
    unfold Buckets.find
    split
    · next same => rw [same, AList.lookup_erase, Option.bind_none]
    · next same => rw [AList.lookup_erase_ne same]

/-- Cleaning up drops buckets that have been idle, and leaves the others alone. -/
theorem Formed.cleaned (formed : Formed limiter state now) (budget : Nat) :
    Formed limiter (limiter.cleanupExpired now budget state) now ∧
      ∀ key, (limiter.cleanupExpired now budget state).find key = state.find key ∨
        ∃ bucket, state.find key = some bucket ∧ limiter.idleExpiry ≤ now - bucket.lastSeen ∧
          (limiter.cleanupExpired now budget state).find key = none := by
  induction budget generalizing state with
  | zero => exact ⟨formed, fun key => .inl rfl⟩
  | succ budget ih =>
      unfold Limiter.cleanupExpired
      split
      · exact ⟨formed, fun key => .inl rfl⟩
      · next oldest rest order =>
        obtain ⟨bucket, found⟩ := formed.inStep.there oldest (by simp [order])
        simp only [found]
        split
        · exact ⟨formed, fun key => .inl rfl⟩
        · next idle =>
          obtain ⟨formed', dropped⟩ := formed.dropped order found
          obtain ⟨cleaned, kept⟩ := ih formed'
          have named := formed.inStep.bucket_of_mem (by simp [order]) found
          refine ⟨cleaned, fun key => ?_⟩
          have each := kept key
          rw [dropped] at each
          split at each
          · next same =>
            subst same
            refine .inr ⟨bucket, named, not_lt.mp idle, ?_⟩
            rcases each with gone | ⟨_, impossible, _⟩
            · exact gone
            · cases impossible
          · exact each

/-! ## One draw -/

theorem refill_key (limiter : Limiter) (bucket : Bucket) (now : Time) :
    (limiter.refill bucket now).key = bucket.key := by
  unfold Limiter.refill
  split
  · rfl
  · rfl

theorem refill_last (limiter : Limiter) (past : bucket.last ≤ now) :
    (limiter.refill bucket now).last = now := by
  unfold Limiter.refill
  split
  · rfl
  · next later => exact le_antisymm past (not_lt.mp later)

theorem draw_key (limiter : Limiter) (bucket : Bucket) (now : Time) :
    (limiter.draw bucket now).2.key = bucket.key := by
  simp only [Limiter.draw]
  split
  · exact refill_key limiter bucket now
  · exact refill_key limiter bucket now

theorem draw_seen (limiter : Limiter) (past : bucket.last ≤ now) :
    (limiter.draw bucket now).2.last = now ∧ (limiter.draw bucket now).2.lastSeen = now := by
  simp only [Limiter.draw]
  split
  · exact ⟨refill_last limiter past, rfl⟩
  · exact ⟨refill_last limiter past, rfl⟩

/-- A draw on the bucket that is now the last of the list. -/
theorem Formed.drawn (inStep : state.InStep) (order : state.idleOrder = others ++ [ref])
    (found : state.heap[ref]? = some bucket) (past : bucket.last ≤ now)
    (ordered : others.Pairwise fun earlier later => ∀ bucket other,
      state.heap[earlier]? = some bucket → state.heap[later]? = some other →
        bucket.lastSeen ≤ other.lastSeen)
    (seen : ∀ ref ∈ others, ∀ bucket, state.heap[ref]? = some bucket →
      bucket.last = bucket.lastSeen ∧ bucket.lastSeen ≤ now)
    (bounded : (state.buckets.keys.length : Int) ≤ limiter.maxKeys) :
    Formed limiter (limiter.drawAt state ref now).2 now ∧
      (limiter.drawAt state ref now).1 = (limiter.draw bucket now).1 ∧
      ∀ key, (limiter.drawAt state ref now).2.find key =
        if key = bucket.key then some (limiter.draw bucket now).2 else state.find key := by
  have inside : ref < state.heap.length := (List.getElem?_eq_some_iff.mp found).1
  have member : ref ∈ state.idleOrder := by simp [order]
  have drawn : limiter.drawAt state ref now = ((limiter.draw bucket now).1,
      { state with heap := state.heap.set ref (limiter.draw bucket now).2 }) := by
    unfold Limiter.drawAt
    rw [found]
  have here : (state.heap.set ref (limiter.draw bucket now).2)[ref]? =
      some (limiter.draw bucket now).2 := by
    rw [List.getElem?_set_self inside]
  have elsewhere {other : BucketRef} (apart : other ≠ ref) :
      (state.heap.set ref (limiter.draw bucket now).2)[other]? = state.heap[other]? :=
    List.getElem?_set_ne (Ne.symm apart)
  have distinct := inStep.distinct
  rw [order, List.nodup_append] at distinct
  have apart {other : BucketRef} (there : other ∈ others) : other ≠ ref :=
    distinct.2.2 other there ref (List.mem_singleton_self ref)
  have keyed (other : BucketRef) (key : String) :
      (∃ third, (state.heap.set ref (limiter.draw bucket now).2)[other]? = some third ∧
        third.key = key) ↔ ∃ third, state.heap[other]? = some third ∧ third.key = key := by
    by_cases same : other = ref
    · subst same
      rw [here, found]
      simp [draw_key]
    · rw [elsewhere same]
  rw [drawn]
  refine ⟨⟨⟨inStep.distinct, ?listed, ?there⟩, ?ordered, bounded, ?seen⟩, rfl, ?find⟩
  case listed => exact fun key other => (inStep.listed key other).trans (by rw [keyed])
  case there =>
    intro other there
    obtain ⟨third, found'⟩ := inStep.there other there
    obtain ⟨fourth, found', _⟩ := (keyed other third.key).mpr ⟨third, found', rfl⟩
    exact ⟨fourth, found'⟩
  case ordered =>
    rw [Buckets.Ordered, order, List.pairwise_append]
    refine ⟨?_, List.pairwise_singleton _ _, ?_⟩
    · refine (List.pairwise_iff_forall_sublist.mpr ?_)
      intro earlier later pair first second found₁ found₂
      have before := pair.subset List.mem_cons_self
      have after := pair.subset (List.mem_cons_of_mem _ List.mem_cons_self)
      rw [elsewhere (apart before)] at found₁
      rw [elsewhere (apart after)] at found₂
      exact List.pairwise_iff_forall_sublist.mp ordered pair first second found₁ found₂
    · intro earlier before later last first second found₁ found₂
      rw [List.mem_singleton] at last
      subst last
      rw [elsewhere (apart before)] at found₁
      rw [here, Option.some.injEq] at found₂
      rw [← found₂, (draw_seen limiter past).2]
      exact (seen earlier before first found₁).2
  case seen =>
    intro other there third found'
    rw [order] at there
    rcases List.mem_append.mp there with there | there
    · rw [elsewhere (apart there)] at found'
      exact seen other there third found'
    · rw [List.mem_singleton] at there
      subst there
      rw [here, Option.some.injEq] at found'
      rw [← found', (draw_seen limiter past).1, (draw_seen limiter past).2]
      exact ⟨rfl, le_rfl⟩
  case find =>
    intro key
    unfold Buckets.find
    dsimp only
    cases listed : state.buckets.lookup key with
    | none =>
        have different : key ≠ bucket.key := by
          rintro rfl
          have other := inStep.bucket_of_mem member found
          rw [Buckets.find, listed] at other
          cases other
        rw [if_neg different]
        rfl
    | some other =>
        obtain ⟨there, third, found', named⟩ := (inStep.listed key other).mp listed
        rw [Option.bind_some, Option.bind_some]
        by_cases same : other = ref
        · subst same
          rw [found, Option.some.injEq] at found'
          rw [here, if_pos (by rw [← named, found'])]
        · have different : key ≠ bucket.key := by
            rintro rfl
            exact same (inStep.ref_unique member found there found' named)
          rw [elsewhere same, if_neg different]

/-! ## One call -/

/-- The bucket that a key without one is given. -/
def fresh (limiter : Limiter) (key : String) (now : Time) : Bucket :=
  { tokens := limiter.burst, last := now, key := key }

theorem InStep.bounds (inStep : state.InStep) (member : ref ∈ state.idleOrder) :
    ref < state.heap.length := by
  obtain ⟨bucket, found⟩ := inStep.there ref member
  exact (List.getElem?_eq_some_iff.mp found).1

/-- A key without a bucket is given one, at the end of the list. -/
theorem Formed.allocated (formed : Formed limiter state now)
    (missing : state.buckets.lookup key = none)
    (room : (state.buckets.keys.length : Int) < limiter.maxKeys) :
    Formed limiter (limiter.drawAt (limiter.allocate state key now) state.heap.length now).2 now ∧
      (limiter.drawAt (limiter.allocate state key now) state.heap.length now).1 =
        (limiter.draw (fresh limiter key now) now).1 ∧
      ∀ other, (limiter.drawAt (limiter.allocate state key now) state.heap.length now).2.find other =
        if other = key then some (limiter.draw (fresh limiter key now) now).2
        else state.find other := by
  obtain ⟨inStep, ordered, bounded, seen⟩ := formed
  have old {ref : BucketRef} (member : ref ∈ state.idleOrder) :
      (limiter.allocate state key now).heap[ref]? = state.heap[ref]? :=
    List.getElem?_append_left (inStep.bounds member)
  have new : (limiter.allocate state key now).heap[state.heap.length]? =
      some (fresh limiter key now) := List.getElem?_concat_length
  have unnamed {ref : BucketRef} {bucket : Bucket} (member : ref ∈ state.idleOrder)
      (found : state.heap[ref]? = some bucket) : bucket.key ≠ key := by
    rintro rfl
    rw [(inStep.listed bucket.key ref).mpr ⟨member, bucket, found, rfl⟩] at missing
    cases missing
  have stepped : (limiter.allocate state key now).InStep := by
    refine ⟨?distinct, ?listed, ?there⟩
    case distinct =>
      refine List.nodup_append.mpr ⟨inStep.distinct, List.nodup_singleton _, ?_⟩
      rintro ref member other last rfl
      exact absurd (inStep.bounds member) (by simp [List.mem_singleton.mp last])
    case listed =>
      intro other ref
      show (state.buckets.insert key state.heap.length).lookup other = some ref ↔
        ref ∈ state.idleOrder ++ [state.heap.length] ∧ _
      rw [Table.lookup_insert, List.mem_append, List.mem_singleton]
      by_cases same : other = key
      · subst same
        rw [if_pos rfl]
        constructor
        · rintro ⟨⟩
          exact ⟨.inr rfl, _, new, rfl⟩
        · rintro ⟨member | rfl, bucket, found, named⟩
          · rw [old member] at found
            exact absurd named (unnamed member found)
          · rfl
      · rw [if_neg same, inStep.listed]
        constructor
        · rintro ⟨member, found⟩
          exact ⟨.inl member, by rwa [old member]⟩
        · rintro ⟨member | rfl, bucket, found, named⟩
          · exact ⟨member, bucket, by rwa [old member] at found, named⟩
          · rw [new, Option.some.injEq] at found
            exact absurd (named.symm.trans (congrArg Bucket.key found.symm)) same
    case there =>
      intro ref member
      rcases List.mem_append.mp member with member | last
      · rw [old member]
        exact inStep.there ref member
      · rw [List.mem_singleton.mp last]
        exact ⟨_, new⟩
  have sorted : state.idleOrder.Pairwise fun earlier later => ∀ bucket other,
      (limiter.allocate state key now).heap[earlier]? = some bucket →
      (limiter.allocate state key now).heap[later]? = some other →
        bucket.lastSeen ≤ other.lastSeen := by
    refine List.pairwise_iff_forall_sublist.mpr ?_
    intro earlier later pair first second found₁ found₂
    rw [old (pair.subset List.mem_cons_self)] at found₁
    rw [old (pair.subset (List.mem_cons_of_mem _ List.mem_cons_self))] at found₂
    exact List.pairwise_iff_forall_sublist.mp ordered pair first second found₁ found₂
  obtain ⟨formed', answer, finds⟩ :
      Formed limiter (limiter.drawAt _ state.heap.length now).2 now ∧ _ ∧ _ :=
    Formed.drawn stepped rfl new le_rfl sorted
      (fun ref member bucket found => seen ref member bucket (by rwa [old member] at found)) (by
      show ((state.buckets.insert key state.heap.length).keys.length : Int) ≤ limiter.maxKeys
      have absent : key ∉ state.buckets.keys := by
        rw [← AList.mem_keys, ← AList.lookup_eq_none]
        exact missing
      rw [AList.keys_insert, List.erase_of_not_mem absent, List.length_cons]
      omega)
  have named : (fresh limiter key now).key = key := rfl
  refine ⟨formed', answer, fun other => ?_⟩
  rw [finds, named]
  by_cases same : other = key
  · rw [if_pos same, if_pos same]
  · rw [if_neg same, if_neg same]
    show ((state.buckets.insert key state.heap.length).lookup other).bind _ = _
    rw [Table.lookup_insert, if_neg same, find]
    cases listed : state.buckets.lookup other with
    | none => rfl
    | some ref =>
        rw [Option.bind_some, Option.bind_some, old ((inStep.listed other ref).mp listed).1]

theorem moveToBack_perm {order : List BucketRef} (member : ref ∈ order) :
    (moveToBack order ref).Perm order := by
  rw [moveToBack, if_pos member]
  exact (List.perm_append_singleton ref _).trans (List.perm_cons_erase member).symm

/-- A key with a bucket draws from it, and the bucket goes to the end of the list. -/
theorem Formed.used (formed : Formed limiter state now)
    (listed : state.buckets.lookup key = some ref) :
    ∃ bucket, state.find key = some bucket ∧ bucket.key = key ∧ bucket.last ≤ now ∧
      Formed limiter (limiter.drawAt
        { state with idleOrder := moveToBack state.idleOrder ref } ref now).2 now ∧
      (limiter.drawAt { state with idleOrder := moveToBack state.idleOrder ref } ref now).1 =
        (limiter.draw bucket now).1 ∧
      ∀ other, (limiter.drawAt
          { state with idleOrder := moveToBack state.idleOrder ref } ref now).2.find other =
        if other = key then some (limiter.draw bucket now).2 else state.find other := by
  obtain ⟨inStep, ordered, bounded, seen⟩ := formed
  obtain ⟨member, bucket, found, named⟩ := (inStep.listed key ref).mp listed
  have perm := moveToBack_perm member
  have stepped : Buckets.InStep { state with idleOrder := moveToBack state.idleOrder ref } :=
    ⟨perm.nodup_iff.mpr inStep.distinct,
      fun other third => (inStep.listed other third).trans (and_congr_left' perm.mem_iff.symm),
      fun other there => inStep.there other (perm.mem_iff.mp there)⟩
  have past : bucket.last ≤ now := by
    obtain ⟨same, before⟩ := seen ref member bucket found
    exact same.le.trans before
  obtain ⟨formed', answer, finds⟩ : Formed limiter (limiter.drawAt _ ref now).2 now ∧ _ ∧ _ :=
    Formed.drawn stepped
    (by rw [moveToBack, if_pos member]) found past
    (ordered.sublist List.erase_sublist)
    (fun other there => seen other (List.mem_of_mem_erase there)) bounded
  refine ⟨bucket, ?_, named, past, formed', answer, fun other => ?_⟩
  · rw [find, listed]
    exact found
  · rw [finds, named]
    rfl

/-- What a call of a limiter that can admit something does. -/
theorem Formed.allowed {earlier : Time} (formed : Formed limiter state earlier)
    (admits : limiter.Admits) (named : key ≠ "") (ordered : earlier ≤ now) :
    ∃ cleaned : Buckets, (∀ other, cleaned.find other = state.find other ∨ ∃ bucket,
        state.find other = some bucket ∧ limiter.idleExpiry ≤ now - bucket.lastSeen ∧
          cleaned.find other = none) ∧
      Formed limiter (limiter.allow state key now).2 now ∧
      ((cleaned.find key = none ∧ (limiter.allow state key now).1 = false ∧
          ∀ other, (limiter.allow state key now).2.find other = cleaned.find other) ∨
        ∃ bucket, (cleaned.find key = some bucket ∨
            (cleaned.find key = none ∧ bucket = fresh limiter key now)) ∧ bucket.last ≤ now ∧
          (limiter.allow state key now).1 = (limiter.draw bucket now).1 ∧
          ∀ other, (limiter.allow state key now).2.find other =
            if other = key then some (limiter.draw bucket now).2 else cleaned.find other) := by
  obtain ⟨rate, burst, maxKeys, idle⟩ := admits
  have guard : ¬ (key = "" ∨ limiter.rate ≤ 0 ∨ limiter.burst < 1 ∨ limiter.maxKeys < 1 ∨
      limiter.idleExpiry ≤ 0) := by
    rintro (missing | low | low | low | low)
    · exact named missing
    · exact absurd low (not_le.mpr rate)
    · exact absurd low (not_lt.mpr burst)
    · exact absurd low (not_lt.mpr maxKeys)
    · exact absurd low (not_le.mpr idle)
  obtain ⟨cleaned, kept⟩ := (formed.later ordered).cleaned 64
  refine ⟨limiter.cleanupExpired now 64 state, kept, ?_⟩
  unfold Limiter.allow
  rw [if_neg guard]
  dsimp only
  cases listed : (limiter.cleanupExpired now 64 state).buckets.lookup key with
  | none =>
      have missing : (limiter.cleanupExpired now 64 state).find key = none := by
        rw [find, listed, Option.bind_none]
      dsimp only
      split
      · exact ⟨cleaned, .inl ⟨missing, rfl, fun _ => rfl⟩⟩
      · next room =>
        obtain ⟨formed', answer, finds⟩ := cleaned.allocated listed (not_le.mp room)
        exact ⟨formed', .inr ⟨_, .inr ⟨missing, rfl⟩, le_rfl, answer, finds⟩⟩
  | some ref =>
      obtain ⟨bucket, found, _, past, formed', answer, finds⟩ := cleaned.used listed
      exact ⟨formed', .inr ⟨bucket, .inl found, past, answer, finds⟩⟩

end Buckets

/-! ## The bound over a window -/

section Window

variable {limiter : Limiter} {state after : Buckets} {now : Time} {key : String}
  {bucket : Bucket} {ideal : TokenLevel ℚ}

theorem seconds_sub (later earlier : Time) :
    seconds (later - earlier) = seconds later - seconds earlier := by
  unfold seconds
  push_cast
  ring

theorem seconds_le {earlier later : Time} (ordered : earlier ≤ later) :
    seconds earlier ≤ seconds later := by
  have cast : (earlier : ℚ) ≤ later := Int.cast_le.mpr ordered
  exact div_le_div_of_nonneg_right cast (by norm_num [Duration.second])

theorem seconds_nonneg {duration : Duration} (positive : 0 ≤ duration) : 0 ≤ seconds duration := by
  have bound := seconds_le positive
  rwa [seconds, Int.cast_zero, zero_div] at bound

/-- The token bucket of every key. -/
def Limiter.Admits.pool (admits : limiter.Admits) : TokenBucket ℚ where
  capacity := limiter.burst
  rate := limiter.rate
  capacity_nonneg := by
    have burst := admits.2.1
    exact Int.cast_nonneg (by omega)
  rate_nonneg := admits.1.le

/-- What flows in while a bucket expires. -/
def Limiter.Refills (limiter : Limiter) : Prop :=
  (limiter.burst : ℚ) ≤ limiter.rate * seconds limiter.idleExpiry

instance (limiter : Limiter) : Decidable limiter.Refills := inferInstanceAs (Decidable (_ ≤ _))

/-- The ideal bucket holds at least what the bucket of the key does; where there is
none, it is full. -/
structure Covers (admits : limiter.Admits) (state : Buckets) (key : String) (now : Time)
    (ideal : TokenLevel ℚ) : Prop where
  held : 0 ≤ ideal.level
  past : ideal.last ≤ seconds now
  found : ∀ bucket, state.find key = some bucket → bucket.lastSeen ≤ now ∧
    bucket.last = bucket.lastSeen ∧ ideal.last ≤ seconds bucket.lastSeen ∧
    bucket.tokens ≤ admits.pool.available ideal (seconds bucket.last)
  missing : state.find key = none →
    admits.pool.available ideal (seconds now) = admits.pool.capacity

/-- A full bucket stays full. -/
theorem Limiter.Admits.full_later (admits : limiter.Admits) {earlier later : Time}
    (ordered : earlier ≤ later)
    (full : admits.pool.available ideal (seconds earlier) = admits.pool.capacity) :
    admits.pool.available ideal (seconds later) = admits.pool.capacity :=
  le_antisymm (admits.pool.available_le_capacity _ _)
    (full.symm.le.trans (admits.pool.available_mono (seconds_le ordered)))

/-- A refill never gives more than the ideal one. -/
theorem refill_covered (admits : limiter.Admits) (past : bucket.last ≤ now)
    (covered : bucket.tokens ≤ admits.pool.available ideal (seconds bucket.last)) :
    (limiter.refill bucket now).tokens ≤ admits.pool.available ideal (seconds now) := by
  unfold Limiter.refill
  split
  · rw [← admits.pool.available_later (seconds_le past), seconds_sub]
    exact min_le_min_left _ (add_le_add_left covered _)
  · next later =>
    rwa [← le_antisymm past (not_lt.mp later)]

theorem draw_cases (limiter : Limiter) (bucket : Bucket) (now : Time) :
    (1 ≤ (limiter.refill bucket now).tokens ∧ (limiter.draw bucket now).1 = true ∧
        (limiter.draw bucket now).2.tokens = (limiter.refill bucket now).tokens - 1) ∨
      ((limiter.draw bucket now).1 = false ∧
        (limiter.draw bucket now).2.tokens = (limiter.refill bucket now).tokens) := by
  simp only [Limiter.draw]
  split
  · next enough => exact .inl ⟨enough, rfl, rfl⟩
  · exact .inr ⟨rfl, rfl⟩

/-- Cleaning up leaves the ideal bucket ahead, if a bucket fills up while it expires. -/
theorem Covers.cleaned {admits : limiter.Admits} {earlier : Time} {cleaned : Buckets}
    (covers : Covers admits state key earlier ideal) (refills : limiter.Refills)
    (ordered : earlier ≤ now)
    (kept : cleaned.find key = state.find key ∨ ∃ bucket, state.find key = some bucket ∧
      limiter.idleExpiry ≤ now - bucket.lastSeen ∧ cleaned.find key = none) :
    Covers admits cleaned key now ideal := by
  refine ⟨covers.held, covers.past.trans (seconds_le ordered), fun bucket found => ?_,
    fun missing => ?_⟩
  · rcases kept with same | ⟨_, _, _, gone⟩
    · rw [same] at found
      obtain ⟨seen, last, after, tokens⟩ := covers.found bucket found
      exact ⟨seen.trans ordered, last, after, tokens⟩
    · rw [gone] at found
      cases found
  · rcases kept with same | ⟨bucket, found, idle, _⟩
    · rw [same] at missing
      exact admits.full_later ordered (covers.missing missing)
    · obtain ⟨_, _, after, _⟩ := covers.found bucket found
      refine admits.pool.available_full covers.held ?_
      have elapsed : seconds limiter.idleExpiry ≤ seconds now - ideal.last := by
        have expired := seconds_le idle
        rw [seconds_sub] at expired
        linarith
      calc (limiter.burst : ℚ) ≤ limiter.rate * seconds limiter.idleExpiry := refills
        _ ≤ limiter.rate * (seconds now - ideal.last) :=
            mul_le_mul_of_nonneg_left elapsed admits.1.le
        _ = (seconds now - ideal.last) * limiter.rate := mul_comm _ _

/-- One call: what is allowed is charged to the ideal bucket. -/
theorem Covers.allowed {admits : limiter.Admits} {earlier : Time} {call : String}
    (formed : Buckets.Formed limiter state earlier)
    (covers : Covers admits state key earlier ideal) (refills : limiter.Refills)
    (ordered : earlier ≤ now) (named : call ≠ "") :
    if call = key ∧ (limiter.allow state call now).1 = true then
      1 ≤ admits.pool.available ideal (seconds now) ∧
        Covers admits (limiter.allow state call now).2 key now
          (admits.pool.charge ideal (seconds now) 1)
    else Covers admits (limiter.allow state call now).2 key now ideal := by
  have ⟨cleaned, kept, _, answered⟩ := formed.allowed admits named ordered
  have covered := covers.cleaned refills ordered (kept key)
  have other (finds : (limiter.allow state call now).2.find key = cleaned.find key) :
      Covers admits (limiter.allow state call now).2 key now ideal :=
    ⟨covered.held, covered.past, by rw [finds]; exact covered.found,
      by rw [finds]; exact covered.missing⟩
  rcases answered with ⟨_, refused, finds⟩ | ⟨bucket, given, past, answer, finds⟩
  · rw [if_neg (by simp [refused])]
    exact other (finds key)
  by_cases same : call = key
  · subst same
    have tokens : bucket.tokens ≤ admits.pool.available ideal (seconds bucket.last) := by
      rcases given with found | ⟨missing, rfl⟩
      · exact (covered.found bucket found).2.2.2
      · exact (covered.missing missing).symm.le
    have level := refill_covered admits past tokens
    obtain ⟨last, seen⟩ := Buckets.draw_seen limiter past
    have found := finds call
    rw [if_pos rfl] at found
    rcases draw_cases limiter bucket now with ⟨enough, allowed, left⟩ | ⟨refused, left⟩
    · rw [if_pos ⟨rfl, answer.trans allowed⟩]
      have available := enough.trans level
      refine ⟨available, sub_nonneg.mpr available, le_rfl, fun third found' => ?_, fun gone => ?_⟩
      · rw [found, Option.some.injEq] at found'
        subst found'
        rw [last, seen, left]
        refine ⟨le_rfl, rfl, le_rfl, ?_⟩
        have charged : admits.pool.available (admits.pool.charge ideal (seconds now) 1)
            (seconds now) = admits.pool.available ideal (seconds now) - 1 := by
          have full := admits.pool.available_le_capacity ideal (seconds now)
          have level : admits.pool.available ideal (seconds now) - 1 +
              (seconds now - seconds now) * admits.pool.rate =
                admits.pool.available ideal (seconds now) - 1 := by ring
          unfold TokenBucket.charge
          rw [TokenBucket.available, level]
          exact min_eq_right (by linarith)
        rw [charged]
        exact sub_le_sub_right level 1
      · rw [found] at gone
        cases gone
    · rw [if_neg (by simp [answer, refused])]
      refine ⟨covered.held, covered.past, fun third found' => ?_, fun gone => ?_⟩
      · rw [found, Option.some.injEq] at found'
        subst found'
        rw [last, seen, left]
        exact ⟨le_rfl, rfl, covered.past, level⟩
      · rw [found] at gone
        cases gone
  · rw [if_neg fun both => same both.1]
    refine other ((finds key).trans (if_neg fun here => same here.symm))

/-! ## Every sequence of calls -/

theorem allow_unnamed (limiter : Limiter) (state : Buckets) (now : Time) :
    limiter.allow state "" now = (false, state) := by
  unfold Limiter.allow
  rw [if_pos (.inl rfl)]

theorem Buckets.Formed.run {earlier : Time} {calls : List Limiter.Call}
    (formed : Buckets.Formed limiter state earlier) (admits : limiter.Admits)
    (after : ∀ call ∈ calls, earlier ≤ call.now)
    (ordered : calls.Pairwise fun earlier later => earlier.now ≤ later.now) :
    ∃ now, Buckets.Formed limiter (limiter.run state calls).2 now := by
  induction calls generalizing state earlier with
  | nil => exact ⟨earlier, formed⟩
  | cons call rest ih =>
      obtain ⟨first, ordered⟩ := List.pairwise_cons.mp ordered
      have next : Buckets.Formed limiter (limiter.allow state call.key call.now).2 call.now := by
        by_cases named : call.key = ""
        · rw [named, allow_unnamed]
          exact formed.later (after call List.mem_cons_self)
        · obtain ⟨_, _, formed', _⟩ := formed.allowed admits named (after call List.mem_cons_self)
          exact formed'
      exact ih next first ordered

/-- The charges that the calls of a key are. -/
def charges (key : String) (answers : List (Limiter.Call × Bool)) : List (ℚ × ℚ) :=
  answers.filterMap fun (call, allowed) =>
    if call.key = key ∧ allowed = true then some (seconds call.now, 1) else none

theorem charges_cons (key : String) (call : Limiter.Call) (allowed : Bool)
    (rest : List (Limiter.Call × Bool)) :
    charges key ((call, allowed) :: rest) =
      if call.key = key ∧ allowed = true then (seconds call.now, 1) :: charges key rest
      else charges key rest := by
  unfold charges
  rw [List.filterMap_cons]
  dsimp only
  by_cases charged : call.key = key ∧ allowed = true
  · rw [if_pos charged, if_pos charged]
  · rw [if_neg charged, if_neg charged]

/-- The ideal bucket affords every call that is allowed. -/
theorem Covers.run {admits : limiter.Admits} {earlier : Time} {calls : List Limiter.Call}
    (formed : Buckets.Formed limiter state earlier)
    (covers : Covers admits state key earlier ideal) (refills : limiter.Refills)
    (after : ∀ call ∈ calls, earlier ≤ call.now)
    (ordered : calls.Pairwise fun earlier later => earlier.now ≤ later.now) :
    admits.pool.Affords ideal (charges key (limiter.run state calls).1) := by
  induction calls generalizing state earlier ideal with
  | nil => trivial
  | cons call rest ih =>
      obtain ⟨first, ordered⟩ := List.pairwise_cons.mp ordered
      have here := after call List.mem_cons_self
      have answers : (limiter.run state (call :: rest)).1 =
          (call, (limiter.allow state call.key call.now).1) ::
            (limiter.run (limiter.allow state call.key call.now).2 rest).1 := rfl
      rw [answers, charges_cons]
      by_cases named : call.key = ""
      · rw [named, allow_unnamed, if_neg (by simp)]
        exact ih formed covers (fun other member => here.trans (first other member)) ordered
      · obtain ⟨_, _, formed', _⟩ := formed.allowed admits named here
        have next := covers.allowed formed refills here named
        by_cases charged : call.key = key ∧ (limiter.allow state call.key call.now).1 = true
        · rw [if_pos charged] at next ⊢
          obtain ⟨enough, covers'⟩ := next
          exact ⟨covers.past.trans (seconds_le here), zero_le_one, enough,
            ih formed' covers' first ordered⟩
        · rw [if_neg charged] at next ⊢
          exact ih formed' next first ordered

theorem seconds_le_iff {earlier later : Time} :
    seconds earlier ≤ seconds later ↔ earlier ≤ later := by
  refine ⟨fun ordered => ?_, seconds_le⟩
  by_contra after
  have strict : seconds later < seconds earlier := by
    have cast : (later : ℚ) < earlier := Int.cast_lt.mpr (not_le.mp after)
    exact div_lt_div_of_pos_right cast (by norm_num [Duration.second])
  exact absurd ordered (not_le.mpr strict)

theorem charged_charges (key : String) (first last : Time)
    (answers : List (Limiter.Call × Bool)) :
    TokenBucket.charged (seconds first) (seconds last) (charges key answers) =
      allowedWithin key first last answers := by
  induction answers with
  | nil => rfl
  | cons answer rest ih =>
      obtain ⟨call, allowed⟩ := answer
      have counted : allowedWithin key first last ((call, allowed) :: rest) =
          allowedWithin key first last rest +
            if allowed && decide (call.key = key ∧ first ≤ call.now ∧ call.now ≤ last) then 1
            else 0 := List.countP_cons ..
      rw [charges_cons, counted]
      by_cases here : call.key = key ∧ allowed = true
      · obtain ⟨rfl, rfl⟩ := here
        rw [if_pos ⟨rfl, rfl⟩, TokenBucket.charged_cons, ih]
        simp only [seconds_le_iff]
        by_cases within : first ≤ call.now ∧ call.now ≤ last
        · rw [if_pos within, if_pos (by simp [within])]
          push_cast
          ring
        · rw [if_neg within, if_neg (by simpa using within)]
          push_cast
          ring
      · rw [if_neg here, ih, if_neg]
        · rfl
        · simp only [Bool.and_eq_true, decide_eq_true_eq, not_and]
          exact fun allowed same => absurd ⟨same, allowed⟩ here

/-- A limiter whose buckets fill up while they expire keeps its promise. -/
theorem sound_of_refills (admits : limiter.Admits) (refills : limiter.Refills) :
    limiter.Sound := by
  intro calls ordered
  have formed (now : Time) := Buckets.Formed.new limiter admits.2.2.1 now
  cases calls with
  | nil =>
      have empty := formed 0
      refine ⟨empty.bounded, empty.inStep, empty.ordered, fun key first last span => ?_⟩
      have flow := mul_nonneg admits.1.le (seconds_nonneg (sub_nonneg.mpr span))
      have burst : (0 : ℚ) ≤ limiter.burst := admits.pool.capacity_nonneg
      show ((0 : Nat) : ℚ) ≤ _
      push_cast
      linarith
  | cons call rest =>
      have after : ∀ other ∈ call :: rest, call.now ≤ other.now := by
        intro other member
        rcases List.mem_cons.mp member with rfl | member
        · exact le_rfl
        · exact (List.pairwise_cons.mp ordered).1 other member
      obtain ⟨now, final⟩ := (formed call.now).run admits after ordered
      refine ⟨final.bounded, final.inStep, final.ordered, fun key first last span => ?_⟩
      have covers : Covers admits {} key call.now ⟨limiter.burst, seconds call.now⟩ := by
        refine ⟨admits.pool.capacity_nonneg, le_rfl, fun bucket found => ?_, fun _ => ?_⟩
        · cases found
        unfold TokenBucket.available
        rw [sub_self, zero_mul, add_zero]
        exact min_self _
      have affords := covers.run (formed call.now) refills after ordered
      have bound := affords.window (seconds_le span)
      rw [charged_charges] at bound
      rw [seconds_sub]
      calc (allowedWithin key first last (limiter.run {} (call :: rest)).1 : ℚ)
          ≤ limiter.burst + (seconds last - seconds first) * limiter.rate := bound
        _ = limiter.burst + limiter.rate * (seconds last - seconds first) := by ring

/-! ## A burst before and a burst after the expiry -/

/-- The only bucket of a limiter. -/
structure Alone (state : Buckets) (ref : BucketRef) (bucket : Bucket) : Prop where
  order : state.idleOrder = [ref]
  named : state.buckets = (∅ : Table String BucketRef).insert bucket.key ref
  found : state.heap[ref]? = some bucket

theorem Alone.drawn {ref : BucketRef} (alone : Alone state ref bucket) (limiter : Limiter)
    (now : Time) :
    ∃ after, limiter.drawAt state ref now = ((limiter.draw bucket now).1, after) ∧
      Alone after ref (limiter.draw bucket now).2 := by
  have inside := (List.getElem?_eq_some_iff.mp alone.found).1
  refine ⟨{ state with heap := state.heap.set ref (limiter.draw bucket now).2 }, ?_, alone.order, ?_,
    List.getElem?_set_self inside⟩
  · rw [Limiter.drawAt, alone.found]
  · rw [Buckets.draw_key]
    exact alone.named

/-- A limiter that has no bucket left gives its key a full one. -/
theorem allow_cleared (admits : limiter.Admits) (named : key ≠ "") {heap : List Bucket}
    (cleared : limiter.cleanupExpired now 64 state = { heap := heap }) :
    ∃ after, limiter.allow state key now =
        ((limiter.draw (Buckets.fresh limiter key now) now).1, after) ∧
      Alone after heap.length (limiter.draw (Buckets.fresh limiter key now) now).2 := by
  have alone : Alone (limiter.allocate { heap := heap } key now) heap.length
      (Buckets.fresh limiter key now) := ⟨rfl, rfl, List.getElem?_concat_length⟩
  obtain ⟨after, drawn, alone'⟩ := alone.drawn limiter now
  refine ⟨after, ?_, alone'⟩
  obtain ⟨rate, burst, maxKeys, idle⟩ := admits
  have empty : ¬ (((∅ : Table String BucketRef).keys.length : Int) ≥ limiter.maxKeys) :=
    not_le.mpr maxKeys
  unfold Limiter.allow
  rw [if_neg (by simp only [not_or, not_le, not_lt]; exact ⟨named, rate, burst, maxKeys, idle⟩),
    cleared]
  dsimp only
  rw [AList.lookup_empty]
  dsimp only
  rw [if_neg empty]
  exact drawn

theorem allow_alone (admits : limiter.Admits) {ref : BucketRef} (alone : Alone state ref bucket)
    (named : bucket.key ≠ "") (live : now - bucket.lastSeen < limiter.idleExpiry) :
    ∃ after, limiter.allow state bucket.key now = ((limiter.draw bucket now).1, after) ∧
      Alone after ref (limiter.draw bucket now).2 := by
  have kept : limiter.cleanupExpired now 64 state = state := by
    unfold Limiter.cleanupExpired
    simp only [alone.order, alone.found, if_pos live]
  have same : { state with idleOrder := moveToBack state.idleOrder ref } = state := by
    rw [alone.order, moveToBack, if_pos (List.mem_singleton_self ref), List.erase_cons_head,
      List.nil_append, ← alone.order]
  have listed : state.buckets.lookup bucket.key = some ref := by
    rw [alone.named, AList.lookup_insert]
  obtain ⟨after, drawn, alone'⟩ := alone.drawn limiter now
  refine ⟨after, ?_, alone'⟩
  obtain ⟨rate, burst, maxKeys, idle⟩ := admits
  unfold Limiter.allow
  rw [if_neg (by simp only [not_or, not_le, not_lt]; exact ⟨named, rate, burst, maxKeys, idle⟩),
    kept]
  dsimp only
  rw [listed]
  dsimp only
  rw [same]
  exact drawn

theorem run_append (limiter : Limiter) (state : Buckets) (first second : List Limiter.Call) :
    limiter.run state (first ++ second) =
      ((limiter.run state first).1 ++ (limiter.run (limiter.run state first).2 second).1,
        (limiter.run (limiter.run state first).2 second).2) := by
  induction first generalizing state with
  | nil => rfl
  | cons call rest ih =>
      simp only [List.cons_append, Limiter.run]
      rw [ih]

/-- Calls at one instant are allowed as long as there are tokens. -/
theorem run_tokens (admits : limiter.Admits) {ref : BucketRef} (alone : Alone state ref bucket)
    (named : bucket.key ≠ "") (fresh : bucket.last = now ∧ bucket.lastSeen = now) (count : Nat)
    (enough : (count : ℚ) ≤ bucket.tokens) :
    ∃ after last, (limiter.run state (List.replicate count ⟨bucket.key, now⟩)) =
        (List.replicate count (⟨bucket.key, now⟩, true), after) ∧
      Alone after ref last ∧ last.key = bucket.key ∧ last.lastSeen = now := by
  induction count generalizing state bucket with
  | zero => exact ⟨state, bucket, rfl, alone, rfl, fresh.2⟩
  | succ count ih =>
      push_cast at enough
      have positive : (0 : ℚ) ≤ count := Nat.cast_nonneg count
      have still : limiter.refill bucket now = bucket := by
        rw [Limiter.refill, if_neg (not_lt.mpr fresh.1.ge)]
      have live : now - bucket.lastSeen < limiter.idleExpiry := by
        rw [fresh.2, sub_self]
        exact admits.2.2.2
      obtain ⟨after, allowed, alone'⟩ := allow_alone admits alone named live
      rcases draw_cases limiter bucket now with ⟨_, yes, left⟩ | ⟨no, left⟩
      · rw [still] at left
        have key := Buckets.draw_key limiter bucket now
        obtain ⟨final, last, ran, alone'', keyed, seen⟩ := ih alone' (by rwa [key])
          (Buckets.draw_seen limiter fresh.1.le) (by rw [left]; linarith)
        rw [key] at ran keyed
        refine ⟨final, last, ?_, alone'', keyed, seen⟩
        rw [List.replicate_succ, List.replicate_succ, Limiter.run]
        dsimp only
        rw [allowed, yes]
        dsimp only
        rw [ran]
      · rw [still] at left
        have drawn : (limiter.draw bucket now).1 = true := by
          simp only [Limiter.draw, still]
          rw [if_pos (show 1 ≤ bucket.tokens by linarith)]
        rw [no] at drawn
        cases drawn

/-- A limiter that has no bucket left allows its whole burst at once. -/
theorem run_burst (admits : limiter.Admits) (named : key ≠ "") {heap : List Bucket}
    (cleared : limiter.cleanupExpired now 64 state = { heap := heap }) :
    ∃ after ref last, limiter.run state (List.replicate limiter.burst.toNat ⟨key, now⟩) =
        (List.replicate limiter.burst.toNat (⟨key, now⟩, true), after) ∧
      Alone after ref last ∧ last.lastSeen = now := by
  obtain ⟨count, whole⟩ : ∃ count : Nat, limiter.burst = count + 1 := by
    have burst := admits.2.1
    exact ⟨(limiter.burst - 1).toNat, by omega⟩
  have size : limiter.burst.toNat = count + 1 := by omega
  have tokens : (limiter.burst : ℚ) = count + 1 := by
    rw [whole]
    push_cast
    rfl
  have positive : (0 : ℚ) ≤ count := Nat.cast_nonneg count
  obtain ⟨after, allowed, alone⟩ := allow_cleared admits named cleared
  have still : limiter.refill (Buckets.fresh limiter key now) now =
      Buckets.fresh limiter key now := if_neg (lt_irrefl now)
  have keyed : (limiter.draw (Buckets.fresh limiter key now) now).2.key = key :=
    Buckets.draw_key limiter _ now
  have drawn : (limiter.draw (Buckets.fresh limiter key now) now).1 = true ∧
      (limiter.draw (Buckets.fresh limiter key now) now).2.tokens = limiter.burst - 1 := by
    rcases draw_cases limiter (Buckets.fresh limiter key now) now with ⟨_, yes, left⟩ | ⟨no, _⟩
    · rw [still] at left
      exact ⟨yes, left⟩
    · have enough : 1 ≤ (Buckets.fresh limiter key now).tokens := by
        show (1 : ℚ) ≤ limiter.burst
        linarith
      simp only [Limiter.draw, still] at no
      rw [if_pos enough] at no
      cases no
  obtain ⟨final, last, ran, alone', _, seen⟩ := run_tokens admits alone (by rwa [keyed])
    (Buckets.draw_seen limiter (show (Buckets.fresh limiter key now).last ≤ now from le_rfl)) count
    (by rw [drawn.2]; linarith)
  rw [keyed] at ran
  refine ⟨final, _, last, ?_, alone', seen⟩
  rw [size, List.replicate_succ, List.replicate_succ, Limiter.run]
  dsimp only
  rw [allowed, drawn.1]
  dsimp only
  rw [ran]

/-- A burst and, when its bucket has expired, another one. -/
def Limiter.twoBursts (limiter : Limiter) : List Limiter.Call :=
  List.replicate limiter.burst.toNat ⟨"key", 0⟩ ++
    List.replicate limiter.burst.toNat ⟨"key", limiter.idleExpiry⟩

theorem Limiter.twoBursts_ordered (admits : limiter.Admits) :
    limiter.twoBursts.Pairwise fun earlier later => earlier.now ≤ later.now := by
  refine List.pairwise_append.mpr ⟨?_, ?_, ?_⟩
  · exact List.pairwise_replicate.mpr (.inr le_rfl)
  · exact List.pairwise_replicate.mpr (.inr le_rfl)
  · intro first member second member'
    rw [List.eq_of_mem_replicate member, List.eq_of_mem_replicate member']
    exact admits.2.2.2.le

theorem allowedWithin_replicate {first last : Time} (key : String) (count : Nat)
    (inside : first ≤ now ∧ now ≤ last) :
    allowedWithin key first last (List.replicate count (⟨key, now⟩, true)) = count := by
  rw [allowedWithin, List.countP_replicate, if_pos (by simp [inside])]

/-- Both bursts are allowed. -/
theorem Limiter.twoBursts_allowed (admits : limiter.Admits) :
    allowedWithin "key" 0 limiter.idleExpiry (limiter.run {} limiter.twoBursts).1 =
      limiter.burst.toNat + limiter.burst.toNat := by
  have idle := admits.2.2.2
  obtain ⟨after, ref, last, ran, alone, seen⟩ := run_burst admits
    (show "key" ≠ "" by decide) (show limiter.cleanupExpired 0 64 {} = { heap := [] } from rfl)
  have expired : limiter.cleanupExpired limiter.idleExpiry 64 after = { heap := after.heap } := by
    have erased : after.buckets.erase last.key = ∅ := by
      rw [alone.named]
      refine AList.ext ?_
      simp [AList.insert, AList.erase, List.kerase_cons_eq]
    unfold Limiter.cleanupExpired
    simp only [alone.order, alone.found, seen, sub_zero, lt_irrefl, if_false, erased]
    rfl
  obtain ⟨final, _, _, ran', _⟩ := run_burst admits (show "key" ≠ "" by decide) expired
  unfold Limiter.twoBursts
  rw [run_append, ran, ran', allowedWithin, List.countP_append]
  exact congrArg₂ _ (allowedWithin_replicate "key" _ ⟨le_rfl, idle.le⟩)
    (allowedWithin_replicate "key" _ ⟨idle.le, le_rfl⟩)

theorem refills_of_sound (admits : limiter.Admits) (sound : limiter.Sound) : limiter.Refills := by
  obtain ⟨_, _, _, bound⟩ := sound limiter.twoBursts (limiter.twoBursts_ordered admits)
  have count := bound "key" 0 limiter.idleExpiry admits.2.2.2.le
  rw [limiter.twoBursts_allowed admits, sub_zero] at count
  have burst : (limiter.burst.toNat : ℚ) = limiter.burst := by
    have positive := admits.2.1
    have whole : (limiter.burst.toNat : Int) = limiter.burst := Int.toNat_of_nonneg (by omega)
    exact_mod_cast congrArg (Int.cast (R := ℚ)) whole
  push_cast at count
  rw [burst] at count
  unfold Limiter.Refills
  linarith

end Window

/-- **A limiter keeps its promises along every sequence of calls exactly when its burst
flows in while an idle bucket expires.** -/
theorem sound_iff (limiter : Limiter) (admits : limiter.Admits) :
    limiter.Sound ↔ (limiter.burst : ℚ) ≤ limiter.rate * seconds limiter.idleExpiry :=
  ⟨refills_of_sound admits, sound_of_refills admits⟩

/-- The limiter of the clients, by default. -/
theorem clientLimiter_sound :
    Limiter.Sound { rate := 20, burst := 40, maxKeys := 100000, idleExpiry := 10 * Duration.minute } :=
  (sound_iff _ (by decide +kernel)).mpr (by decide +kernel)

/-- One call a second and bursts of a thousand, which the configuration accepts. -/
def slowLimiter : Limiter :=
  { rate := 1, burst := 1000, maxKeys := 100000, idleExpiry := 10 * Duration.minute }

theorem slowLimiter_unsound : slowLimiter.Admits ∧ ¬ slowLimiter.Sound := by
  have admits : slowLimiter.Admits := by decide +kernel
  refine ⟨admits, fun sound => ?_⟩
  exact absurd (refills_of_sound admits sound) (by decide +kernel)

end SlotsGame.Platform
