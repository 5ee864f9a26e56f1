/-
# SlotsGame.Theory.RoundRobin -- taking turns by rank

Every owner has a queue, and the members of all queues are sorted by their rank in
their own queue: the first of each, then the second of each, and so on.  Whatever
limit is put on such a sequence, it takes a prefix of each queue (`RoundRobin.served`),
and no owner gets a second turn more than another that still waits
(`RoundRobin.fair`).  The comparators that such a sequence is sorted by compare one key
after another (`Sorts.lex`).
-/
import Mathlib.Data.List.Basic
import Mathlib.Data.List.Dedup
import Mathlib.Data.List.Perm.Basic
import Mathlib.Order.Lattice
import Mathlib.Order.Nat

namespace SlotsGame.Theory

set_option autoImplicit false

universe u v w

/-! ## Comparators -/

section Comparators

variable {α : Type u} {β : Type v} [LinearOrder β]

/-- A comparator that is total and transitive. -/
structure Sorts (before : α → α → Bool) : Prop where
  total : ∀ left right, (before left right || before right left) = true
  trans : ∀ left middle right, before left middle = true → before middle right = true →
    before left right = true

/-- Compare by one key. -/
theorem Sorts.of_key (key : α → β) : Sorts fun left right => decide (key left ≤ key right) where
  total left right := by
    rw [Bool.or_eq_true, decide_eq_true_eq, decide_eq_true_eq]
    exact le_total _ _
  trans left middle right first second := by
    rw [decide_eq_true_eq] at first second ⊢
    exact le_trans first second

/-- Compare by a key, and by something else where it is the same. -/
theorem Sorts.lex (key : α → β) {next : α → α → Bool} (sorts : Sorts next) :
    Sorts fun left right => if key left ≠ key right then decide (key left < key right)
      else next left right where
  total left right := by
    rcases lt_trichotomy (key left) (key right) with less | same | greater
    · simp [less.ne, less]
    · simpa [same] using sorts.total left right
    · simp [greater.ne, greater]
  trans left middle right first second := by
    simp only [ne_eq, ite_not] at first second ⊢
    split at first <;> split at second
    · next same same' =>
      rw [if_pos (same.trans same')]
      exact sorts.trans left middle right first second
    · next same _ =>
      rw [decide_eq_true_eq, ← same] at second
      rw [if_neg second.ne, decide_eq_true_eq]
      exact second
    · next same' =>
      rw [decide_eq_true_eq, same'] at first
      rw [if_neg first.ne, decide_eq_true_eq]
      exact first
    · rw [decide_eq_true_eq] at first second
      have less := lt_trans first second
      rw [if_neg less.ne, decide_eq_true_eq]
      exact less

theorem Sorts.mergeSort {before : α → α → Bool} (sorts : Sorts before) (items : List α) :
    (items.mergeSort before).Pairwise fun left right => before left right = true :=
  List.pairwise_mergeSort sorts.trans sorts.total items

end Comparators

/-! ## Ranks -/

section Ranks

variable {α : Type u}

/-- The members of a queue with their ranks, counted from one. -/
def ranked (queue : List α) : List (Nat × α) := (queue.zipIdx 1).map fun (item, rank) => (rank, item)

theorem ranked_items (queue : List α) : (ranked queue).map (·.2) = queue := by
  rw [ranked, List.map_map]
  exact List.zipIdx_map_fst 1 _

theorem ranked_length (queue : List α) : (ranked queue).length = queue.length := by
  rw [ranked, List.length_map, List.length_zipIdx]

theorem ranked_getElem (queue : List α) (place : Nat) (inside : place < (ranked queue).length) :
    (ranked queue)[place] =
      (place + 1, queue.get ⟨place, by rwa [ranked_length] at inside⟩) := by
  simp only [ranked, List.getElem_map, List.getElem_zipIdx, Nat.add_comm, List.get_eq_getElem]

theorem ranked_sorted (queue : List α) : (ranked queue).Pairwise fun left right => left.1 < right.1 := by
  rw [List.pairwise_iff_getElem]
  intro first second _ _ less
  rw [ranked_getElem, ranked_getElem]
  exact Nat.succ_lt_succ less

end Ranks

/-! ## Turns -/

section Turns

variable {α : Type u} {κ : Type v} [DecidableEq κ] (owner : α → κ)

/-- A sequence of turns, sorted by rank. -/
structure RoundRobin (queue : κ → List α) (turns : List (Nat × α)) : Prop where
  sorted : turns.Pairwise fun left right => left.1 ≤ right.1
  members : ∀ of, (turns.filter fun turn => owner turn.2 = of).Perm (ranked (queue of))

/-- How many turns of an owner are within the limit. -/
def turnsWithin (turns : List (Nat × α)) (limit : Nat) (of : κ) : Nat :=
  ((turns.take limit).filter fun turn => owner turn.2 = of).length

variable {owner} {queue : κ → List α} {turns : List (Nat × α)}

/-- The turns of one owner are its queue. -/
theorem RoundRobin.filter_eq (robin : RoundRobin owner queue turns) (of : κ) :
    (turns.filter fun turn => owner turn.2 = of) = ranked (queue of) := by
  have perm := robin.members of
  have distinct : ((turns.filter fun turn => owner turn.2 = of).map (·.1)).Nodup := by
    rw [(perm.map _).nodup_iff, List.Nodup, List.pairwise_map]
    exact (ranked_sorted (queue of)).imp fun less => less.ne
  have strict : (turns.filter fun turn => owner turn.2 = of).Pairwise
      fun left right => left.1 < right.1 := by
    rw [List.Nodup, List.pairwise_map] at distinct
    exact (robin.sorted.filter _).imp₂ (fun _ _ le ne => lt_of_le_of_ne le ne) distinct
  refine List.Perm.eq_of_pairwise ?_ strict (ranked_sorted (queue of)) perm
  intro left right _ _ less greater
  exact absurd less (Nat.lt_asymm greater)

theorem RoundRobin.take_filter (robin : RoundRobin owner queue turns) (limit : Nat) (of : κ) :
    ((turns.take limit).filter fun turn => owner turn.2 = of) =
      (ranked (queue of)).take (turnsWithin owner turns limit of) := by
  have split := congrArg (List.filter fun turn => decide (owner turn.2 = of))
    (List.take_append_drop limit turns)
  rw [List.filter_append, robin.filter_eq] at split
  rw [← split, turnsWithin, List.take_left']
  rfl

/-- The limit takes a prefix of each queue. -/
theorem RoundRobin.served (robin : RoundRobin owner queue turns) (limit : Nat) (of : κ) :
    (((turns.take limit).map (·.2)).filter fun item => owner item = of) =
      (queue of).take (turnsWithin owner turns limit of) := by
  have mapped : (((turns.take limit).map (·.2)).filter fun item => owner item = of) =
      ((turns.take limit).filter fun turn => owner turn.2 = of).map (·.2) := by
    rw [List.filter_map]
    rfl
  rw [mapped, robin.take_filter, List.map_take, ranked_items]

/-- A turn that is left out has no smaller rank than one that is taken. -/
theorem take_rank_le (sorted : turns.Pairwise fun left right => left.1 ≤ right.1) {limit : Nat}
    {taken out : Nat × α} (inside : taken ∈ turns.take limit) (outside : out ∈ turns.drop limit) :
    taken.1 ≤ out.1 := by
  rw [← List.take_append_drop limit turns, List.pairwise_append] at sorted
  exact sorted.2.2 taken inside out outside

/-- Where the turn of one owner at a rank is taken, every other owner has had all its
turns of smaller ranks, or its whole queue. -/
theorem RoundRobin.fair (robin : RoundRobin owner queue turns) {limit rank : Nat} {of other : κ}
    (taken : rank ≤ turnsWithin owner turns limit of) :
    min (rank - 1) (queue other).length ≤ turnsWithin owner turns limit other := by
  by_contra short
  rw [not_le, Nat.lt_min] at short
  set held := turnsWithin owner turns limit other with held_eq
  -- the first turn of the other owner that is left out
  have outside : held < (ranked (queue other)).length := by
    rw [ranked_length]
    exact short.2
  have out : (ranked (queue other))[held] ∈ turns.drop limit := by
    have split := congrArg (List.filter fun turn => decide (owner turn.2 = other))
      (List.take_append_drop limit turns)
    rw [List.filter_append, robin.filter_eq, robin.take_filter, ← held_eq] at split
    have rest : (turns.drop limit).filter (fun turn => decide (owner turn.2 = other)) =
        (ranked (queue other)).drop held := by
      have whole := List.take_append_drop held (ranked (queue other))
      exact List.append_cancel_left (split.trans whole.symm)
    refine List.mem_of_mem_filter (p := fun turn => decide (owner turn.2 = other)) ?_
    rw [rest, List.mem_drop_iff_getElem]
    exact ⟨0, by omega, by simp⟩
  -- the turn of the rank that is taken
  have within : rank - 1 < ((turns.take limit).filter fun turn => owner turn.2 = of).length := by
    show rank - 1 < turnsWithin owner turns limit of
    omega
  have member := List.getElem_mem within
  have inside := List.mem_of_mem_filter member
  have ordered := take_rank_le robin.sorted inside out
  simp only [robin.take_filter, List.getElem_take, ranked_getElem] at ordered
  omega

end Turns

/-! ## Sorted turns -/

section Sorted

variable {α : Type u} {κ : Type v} [DecidableEq κ] (owner : α → κ) (before : α → α → Bool)
variable (order : Nat × α → Nat × α → Bool) (items : List α)

/-- The queue of an owner. -/
def queueOf (of : κ) : List α := (items.filter fun item => owner item = of).mergeSort before

/-- The turns of all owners. -/
def sortedTurns : List (Nat × α) :=
  ((items.map owner).dedup.flatMap fun of => ranked (queueOf owner before items of)).mergeSort order

variable {owner before order items}

theorem mem_queueOf {of : κ} {item : α} :
    item ∈ queueOf owner before items of ↔ item ∈ items ∧ owner item = of := by
  rw [queueOf, List.mem_mergeSort, List.mem_filter, decide_eq_true_eq]

theorem owner_of_ranked {of : κ} {turn : Nat × α}
    (member : turn ∈ ranked (queueOf owner before items of)) : owner turn.2 = of := by
  have item : turn.2 ∈ (ranked (queueOf owner before items of)).map (·.2) :=
    List.mem_map_of_mem member
  rw [ranked_items] at item
  exact (mem_queueOf.mp item).2

/-- Sorting by rank first takes turns. -/
theorem sortedTurns_roundRobin (sorts : Sorts order)
    (ranks : ∀ left right, order left right = true → left.1 ≤ right.1) :
    RoundRobin owner (queueOf owner before items) (sortedTurns owner before order items) where
  sorted := (sorts.mergeSort _).imp fun {left right} sorted => ranks left right sorted
  members of := by
    refine ((List.mergeSort_perm _ order).filter _).trans (List.Perm.of_eq ?_)
    rw [List.filter_flatMap]
    have filtered (each : κ) : (ranked (queueOf owner before items each)).filter
        (fun turn => decide (owner turn.2 = of)) =
          if each = of then ranked (queueOf owner before items of) else [] := by
      split
      · next same =>
        subst same
        exact List.filter_eq_self.mpr fun turn member => decide_eq_true (owner_of_ranked member)
      · next different =>
        refine List.filter_eq_nil_iff.mpr fun turn member => ?_
        rw [owner_of_ranked member, decide_eq_true_eq]
        exact different
    simp only [filtered]
    by_cases listed : of ∈ (items.map owner).dedup
    · have once := List.nodup_dedup (items.map owner)
      generalize (items.map owner).dedup = owners at listed once
      induction owners with
      | nil => cases listed
      | cons each rest ih =>
          rw [List.nodup_cons] at once
          rw [List.flatMap_cons]
          by_cases same : each = of
          · subst same
            have none : (rest.flatMap fun other => if other = each then
                ranked (queueOf owner before items each) else []) = [] := by
              rw [List.flatMap_eq_nil_iff]
              intro other member
              rw [if_neg]
              rintro rfl
              exact once.1 member
            rw [if_pos rfl, none, List.append_nil]
          · rw [if_neg same, List.nil_append]
            refine ih ?_ once.2
            exact (List.mem_cons.mp listed).resolve_left (Ne.symm same)
    · have empty : queueOf owner before items of = [] := by
        rw [List.eq_nil_iff_forall_not_mem]
        intro item member
        obtain ⟨held, same⟩ := mem_queueOf.mp member
        exact listed (List.mem_dedup.mpr (List.mem_map.mpr ⟨item, held, same⟩))
      rw [empty, List.flatMap_eq_nil_iff.mpr]
      · rfl
      · intro other member
        rw [if_neg]
        rintro rfl
        exact listed member

theorem flatMap_filter_perm (items : List α) {owners : List κ} (once : owners.Nodup) :
    (owners.flatMap fun of => items.filter fun item => owner item = of).Perm
      (items.filter fun item => owner item ∈ owners) := by
  induction owners with
  | nil => simp
  | cons each rest ih =>
      rw [List.nodup_cons] at once
      have first : (items.filter fun item => owner item ∈ each :: rest).filter
          (fun item => decide (owner item = each)) =
            items.filter fun item => owner item = each := by
        rw [List.filter_filter]
        refine List.filter_congr fun item _ => ?_
        by_cases same : owner item = each <;> simp [same]
      have others : (items.filter fun item => owner item ∈ each :: rest).filter
          (fun item => !decide (owner item = each)) =
            items.filter fun item => owner item ∈ rest := by
        rw [List.filter_filter]
        refine List.filter_congr fun item _ => ?_
        by_cases same : owner item = each
        · simp [same, once.1]
        · simp [same]
      have split := List.filter_append_perm (fun item => decide (owner item = each))
        (items.filter fun item => owner item ∈ each :: rest)
      rw [first, others] at split
      rw [List.flatMap_cons]
      exact ((ih once.2).append_left _).trans split

/-- Nothing is dropped or duplicated. -/
theorem sortedTurns_items : ((sortedTurns owner before order items).map (·.2)).Perm items := by
  refine ((List.mergeSort_perm _ order).map (·.2)).trans ?_
  rw [List.map_flatMap]
  have queues : ((items.map owner).dedup.flatMap fun of =>
      (ranked (queueOf owner before items of)).map (·.2)).Perm
        ((items.map owner).dedup.flatMap fun of => items.filter fun item => owner item = of) := by
    refine List.Perm.flatMap_left _ fun of _ => ?_
    rw [ranked_items]
    exact List.mergeSort_perm _ _
  refine queues.trans ((flatMap_filter_perm items (List.nodup_dedup _)).trans (List.Perm.of_eq ?_))
  refine List.filter_eq_self.mpr fun item member => decide_eq_true ?_
  exact List.mem_dedup.mpr (List.mem_map_of_mem member)

end Sorted

end SlotsGame.Theory
