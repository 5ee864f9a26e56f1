/-
# SlotsGame.Theory.Remainders -- a total shared by largest remainder

Shares of a total are first rounded down; what is left over goes, one unit each,
to the shares with the largest remainders.  `Rounds` is what the total must
satisfy: less than one unit away from the exact sum.  Then the rest lies between
zero and the number of shares (`rest_bounds`), the shares add up to the total,
each is its floor or one more, and the order of the demands is kept (`shared`).
-/
import Mathlib.Algebra.Order.BigOperators.Group.List
import Mathlib.Data.List.Sort
import Mathlib.Tactic.Linarith

namespace SlotsGame.Theory

set_option autoImplicit false

universe u v

/-! ## Rewriting a choice of the items -/

/-- Rewrite the items at some indexes. -/
def modifyAll {α : Type u} (update : α → α) (items : List α) (indexes : List Nat) : List α :=
  indexes.foldl (fun items index => items.modify index update) items

section Modify

variable {α : Type u} {β : Type v} {update : α → α} {items : List α} {indexes : List Nat}

@[simp] theorem modifyAll_length : (modifyAll update items indexes).length = items.length := by
  induction indexes generalizing items with
  | nil => rfl
  | cons index rest ih =>
      have step : (modifyAll update (items.modify index update) rest).length =
          (items.modify index update).length := ih
      simpa [modifyAll] using step

theorem modifyAll_getElem? (distinct : indexes.Nodup) (index : Nat) :
    (modifyAll update items indexes)[index]? =
      if index ∈ indexes then items[index]?.map update else items[index]? := by
  induction indexes generalizing items with
  | nil => rfl
  | cons first rest ih =>
      obtain ⟨fresh, distinct⟩ := List.nodup_cons.mp distinct
      have step : (modifyAll update items (first :: rest))[index]? =
          if index ∈ rest then (items.modify first update)[index]?.map update
          else (items.modify first update)[index]? := ih distinct
      rw [step, List.getElem?_modify]
      by_cases here : first = index
      · subst here
        simp [fresh]
      · simp [here, Ne.symm here]

/-- What no update changes stays as it was. -/
theorem modifyAll_map {view : α → β} (same : ∀ item, view (update item) = view item) :
    (modifyAll update items indexes).map view = items.map view := by
  induction indexes generalizing items with
  | nil => rfl
  | cons first rest ih =>
      have step : (modifyAll update (items.modify first update) rest).map view =
          (items.modify first update).map view := ih
      refine step.trans (List.ext_getElem? fun index => ?_)
      rw [List.getElem?_map, List.getElem?_map, List.getElem?_modify]
      by_cases here : first = index
      · cases found : items[index]? <;> simp [here, same]
      · simp [here]

/-- Updating the items updates their view. -/
theorem modifyAll_view {view : α → β} {shown : β → β}
    (follows : ∀ item, view (update item) = shown (view item)) :
    (modifyAll update items indexes).map view = modifyAll shown (items.map view) indexes := by
  induction indexes generalizing items with
  | nil => rfl
  | cons first rest ih =>
      have step : (modifyAll update (items.modify first update) rest).map view =
          modifyAll shown ((items.modify first update).map view) rest := ih
      refine step.trans ?_
      have once : (items.modify first update).map view = (items.map view).modify first shown := by
        refine List.ext_getElem? fun index => ?_
        rw [List.getElem?_map, List.getElem?_modify, List.getElem?_modify, List.getElem?_map]
        by_cases here : first = index
        · cases found : items[index]? <;> simp [here, follows]
        · simp [here]
      rw [once]
      rfl

theorem modify_sum {items : List Int} {index : Nat} (inside : index < items.length) :
    (items.modify index (· + 1)).sum = items.sum + 1 := by
  induction items generalizing index with
  | nil => simp at inside
  | cons first rest ih =>
      cases index with
      | zero =>
          simp only [List.modify_zero_cons, List.sum_cons]
          omega
      | succ index =>
          have tail := ih (by simpa using inside)
          simp only [List.modify_succ_cons, List.sum_cons, tail]
          omega

theorem modifyAll_sum {items : List Int} (inside : ∀ index ∈ indexes, index < items.length) :
    (modifyAll (· + 1) items indexes).sum = items.sum + indexes.length := by
  induction indexes generalizing items with
  | nil => simp [modifyAll]
  | cons first rest ih =>
      have step : (modifyAll (· + 1) (items.modify first (· + 1)) rest).sum =
          (items.modify first (· + 1)).sum + rest.length :=
        ih fun index member => by simpa using inside index (by simp [member])
      have once := modify_sum (inside first (by simp))
      show (modifyAll (· + 1) (items.modify first (· + 1)) rest).sum = _
      rw [step, once, List.length_cons]
      push_cast
      omega

end Modify

/-! ## How much is left over -/

section Floors

variable {unit total : Int} {demands : List Int}

/-- The total is the exact sum of the demands rounded to a neighbour. -/
structure Rounds (unit sum total : Int) : Prop where
  above : sum / unit ≤ total
  below : unit * total < sum + unit

theorem sum_split (unit : Int) (demands : List Int) :
    demands.sum = unit * (demands.map (· / unit)).sum + (demands.map (· % unit)).sum := by
  induction demands with
  | nil => simp
  | cons demand rest ih =>
      have split := Int.mul_ediv_add_emod demand unit
      simp only [List.sum_cons, List.map_cons, mul_add]
      linarith

theorem remainders_bounds (positive : 0 < unit) (demands : List Int) :
    0 ≤ (demands.map (· % unit)).sum ∧
      (demands.map (· % unit)).sum ≤ demands.length * (unit - 1) := by
  induction demands with
  | nil => simp
  | cons demand rest ih =>
      have low := Int.emod_nonneg demand positive.ne'
      have high := Int.emod_lt_of_pos demand positive
      simp only [List.map_cons, List.sum_cons, List.length_cons]
      push_cast
      constructor
      · omega
      · linarith

/-- **There is between nothing and one unit for each share left over.** -/
theorem rest_bounds (positive : 0 < unit) (rounds : Rounds unit demands.sum total) :
    (demands.map (· / unit)).sum ≤ total ∧
      total - (demands.map (· / unit)).sum ≤ demands.length := by
  have split := sum_split unit demands
  obtain ⟨low, high⟩ := remainders_bounds positive demands
  have floors : (demands.map (· / unit)).sum ≤ demands.sum / unit :=
    (Int.le_ediv_iff_mul_le positive).mpr (by linarith)
  refine ⟨floors.trans rounds.above, ?_⟩
  have below := rounds.below
  have bounded : unit * (total - (demands.map (· / unit)).sum) < unit * (demands.length + 1) := by
    linarith
  have := lt_of_mul_lt_mul_left bounded positive.le
  omega

end Floors

/-! ## Who gets it -/

section Largest

variable {β : Type u} {key : β → Int}

/-- The front of a list sorted by falling key holds no smaller key than the rest. -/
theorem take_largest {order : List β} (sorted : order.Pairwise fun a b => key a ≥ key b)
    {count : Nat} {chosen other : β} (front : chosen ∈ order.take count)
    (back : other ∈ order.drop count) : key other ≤ key chosen := by
  rw [← List.take_append_drop count order, List.pairwise_append] at sorted
  exact sorted.2.2 chosen front other back

end Largest

/-- The shares of a total: they add up to it, each is the floor of its demand or
one more, and a larger demand has no smaller share. -/
structure Shared (unit : Int) (demands : List Int) (total : Int) (shares : List Int) : Prop where
  length : shares.length = demands.length
  sum : shares.sum = total
  floor : ∀ {index : Nat} {demand share : Int}, demands[index]? = some demand →
    shares[index]? = some share → share = demand / unit ∨ share = demand / unit + 1
  ordered : ∀ {low high : Nat} {less more small large : Int}, demands[low]? = some less →
    demands[high]? = some more → shares[low]? = some small → shares[high]? = some large →
    less < more → small ≤ large

/-- The demands with the largest remainders: any other has no larger one. -/
structure Largest (unit : Int) (demands : List Int) (chosen : List Nat) : Prop where
  distinct : chosen.Nodup
  inside : ∀ index ∈ chosen, index < demands.length
  largest : ∀ {index other : Nat} {demand third : Int}, index ∈ chosen → other ∉ chosen →
    demands[index]? = some demand → demands[other]? = some third → third % unit ≤ demand % unit

/-- **Giving the rest to the largest remainders shares the total.** -/
theorem Largest.shared {unit total : Int} {demands : List Int} {chosen : List Nat}
    (positive : 0 < unit) (largest : Largest unit demands chosen)
    (rest : total = (demands.map (· / unit)).sum + chosen.length) :
    Shared unit demands total (modifyAll (· + 1) (demands.map (· / unit)) chosen) := by
  have share {index : Nat} {demand share : Int} (asked : demands[index]? = some demand)
      (given : (modifyAll (· + 1) (demands.map (· / unit)) chosen)[index]? = some share) :
      share = if index ∈ chosen then demand / unit + 1 else demand / unit := by
    rw [modifyAll_getElem? largest.distinct, List.getElem?_map, asked] at given
    split at given <;> simp_all
  refine ⟨by simp, ?_, ?_, ?_⟩
  · rw [modifyAll_sum (by simpa using largest.inside), rest]
  · intro index demand given asked found
    rw [share asked found]
    split
    · exact .inr rfl
    · exact .inl rfl
  · intro low high less more small large askedLow askedHigh givenLow givenHigh smaller
    rw [share askedLow givenLow, share askedHigh givenHigh]
    have floors : less / unit ≤ more / unit := Int.ediv_le_ediv positive smaller.le
    by_cases equal : less / unit = more / unit
    · -- the floors agree, so the remainders differ as the demands do
      have splitLess := Int.mul_ediv_add_emod less unit
      have splitMore := Int.mul_ediv_add_emod more unit
      rw [equal] at splitLess
      by_cases taken : low ∈ chosen
      · by_cases also : high ∈ chosen
        · simp [taken, also, equal]
        · have := largest.largest taken also askedLow askedHigh
          omega
      · rw [if_neg taken, equal]
        split <;> omega
    · split <;> split <;> omega

/-- The front of the demands' records, sorted by falling remainder. -/
theorem largest_of_sorted {β : Type u} {unit : Int} {demands : List Int} {order : List β}
    {index : β → Nat} {remainder : β → Int} (count : Nat)
    (indexes : (order.map index).Perm (List.range demands.length))
    (records : ∀ record ∈ order, ∀ demand, demands[index record]? = some demand →
      remainder record = demand % unit)
    (sorted : order.Pairwise fun a b => remainder a ≥ remainder b) :
    Largest unit demands ((order.take count).map index) := by
  have distinct : (order.map index).Nodup := indexes.nodup_iff.mpr List.nodup_range
  refine ⟨distinct.sublist ((List.take_sublist _ _).map _), ?_, ?_⟩
  · intro place member
    obtain ⟨record, front, rfl⟩ := List.mem_map.mp member
    exact List.mem_range.mp (indexes.mem_iff.mp (List.mem_map_of_mem (List.mem_of_mem_take front)))
  · intro place other demand third member missed asked askedOther
    obtain ⟨record, front, rfl⟩ := List.mem_map.mp member
    have inRange : other ∈ List.range demands.length :=
      List.mem_range.mpr (List.getElem?_eq_some_iff.mp askedOther).1
    obtain ⟨rest, inOrder, rfl⟩ := List.mem_map.mp (indexes.mem_iff.mpr inRange)
    have back : rest ∈ order.drop count := by
      rw [← List.take_append_drop count order] at inOrder
      rcases List.mem_append.mp inOrder with inFront | inBack
      · exact absurd (List.mem_map_of_mem inFront) missed
      · exact inBack
    rw [← records rest (List.mem_of_mem_drop back) third askedOther,
      ← records record (List.mem_of_mem_take front) demand asked]
    exact take_largest sorted front back

end SlotsGame.Theory
