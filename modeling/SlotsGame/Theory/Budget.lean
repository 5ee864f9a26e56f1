/-
# SlotsGame.Theory.Budget -- demands paid in order from one budget

`spend budget demands` pays each demand in full while the budget lasts, the
first one it cannot cover in part, and every later one nothing.  Nothing is
assumed of a demand but that it is not negative.

The facts a user needs: a payment in order composes (`spend_append`), also out
of what a group of demands was paid as one (`spend_flatten`); it pays `min` of
the budget and the demand (`spend_sum`); each payment is fixed by the demands
before it (`spend_getElem?`), so nothing is paid behind a demand left open
(`spend_prefix`); and a larger budget pays no demand less (`spend_mono`).
`payAll` writes the payments into the records that demanded them.
-/
import Mathlib.Algebra.BigOperators.Group.List.Basic
import Mathlib.Algebra.Order.BigOperators.Group.List
import Mathlib.Algebra.Order.Group.MinMax

namespace SlotsGame.Theory.Budget

set_option autoImplicit false

universe u v w

variable {α : Type u} [AddCommGroup α] [LinearOrder α]

/-- What each demand is paid, in order, from a budget. -/
def spend : α → List α → List α
  | _, [] => []
  | budget, demand :: rest =>
      min demand budget :: spend (budget - min demand budget) rest

@[simp] theorem spend_nil (budget : α) : spend budget [] = [] := rfl

@[simp] theorem spend_cons (budget demand : α) (rest : List α) :
    spend budget (demand :: rest) =
      min demand budget :: spend (budget - min demand budget) rest := rfl

@[simp] theorem spend_length (budget : α) (demands : List α) :
    (spend budget demands).length = demands.length := by
  induction demands generalizing budget with
  | nil => rfl
  | cons demand rest ih => simp [ih]

theorem demand_nonneg_tail {demand : α} {rest : List α}
    (nonneg : ∀ d ∈ demand :: rest, 0 ≤ d) : 0 ≤ demand ∧ ∀ d ∈ rest, 0 ≤ d :=
  ⟨nonneg demand (by simp), fun d member => nonneg d (by simp [member])⟩

/-- No demand is paid more than it asks. -/
theorem spend_le (budget : α) (demands : List α) :
    List.Forall₂ (· ≤ ·) (spend budget demands) demands := by
  induction demands generalizing budget with
  | nil => exact .nil
  | cons demand rest ih => exact .cons (min_le_left _ _) (ih _)

section Ordered

variable [IsOrderedAddMonoid α] {budget : α} {demands later : List α}

/-- One payment in front of the rest, totalled. -/
theorem min_add_min_sub {demand total : α} (nonneg : 0 ≤ total) :
    min demand budget + min total (budget - min demand budget) = min (demand + total) budget := by
  rcases le_total demand budget with covered | short
  · rw [min_eq_left covered, ← min_add_add_left, add_sub_cancel]
  · have beyond : budget ≤ demand + total := le_add_of_le_of_nonneg short nonneg
    rw [min_eq_right short, min_eq_right beyond, sub_self, min_eq_right nonneg, add_zero]

/-- **What is paid in all is the smaller of the budget and the demand.** -/
theorem spend_sum (solvent : 0 ≤ budget) (nonneg : ∀ d ∈ demands, 0 ≤ d) :
    (spend budget demands).sum = min demands.sum budget := by
  induction demands generalizing budget with
  | nil => simp [solvent]
  | cons demand rest ih =>
      obtain ⟨_, restNonneg⟩ := demand_nonneg_tail nonneg
      have left : 0 ≤ budget - min demand budget := sub_nonneg.mpr (min_le_right _ _)
      rw [spend_cons, List.sum_cons, List.sum_cons, ih left restNonneg]
      exact min_add_min_sub (List.sum_nonneg restNonneg)

/-- Paying a second list continues from what the first one left. -/
theorem spend_append (solvent : 0 ≤ budget) (nonneg : ∀ d ∈ demands, 0 ≤ d) :
    spend budget (demands ++ later) =
      spend budget demands ++ spend (budget - min demands.sum budget) later := by
  induction demands generalizing budget with
  | nil => simp [solvent]
  | cons demand rest ih =>
      obtain ⟨_, restNonneg⟩ := demand_nonneg_tail nonneg
      have left : 0 ≤ budget - min demand budget := sub_nonneg.mpr (min_le_right _ _)
      rw [List.cons_append, spend_cons, spend_cons, ih left restNonneg, List.cons_append,
        List.sum_cons, sub_sub, min_add_min_sub (List.sum_nonneg restNonneg)]

/-- A payment is never negative. -/
theorem spend_nonneg (solvent : 0 ≤ budget) (nonneg : ∀ d ∈ demands, 0 ≤ d) :
    ∀ paid ∈ spend budget demands, 0 ≤ paid := by
  induction demands generalizing budget with
  | nil => simp
  | cons demand rest ih =>
      obtain ⟨demandNonneg, restNonneg⟩ := demand_nonneg_tail nonneg
      have left : 0 ≤ budget - min demand budget := sub_nonneg.mpr (min_le_right _ _)
      intro paid member
      rcases List.mem_cons.mp member with rfl | member
      · exact le_min demandNonneg solvent
      · exact ih left restNonneg paid member

/-- Demands the budget covers are paid in full. -/
theorem spend_of_covered (nonneg : ∀ d ∈ demands, 0 ≤ d) (covered : demands.sum ≤ budget) :
    spend budget demands = demands := by
  induction demands generalizing budget with
  | nil => rfl
  | cons demand rest ih =>
      obtain ⟨_, restNonneg⟩ := demand_nonneg_tail nonneg
      rw [List.sum_cons] at covered
      have first : demand ≤ budget :=
        (le_add_of_nonneg_right (List.sum_nonneg restNonneg)).trans covered
      rw [spend_cons, min_eq_left first, ih restNonneg (by rwa [le_sub_iff_add_le'])]

/-- **Each payment is fixed by the demands before it.** -/
theorem spend_getElem? (solvent : 0 ≤ budget) (nonneg : ∀ d ∈ demands, 0 ≤ d) (index : Nat) :
    (spend budget demands)[index]? =
      demands[index]?.map fun demand =>
        min demand (budget - min (demands.take index).sum budget) := by
  induction demands generalizing budget index with
  | nil => simp
  | cons demand rest ih =>
      obtain ⟨_, restNonneg⟩ := demand_nonneg_tail nonneg
      cases index with
      | zero => simp [solvent]
      | succ index =>
          have left : 0 ≤ budget - min demand budget := sub_nonneg.mpr (min_le_right _ _)
          have before : 0 ≤ (rest.take index).sum :=
            List.sum_nonneg fun d member => restNonneg d (List.mem_of_mem_take member)
          simp only [spend_cons, List.getElem?_cons_succ, List.take_succ_cons, List.sum_cons]
          rw [ih left restNonneg, sub_sub, min_add_min_sub before]

/-- **Nothing is paid behind a demand that is not paid in full.** -/
theorem spend_prefix (solvent : 0 ≤ budget) (nonneg : ∀ d ∈ demands, 0 ≤ d) {first later : Nat}
    (before : first < later) {paid demand : α} (found : (spend budget demands)[later]? = some paid)
    (positive : 0 < paid) (demanded : demands[first]? = some demand) :
    (spend budget demands)[first]? = some demand := by
  rw [spend_getElem? solvent nonneg, Option.map_eq_some_iff] at found
  obtain ⟨last, _, rfl⟩ := found
  -- the demands before the later one leave something of the budget
  have left : (demands.take later).sum < budget := by
    by_contra short
    rw [min_eq_right (not_lt.mp short), sub_self] at positive
    exact absurd (positive.trans_le (min_le_right _ _)) (lt_irrefl 0)
  have through : (demands.take first).sum + demand ≤ (demands.take later).sum := by
    have taken : demands.take (first + 1) = demands.take first ++ [demand] := by
      rw [List.take_add_one, demanded]
      rfl
    have split : demands.take later =
        demands.take (first + 1) ++ (demands.drop (first + 1)).take (later - (first + 1)) := by
      rw [← List.take_add]
      congr 1
      omega
    have rest : 0 ≤ ((demands.drop (first + 1)).take (later - (first + 1))).sum :=
      List.sum_nonneg fun d member => nonneg d (List.mem_of_mem_drop (List.mem_of_mem_take member))
    rw [split, List.sum_append, taken, List.sum_append, List.sum_singleton]
    exact le_add_of_nonneg_right rest
  have covered : demand ≤ budget - min (demands.take first).sum budget := by
    have first_le : (demands.take first).sum ≤ budget :=
      (le_add_of_nonneg_right (nonneg demand (List.mem_of_getElem? demanded))).trans
        (through.trans left.le)
    rw [min_eq_left first_le, le_sub_iff_add_le']
    exact through.trans left.le
  rw [spend_getElem? solvent nonneg, demanded, Option.map_some, min_eq_left covered]

/-- **A larger budget pays no demand less.** -/
theorem spend_mono {larger : α} (le : budget ≤ larger) (demands : List α) :
    List.Forall₂ (· ≤ ·) (spend budget demands) (spend larger demands) := by
  induction demands generalizing budget larger with
  | nil => exact .nil
  | cons demand rest ih =>
      refine .cons (min_le_min_left _ le) (ih ?_)
      rcases le_total demand budget with covered | short
      · rw [min_eq_left covered, min_eq_left (covered.trans le)]
        exact sub_le_sub_right le demand
      · rw [min_eq_right short, sub_self]
        exact sub_nonneg.mpr (min_le_right _ _)

/-- A budget beyond the demand changes nothing. -/
theorem spend_min (nonneg : ∀ d ∈ demands, 0 ≤ d) :
    spend (min demands.sum budget) demands = spend budget demands := by
  rcases le_total demands.sum budget with covered | short
  · rw [min_eq_left covered, spend_of_covered nonneg le_rfl, spend_of_covered nonneg covered]
  · rw [min_eq_right short]

/-- **A group of demands may be paid as one, and share what it is paid.** -/
theorem spend_flatten {groups : List (List α)} (solvent : 0 ≤ budget)
    (nonneg : ∀ group ∈ groups, ∀ d ∈ group, 0 ≤ d) :
    spend budget groups.flatten =
      (List.zipWith spend (spend budget (groups.map List.sum)) groups).flatten := by
  induction groups generalizing budget with
  | nil => rfl
  | cons group rest ih =>
      have here := nonneg group List.mem_cons_self
      have left : 0 ≤ budget - min group.sum budget := sub_nonneg.mpr (min_le_right _ _)
      rw [List.flatten_cons, spend_append solvent here, List.map_cons, spend_cons,
        List.zipWith_cons_cons, List.flatten_cons, spend_min here,
        ih left fun other member => nonneg other (List.mem_cons_of_mem _ member)]

end Ordered

/-! ## Payments written into records -/

section Records

variable {β : Type v} {γ : Type w} (demand : β → α) (pay : β → α → γ)

/-- Every record with its payment, in order, from one budget. -/
def payAll : α → List β → List γ
  | _, [] => []
  | budget, record :: rest =>
      pay record (min (demand record) budget) ::
        payAll (budget - min (demand record) budget) rest

variable {demand pay}

theorem payAll_eq_zipWith (budget : α) (records : List β) :
    payAll demand pay budget records =
      List.zipWith pay records (spend budget (records.map demand)) := by
  induction records generalizing budget with
  | nil => rfl
  | cons record rest ih => simp [payAll, ih]

/-- Reading the payments back gives the greedy payment of the demands. -/
theorem payAll_map_paid (paid : γ → α) (reads : ∀ record a, paid (pay record a) = a)
    (budget : α) (records : List β) :
    (payAll demand pay budget records).map paid = spend budget (records.map demand) := by
  induction records generalizing budget with
  | nil => rfl
  | cons record rest ih => simp [payAll, reads, ih]

/-- What a payment does not touch is kept. -/
theorem payAll_map_kept {δ : Type*} (kept : γ → δ) (original : β → δ)
    (keeps : ∀ record a, kept (pay record a) = original record)
    (budget : α) (records : List β) :
    (payAll demand pay budget records).map kept = records.map original := by
  induction records generalizing budget with
  | nil => rfl
  | cons record rest ih => simp [payAll, keeps, ih]

theorem payAll_mem {budget : α} {records : List β} {paid : γ}
    (member : paid ∈ payAll demand pay budget records) :
    ∃ record ∈ records, ∃ amount, paid = pay record amount := by
  induction records generalizing budget with
  | nil => simp [payAll] at member
  | cons record rest ih =>
      rcases List.mem_cons.mp member with here | later
      · exact ⟨record, by simp, _, here⟩
      · obtain ⟨found, foundMember, amount, same⟩ := ih later
        exact ⟨found, by simp [foundMember], amount, same⟩

end Records

end SlotsGame.Theory.Budget
