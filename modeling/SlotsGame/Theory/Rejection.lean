/-
# SlotsGame.Theory.Rejection -- sampling by rejection

A draw is accepted with an outcome or rejected, and a rejected draw is followed by another.
`sample_card` counts the sequences of draws that end in an outcome: whatever their
length, two outcomes that are accepted from equally many draws end equally many of them.

The draws of a fixed size are reduced below a bound without a bias by rejecting the first
`size % bound` of them (`accepted_card`).
-/
import Mathlib.Algebra.BigOperators.Fin
import Mathlib.Data.Fintype.BigOperators
import Mathlib.Data.Nat.Count
import Mathlib.Data.Nat.Periodic

namespace SlotsGame.Theory.Rejection

set_option autoImplicit false

universe u v

/-! ## Accepted residues -/

section Residues

variable {size bound residue : Nat}

theorem block_card (inside : residue < bound) (start : Nat) :
    ((Finset.Ico start (start + bound)).filter fun draw => draw % bound = residue).card = 1 := by
  have periodic : Function.Periodic (fun draw => draw % bound = residue) bound := by
    intro draw
    simp only [Nat.add_mod_right]
  rw [Nat.filter_Ico_card_eq_of_periodic start bound _ periodic, Nat.count_eq_card_filter_range]
  have only : ((Finset.range bound).filter fun draw => draw % bound = residue) = {residue} := by
    ext draw
    simp only [Finset.mem_filter, Finset.mem_range, Finset.mem_singleton]
    constructor
    · rintro ⟨below, same⟩
      rwa [Nat.mod_eq_of_lt below] at same
    · rintro rfl
      exact ⟨inside, Nat.mod_eq_of_lt inside⟩
  rw [only, Finset.card_singleton]

theorem blocks_card (inside : residue < bound) (start blocks : Nat) :
    ((Finset.Ico start (start + bound * blocks)).filter fun draw => draw % bound = residue).card =
      blocks := by
  induction blocks with
  | zero => simp
  | succ blocks ih =>
      have split : Finset.Ico start (start + bound * (blocks + 1)) =
          Finset.Ico start (start + bound * blocks) ∪
            Finset.Ico (start + bound * blocks) (start + bound * blocks + bound) := by
        rw [Finset.Ico_union_Ico_eq_Ico (by omega) (by omega), Nat.mul_succ, Nat.add_assoc]
      rw [split, Finset.filter_union, Finset.card_union_of_disjoint, ih, block_card inside]
      exact Finset.disjoint_filter_filter (Finset.Ico_disjoint_Ico_consecutive _ _ _)

/-- Every residue is left by the same number of draws, if the first `size % bound` are
rejected. -/
theorem accepted_card (inside : residue < bound) :
    ((Finset.range size).filter fun draw => size % bound ≤ draw ∧ draw % bound = residue).card =
      size / bound := by
  have whole : size % bound + bound * (size / bound) = size := Nat.mod_add_div size bound
  have kept : ((Finset.range size).filter fun draw => size % bound ≤ draw ∧ draw % bound = residue) =
      (Finset.Ico (size % bound) (size % bound + bound * (size / bound))).filter fun draw =>
        draw % bound = residue := by
    ext draw
    simp only [Finset.mem_filter, Finset.mem_range, Finset.mem_Ico, whole]
    tauto
  rw [kept, blocks_card inside]

end Residues

/-! ## Sequences of draws -/

section Sequences

variable {α : Type u} {β : Type v} {accept : α → Option β}

/-- The outcome of the first draw that is accepted, and the draws after it. -/
def sample (accept : α → Option β) : List α → Option (β × List α)
  | [] => none
  | draw :: rest =>
      match accept draw with
      | some outcome => some (outcome, rest)
      | none => sample accept rest

/-- The last draw is the one that was accepted. -/
theorem sample_append_iff {front : List α} {last : α} {outcome : β} :
    sample accept (front ++ [last]) = some (outcome, []) ↔
      (∀ draw ∈ front, accept draw = none) ∧ accept last = some outcome := by
  induction front with
  | nil =>
      rw [List.nil_append, sample]
      split
      next found accepted => simp [accepted, eq_comm]
      next rejected => simp [sample, rejected]
  | cons draw front ih =>
      rw [List.cons_append, sample]
      cases rejected : accept draw with
      | some found =>
          simp only [List.forall_mem_cons, rejected]
          constructor
          · intro same
            obtain ⟨_, absurd⟩ := Prod.mk.inj (Option.some.inj same)
            simp at absurd
          · rintro ⟨⟨absurd, _⟩, _⟩
            cases absurd
      | none => simp only [ih, List.forall_mem_cons, rejected, true_and]

variable [DecidableEq α] [DecidableEq β]

/-- How many sequences of `rejected + 1` draws end in an outcome. -/
theorem sample_card (draws : Finset α) (accept : α → Option β) (rejected : Nat) (outcome : β) :
    ((Fintype.piFinset fun _ : Fin (rejected + 1) => draws).filter fun sequence =>
      sample accept (List.ofFn sequence) = some (outcome, [])).card =
      (draws.filter fun draw => accept draw = none).card ^ rejected *
        (draws.filter fun draw => accept draw = some outcome).card := by
  have places : ((Fintype.piFinset fun _ : Fin (rejected + 1) => draws).filter fun sequence =>
      sample accept (List.ofFn sequence) = some (outcome, [])) =
      Fintype.piFinset (Fin.snoc (fun _ : Fin rejected => draws.filter fun draw => accept draw = none)
        (draws.filter fun draw => accept draw = some outcome)) := by
    ext sequence
    rw [Finset.mem_filter, Fintype.mem_piFinset, Fintype.mem_piFinset, List.ofFn_succ_last,
      sample_append_iff, Fin.forall_fin_succ', Fin.forall_fin_succ']
    simp only [Fin.snoc_castSucc, Fin.snoc_last, Finset.mem_filter, List.forall_mem_ofFn_iff]
    constructor
    · rintro ⟨⟨front, last⟩, none, accepted⟩
      exact ⟨fun place => ⟨front place, none place⟩, last, accepted⟩
    · rintro ⟨front, last, accepted⟩
      exact ⟨⟨fun place => (front place).1, last⟩, fun place => (front place).2, accepted⟩
  rw [places, Fintype.card_piFinset, Fin.prod_univ_castSucc]
  simp only [Fin.snoc_castSucc, Fin.snoc_last, Finset.prod_const, Finset.card_univ, Fintype.card_fin]

end Sequences

end SlotsGame.Theory.Rejection
