/-
# SlotsGame.Theory.Shuffle -- the front of a shuffle

A partial shuffle swaps the item at a drawn place to the front and goes on with the items
behind it.  `chosen` is what it has brought to the front, and every tuple of distinct items is
chosen by exactly one sequence of draws (`chosen_unique`): draws that are uniform choose uniformly.
-/
import Mathlib.Data.List.Nodup
import Mathlib.Data.List.Perm.Basic

namespace SlotsGame.Theory.Shuffle

set_option autoImplicit false

universe u

variable {α : Type u}

/-- What is left when the item at a place has been swapped with the first one and taken. -/
def left (items : List α) (draw : Nat) : List α :=
  match items with
  | [] => []
  | first :: rest => ((first :: rest).set draw first).tail

/-- The items that a sequence of draws takes. -/
def chosen : List α → List Nat → List α
  | _, [] => []
  | items, draw :: draws =>
      match items[draw]? with
      | some item => item :: chosen (left items draw) draws
      | none => []

/-- Draws below a bound that falls by one each time. -/
def Draws : Nat → List Nat → Prop
  | _, [] => True
  | bound, draw :: draws => draw < bound ∧ Draws (bound - 1) draws

theorem left_perm {items : List α} {draw : Nat} (inside : draw < items.length) :
    (items[draw] :: left items draw).Perm items := by
  cases items with
  | nil => exact absurd inside (Nat.not_lt_zero _)
  | cons first rest =>
      cases draw with
      | zero => exact .refl _
      | succ draw =>
          have inRest : draw < rest.length := Nat.lt_of_succ_lt_succ inside
          have replaced : (rest.set draw first).Perm (first :: rest.eraseIdx draw) :=
            List.set_perm_cons_eraseIdx inRest first
          have whole : (rest[draw] :: rest.eraseIdx draw).Perm rest :=
            List.getElem_cons_eraseIdx_perm inRest
          show (rest[draw] :: rest.set draw first).Perm (first :: rest)
          calc (rest[draw] :: rest.set draw first).Perm (rest[draw] :: first :: rest.eraseIdx draw) :=
                replaced.cons _
            _ |>.Perm (first :: rest[draw] :: rest.eraseIdx draw) := .swap _ _ _
            _ |>.Perm (first :: rest) := whole.cons _

theorem left_length {items : List α} {draw : Nat} (inside : draw < items.length) :
    (left items draw).length = items.length - 1 := by
  have same := (left_perm inside).length_eq
  rw [List.length_cons] at same
  omega

theorem chosen_cons {items : List α} {draw : Nat} (inside : draw < items.length)
    (draws : List Nat) :
    chosen items (draw :: draws) = items[draw] :: chosen (left items draw) draws := by
  rw [chosen, List.getElem?_eq_getElem inside]

/-- Draws that stay below the bound take as many items, which are distinct. -/
theorem chosen_spec {items : List α} {draws : List Nat} (distinct : items.Nodup)
    (inside : Draws items.length draws) :
    (chosen items draws).length = draws.length ∧ (chosen items draws).Nodup ∧
      ∀ item ∈ chosen items draws, item ∈ items := by
  induction draws generalizing items with
  | nil => exact ⟨rfl, List.nodup_nil, fun _ absurd => by cases absurd⟩
  | cons draw draws ih =>
      obtain ⟨here, later⟩ := inside
      have perm := left_perm here
      obtain ⟨new, rest⟩ := List.nodup_cons.mp (perm.nodup_iff.mpr distinct)
      obtain ⟨length, nodup, members⟩ := ih rest (by rwa [left_length here])
      rw [chosen_cons here]
      refine ⟨?_, List.nodup_cons.mpr ⟨fun twice => new (members _ twice), nodup⟩, ?_⟩
      · rw [List.length_cons, List.length_cons, length]
      · intro item member
        rcases List.mem_cons.mp member with rfl | member
        · exact List.getElem_mem here
        · exact perm.mem_iff.mp (List.mem_cons_of_mem _ (members item member))

/-- **Distinct items are taken by exactly one sequence of draws.** -/
theorem chosen_unique {items tuple : List α} (distinct : items.Nodup) (nodup : tuple.Nodup)
    (members : ∀ item ∈ tuple, item ∈ items) :
    ∃! draws, draws.length = tuple.length ∧ Draws items.length draws ∧
      chosen items draws = tuple := by
  induction tuple generalizing items with
  | nil =>
      refine ⟨[], ⟨rfl, trivial, rfl⟩, ?_⟩
      rintro draws ⟨none, _, _⟩
      exact List.length_eq_zero_iff.mp none
  | cons first rest ih =>
      obtain ⟨present, later⟩ := List.forall_mem_cons.mp members
      obtain ⟨new, restNodup⟩ := List.nodup_cons.mp nodup
      obtain ⟨draw, here, rfl⟩ := List.getElem_of_mem present
      have perm := left_perm here
      have remains : ∀ item ∈ rest, item ∈ left items draw := by
        intro item member
        rcases List.mem_cons.mp (perm.mem_iff.mpr (later item member)) with rfl | remains
        · exact absurd member new
        · exact remains
      obtain ⟨draws, ⟨length, inside, takes⟩, only⟩ :=
        ih (List.nodup_cons.mp (perm.nodup_iff.mpr distinct)).2 restNodup remains
      rw [left_length here] at inside only
      refine ⟨draw :: draws, ⟨?_, ⟨here, inside⟩, ?_⟩, ?_⟩
      · rw [List.length_cons, List.length_cons, length]
      · rw [chosen_cons here, takes]
      · rintro other ⟨otherLength, otherInside, otherTakes⟩
        cases other with
        | nil => cases otherLength
        | cons otherDraw others =>
            obtain ⟨otherHere, othersInside⟩ := otherInside
            rw [chosen_cons otherHere] at otherTakes
            obtain ⟨same, othersTake⟩ := List.cons.inj otherTakes
            -- items that are distinct are at one place each
            obtain rfl := (distinct.getElem_inj_iff).mp same
            rw [only others ⟨Nat.succ.inj otherLength, othersInside, othersTake⟩]

end SlotsGame.Theory.Shuffle
