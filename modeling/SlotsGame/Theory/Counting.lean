/-
# SlotsGame.Theory.Counting -- how many entries of a list satisfy a test

A pool is a list in which entries are appended and rewritten in place, and never
removed.  `countP_set_add` is how a rewritten entry moves a count; it is stated as a
sum, so that `omega` reads it in either direction.
-/
import Mathlib.Data.List.Nodup

namespace SlotsGame.Theory

set_option autoImplicit false

universe u

variable {α : Type u} {entries : List α} {id : Nat} {entry new : α} {test : α → Bool}

/-- What a rewritten pool holds. -/
theorem set_cases {other : Nat} {found : α} (occupied : (entries.set id new)[other]? = some found) :
    (other = id ∧ id < entries.length ∧ found = new) ∨
      (other ≠ id ∧ entries[other]? = some found) := by
  rw [List.getElem?_set] at occupied
  by_cases same : id = other
  · subst same
    simp only [if_true] at occupied
    split at occupied
    · next inside => exact .inl ⟨rfl, inside, (Option.some.inj occupied).symm⟩
    · cases occupied
  · rw [if_neg same] at occupied
    exact .inr ⟨fun here => same here.symm, occupied⟩

/-- One entry is rewritten: the count loses the old one and gains the new one. -/
theorem countP_set_add (test : α → Bool) (new : α) (present : entries[id]? = some entry) :
    (entries.set id new).countP test + (if test entry then 1 else 0) =
      entries.countP test + (if test new then 1 else 0) := by
  obtain ⟨inside, rfl⟩ := List.getElem?_eq_some_iff.mp present
  rw [List.countP_set inside]
  have counted : (if test entries[id] then 1 else 0) ≤ entries.countP test := by
    split
    · next passes => exact List.countP_pos_iff.mpr ⟨_, List.getElem_mem inside, passes⟩
    · exact Nat.zero_le _
  omega

theorem countP_push : (entries ++ [new]).countP test =
    entries.countP test + (if test new then 1 else 0) := by
  rw [List.countP_append, List.countP_singleton]

end SlotsGame.Theory
