/-
# SlotsGame.Theory.Slots -- what is in flight under an identifier

A system keeps what each of its parties is doing in a slot, and a step rewrites one
of them.  `slot_cases` says what a slot holds afterwards; `InEach` and `InEachTwo`
are facts about every occupant and about every two, with the one rule each for a
rewritten slot.
-/
import Mathlib.Logic.Function.Basic

namespace SlotsGame.Theory

set_option autoImplicit false

variable {α β : Type}

/-- Every occupant satisfies `holds`. -/
def InEach (slots : α → Option β) (holds : β → Prop) : Prop :=
  ∀ id occupant, slots id = some occupant → holds occupant

/-- Every two occupants are related. -/
def InEachTwo (slots : α → Option β) (related : β → β → Prop) : Prop :=
  ∀ id other occupant third, id ≠ other → slots id = some occupant → slots other = some third →
    related occupant third

variable [DecidableEq α] {slots : α → Option β} {id : α} {new : Option β}

theorem slot_cases {other : α} {occupant : β}
    (occupied : Function.update slots id new other = some occupant) :
    (other = id ∧ new = some occupant) ∨ (other ≠ id ∧ slots other = some occupant) := by
  by_cases same : other = id
  · subst same
    rw [Function.update_self] at occupied
    exact .inl ⟨rfl, occupied⟩
  · rw [Function.update_of_ne same] at occupied
    exact .inr ⟨same, occupied⟩

theorem InEach.update {holds : β → Prop} (each : InEach slots holds)
    (fresh : ∀ occupant, new = some occupant → holds occupant) :
    InEach (Function.update slots id new) holds := by
  intro other occupant occupied
  rcases slot_cases occupied with ⟨_, here⟩ | ⟨_, there⟩
  · exact fresh occupant here
  · exact each other occupant there

theorem InEachTwo.update {related : β → β → Prop} (two : InEachTwo slots related)
    (symm : ∀ occupant third, related occupant third → related third occupant)
    (fresh : ∀ occupant, new = some occupant → ∀ other third, id ≠ other →
      slots other = some third → related occupant third) :
    InEachTwo (Function.update slots id new) related := by
  intro first second occupant third different left right
  rcases slot_cases left with ⟨rfl, here⟩ | ⟨away, there⟩
  · rcases slot_cases right with ⟨rfl, _⟩ | ⟨_, there'⟩
    · exact absurd rfl different
    · exact fresh occupant here second third different there'
  · rcases slot_cases right with ⟨rfl, here'⟩ | ⟨_, there'⟩
    · exact symm third occupant (fresh third here' first occupant different.symm there)
    · exact two first second occupant third different there there'

/-- A slot that is emptied. -/
theorem InEach.clear {holds : β → Prop} (each : InEach slots holds) :
    InEach (Function.update slots id none) holds :=
  each.update fun _ here => by cases here

theorem InEachTwo.clear {related : β → β → Prop} (two : InEachTwo slots related)
    (symm : ∀ occupant third, related occupant third → related third occupant) :
    InEachTwo (Function.update slots id none) related :=
  two.update symm fun _ here => by cases here

end SlotsGame.Theory
