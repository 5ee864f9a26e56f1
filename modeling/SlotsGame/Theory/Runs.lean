/-
# SlotsGame.Theory.Runs -- facts that hold along every run

`Reachable initial step state` is the states a transition relation leads to, and
`Reachable.invariant` is the one induction over runs: what holds initially and
is kept by a step holds of every reachable state.
-/
import Mathlib.Logic.Relation

namespace SlotsGame.Theory

set_option autoImplicit false

universe u

variable {α : Type u} {initial : α → Prop} {step : α → α → Prop}

/-- The states reached from an initial one. -/
def Reachable (initial : α → Prop) (step : α → α → Prop) (state : α) : Prop :=
  ∃ start, initial start ∧ Relation.ReflTransGen step start state

namespace Reachable

theorem start {state : α} (holds : initial state) : Reachable initial step state :=
  ⟨state, holds, .refl⟩

theorem next {state after : α} (reachable : Reachable initial step state)
    (stepped : step state after) : Reachable initial step after := by
  obtain ⟨first, holds, path⟩ := reachable
  exact ⟨first, holds, path.tail stepped⟩

/-- What holds initially and is kept by a step holds of every reachable state. -/
theorem invariant (holds : α → Prop) (base : ∀ state, initial state → holds state)
    (kept : ∀ state after, Reachable initial step state → holds state → step state after →
      holds after) {state : α} (reachable : Reachable initial step state) : holds state := by
  obtain ⟨first, isInitial, path⟩ := reachable
  induction path with
  | refl => exact base first isInitial
  | tail path stepped ih => exact kept _ _ ⟨first, isInitial, path⟩ ih stepped

/-- The states of the steps that a list of actions makes, all of them guarded. -/
theorem of_foldlM {β : Type u} {guard : α → β → Prop} [∀ state action, Decidable (guard state action)]
    {act : α → β → Option α} {actions : List β} {start state : α} (holds : initial start)
    (ran : actions.foldlM (fun state action =>
      if guard state action then act state action else none) start = some state) :
    Reachable initial (fun before after => ∃ action, guard before action ∧
      act before action = some after) state := by
  have onwards : ∀ (actions : List β) (here : α),
      Reachable initial (fun before after => ∃ action, guard before action ∧
        act before action = some after) here →
      actions.foldlM (fun state action =>
        if guard state action then act state action else none) here = some state →
      Reachable initial (fun before after => ∃ action, guard before action ∧
        act before action = some after) state := by
    intro actions
    induction actions with
    | nil => intro here reached ran; exact Option.some.inj ran ▸ reached
    | cons action rest ih =>
        intro here reached ran
        rw [List.foldlM_cons] at ran
        obtain ⟨next, stepped, ran⟩ := Option.bind_eq_some_iff.mp ran
        rw [Option.ite_none_right_eq_some] at stepped
        exact ih next (reached.next ⟨action, stepped⟩) ran
  exact onwards actions start (.start holds) ran

end Reachable

end SlotsGame.Theory
