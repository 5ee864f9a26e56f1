/-
# SlotsGame.Theory.TimerSlots -- timers that are armed through one variable

An event loop keeps a timer armed until it fires or is cancelled by its handle, and the
program keeps the handle in a variable.  A variable that is written again before its timer
has fired loses that timer, which still fires.  So a `TimerSlot` is the variable together
with every timer armed through it.
-/
import Mathlib.Algebra.Order.Ring.Rat

namespace SlotsGame.Theory

set_option autoImplicit false

variable {α : Type}

/-- An armed timer: it does not fire before `due`. -/
structure Armed (α : Type) where
  due : ℚ
  payload : α
  deriving DecidableEq

structure TimerSlot (α : Type) where
  current : Option (Armed α) := none
  lost : List (Armed α) := []
  deriving DecidableEq

namespace TimerSlot

def arm (slot : TimerSlot α) (due : ℚ) (payload : α) : TimerSlot α :=
  { current := some { due := due, payload := payload }, lost := slot.current.toList ++ slot.lost }

/-- Cancels the timer that the variable refers to, if there is one. -/
def clear (slot : TimerSlot α) : TimerSlot α := { slot with current := none }

/-- The timer at a place among those that are armed, the current one first; a callback begins
by emptying the variable. -/
def fire (slot : TimerSlot α) : Nat → Option (Armed α × TimerSlot α)
  | 0 => slot.current.map fun timer => (timer, slot.clear)
  | place + 1 => slot.lost[place]?.map fun timer =>
      (timer, { current := none, lost := slot.current.toList ++ slot.lost.eraseIdx place })

variable {slot fired : TimerSlot α}

@[simp] theorem clear_current : slot.clear.current = none := rfl

@[simp] theorem clear_lost : slot.clear.lost = slot.lost := rfl

end TimerSlot

end SlotsGame.Theory
