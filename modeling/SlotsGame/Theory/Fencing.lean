/-
# SlotsGame.Theory.Fencing -- tokens that fence off an earlier holder

What happens to a resource that is held under a token is a list of grants and
releases, oldest first.  `holder` is the token of a last grant; a grant that
anything followed is `Superseded`.  When no token is granted twice, a superseded
token is never the holder's (`holder_ne_superseded`).
-/
import Mathlib.Data.List.Nodup

namespace SlotsGame.Theory

set_option autoImplicit false

variable {τ : Type}

inductive Fence (τ : Type)
  | granted (token : τ)
  | released

namespace Fence

def grant : Fence τ → Option τ
  | granted token => some token
  | released => none

def grants (history : List (Fence τ)) : List τ := history.filterMap grant

def holder (history : List (Fence τ)) : Option τ := history.getLast?.bind grant

/-- Something followed the grant of this token. -/
def Superseded (history : List (Fence τ)) (token : τ) : Prop :=
  ∃ left later right, history = left ++ granted token :: later :: right

variable {history : List (Fence τ)} {token : τ}

@[simp] theorem grants_append (left right : List (Fence τ)) :
    grants (left ++ right) = grants left ++ grants right :=
  List.filterMap_append

@[simp] theorem holder_append_one (fence : Fence τ) : holder (history ++ [fence]) = fence.grant := by
  simp [holder]

theorem mem_grants_of_holder (held : holder history = some token) : token ∈ grants history := by
  obtain ⟨last, found, grants⟩ := Option.bind_eq_some_iff.mp held
  exact List.mem_filterMap.mpr ⟨last, List.mem_of_getLast? found, grants⟩

/-- A token that is granted once does not come back. -/
theorem holder_ne_superseded (distinct : (grants history).Nodup)
    (superseded : Superseded history token) : holder history ≠ some token := by
  intro held
  obtain ⟨left, later, right, rfl⟩ := superseded
  have once : token ∉ grants (later :: right) := by
    rw [grants_append] at distinct
    have rest : (token :: grants (later :: right)).Nodup := (List.nodup_append.mp distinct).2.1
    exact (List.nodup_cons.mp rest).1
  apply once
  apply mem_grants_of_holder
  rw [← held, holder, holder, List.getLast?_append, List.getLast?_cons_cons]
  rw [List.getLast?_eq_some_getLast (List.cons_ne_nil later right), Option.some_or]

end Fence

end SlotsGame.Theory
