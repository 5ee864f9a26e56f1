/-
# SlotsGame.Theory.Allowance -- numbered tickets against a counter

A counter is raised when a ticket is handed out, and the ticket carries the new value;
it is lowered when a ticket is taken back.  The entries of a pool hold tickets, and an
entry may lose its ticket, so the counter is at least the number of tickets held
(`counted`), and no more than `bound` of them have a number up to `bound` (`spread`).
Therefore whoever only acts on tickets up to a limit acts no more often than the limit.
-/
import SlotsGame.Theory.Counting

namespace SlotsGame.Theory

set_option autoImplicit false

universe u

variable {α : Type u}

/-- The tickets of a pool, against the counter they were drawn from. -/
structure Allowance (ticket : α → Option Int) (pool : List α) (counter : Int) : Prop where
  counted : (pool.countP fun entry => (ticket entry).isSome) ≤ counter
  spread : ∀ bound : Int, 0 ≤ bound →
    (pool.countP fun entry => (ticket entry).any (· ≤ bound)) ≤ bound

theorem ticketed_le (ticket : α → Option Int) (pool : List α) (bound : Int) :
    (pool.countP fun entry => (ticket entry).any (· ≤ bound)) ≤
      pool.countP fun entry => (ticket entry).isSome :=
  List.countP_mono_left fun entry _ low => by
    cases drawn : ticket entry with
    | none => simp [drawn] at low
    | some _ => rfl

namespace Allowance

variable {ticket : α → Option Int} {pool fresh : List α} {counter later number : Int}
variable {index : Nat} {before after : α}

theorem nil (nonneg : 0 ≤ counter) : Allowance ticket [] counter :=
  ⟨by simpa using nonneg, fun bound bounded => by simpa using bounded⟩

theorem nonneg (allowance : Allowance ticket pool counter) : 0 ≤ counter := by
  have := allowance.counted
  omega

/-- The counter may run ahead of the tickets. -/
theorem raise (allowance : Allowance ticket pool counter) (raised : counter ≤ later) :
    Allowance ticket pool later :=
  ⟨Int.le_trans allowance.counted raised, allowance.spread⟩

/-- An entry changes, and its ticket does not. -/
theorem stay (allowance : Allowance ticket pool counter) (found : pool[index]? = some before)
    (same : ticket after = ticket before) : Allowance ticket (pool.set index after) counter := by
  constructor
  · have moved := countP_set_add (fun entry => (ticket entry).isSome) after found
    have held := allowance.counted
    rw [same] at moved
    omega
  · intro bound bounded
    have moved := countP_set_add (fun entry => (ticket entry).any (· ≤ bound)) after found
    have held := allowance.spread bound bounded
    rw [same] at moved
    omega

/-- An entry is handed the next ticket. -/
theorem grant (allowance : Allowance ticket pool counter) (found : pool[index]? = some before)
    (none : ticket before = none) (handed : ticket after = some (counter + 1)) :
    Allowance ticket (pool.set index after) (counter + 1) := by
  have held := allowance.counted
  constructor
  · have moved := countP_set_add (fun entry => (ticket entry).isSome) after found
    simp only [none, handed, Option.isSome_none, Option.isSome_some, if_true] at moved
    omega
  · intro bound bounded
    have moved := countP_set_add (fun entry => (ticket entry).any (· ≤ bound)) after found
    have spread := allowance.spread bound bounded
    have fewer := ticketed_le ticket pool bound
    simp only [none, handed, Option.any_none, Option.any_some, decide_eq_true_eq] at moved
    -- the new ticket counts only once the bound has reached the counter
    split_ifs at moved <;> omega

/-- An entry gives its ticket back. -/
theorem takeBack (allowance : Allowance ticket pool counter) (found : pool[index]? = some before)
    (held : ticket before = some number) (given : ticket after = none)
    (lowered : counter - 1 ≤ later) : Allowance ticket (pool.set index after) later := by
  constructor
  · have moved := countP_set_add (fun entry => (ticket entry).isSome) after found
    have counted := allowance.counted
    simp only [held, given, Option.isSome_none, Option.isSome_some, if_true, Bool.false_eq_true,
      if_false] at moved
    omega
  · intro bound bounded
    have moved := countP_set_add (fun entry => (ticket entry).any (· ≤ bound)) after found
    have spread := allowance.spread bound bounded
    simp only [given, Option.any_none, Bool.false_eq_true, if_false] at moved
    omega

/-- Entries without a ticket join. -/
theorem join (allowance : Allowance ticket pool counter)
    (none : ∀ entry ∈ fresh, ticket entry = none) : Allowance ticket (pool ++ fresh) counter := by
  have zero (test : Int → Bool) : (fresh.countP fun entry => (ticket entry).any test) = 0 := by
    rw [List.countP_eq_zero]
    intro entry member
    simp [none entry member]
  constructor
  · have held : (fresh.countP fun entry => (ticket entry).isSome) = 0 := by
      rw [List.countP_eq_zero]
      intro entry member
      simp [none entry member]
    rw [List.countP_append, held, Nat.add_zero]
    exact allowance.counted
  · intro bound bounded
    rw [List.countP_append, zero, Nat.add_zero]
    exact allowance.spread bound bounded

/-- An entry joins with the next ticket. -/
theorem push (allowance : Allowance ticket pool counter)
    (handed : ticket after = some (counter + 1)) :
    Allowance ticket (pool ++ [after]) (counter + 1) := by
  have held := allowance.counted
  constructor
  · rw [List.countP_append, List.countP_singleton, handed, Option.isSome_some, if_pos rfl]
    omega
  · intro bound bounded
    have spread := allowance.spread bound bounded
    have fewer := ticketed_le ticket pool bound
    rw [List.countP_append, List.countP_singleton, handed, Option.any_some]
    split
    · next low =>
      have := of_decide_eq_true low
      omega
    · omega

/-- Whoever acts on tickets up to a limit only, acts no more often than the limit. -/
theorem within (allowance : Allowance ticket pool counter) {limit : Int} (nonneg : 0 ≤ limit)
    {acts : α → Bool}
    (limited : ∀ entry ∈ pool, acts entry = true → ∃ drawn, ticket entry = some drawn ∧
      drawn ≤ limit) : (pool.countP acts : Int) ≤ limit := by
  have fewer : pool.countP acts ≤ pool.countP fun entry => (ticket entry).any (· ≤ limit) :=
    List.countP_mono_left fun entry member acting => by
      obtain ⟨drawn, held, low⟩ := limited entry member acting
      simpa [held] using low
  have spread := allowance.spread limit nonneg
  omega

/-- Whoever acts on a ticket is counted. -/
theorem covers (allowance : Allowance ticket pool counter) {acts : α → Bool}
    (ticketed : ∀ entry ∈ pool, acts entry = true → (ticket entry).isSome = true) :
    (pool.countP acts : Int) ≤ counter := by
  have fewer : pool.countP acts ≤ pool.countP fun entry => (ticket entry).isSome :=
    List.countP_mono_left ticketed
  have counted := allowance.counted
  omega

end Allowance

end SlotsGame.Theory
