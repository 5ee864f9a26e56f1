/-
# SlotsGame.Theory.Tombstones -- keys that are remembered until they expire

A store remembers each key it has accepted until a deadline that comes with the
key.  `consume` accepts a key that is not remembered, or whose deadline has
passed, unless the deadline that comes with it has passed already; `forget` drops
keys whose deadline has passed.  Under a clock that does not run backwards a
key is accepted at most once with one deadline: `Guarded` holds from the first
acceptance on, and refuses the second.
-/
import SlotsGame.Theory.Tables

namespace SlotsGame.Theory

set_option autoImplicit false

/-- The deadline of each key that is remembered. -/
abbrev Tombstones (κ : Type) := Table κ Int

namespace Tombstones

variable {κ : Type} [DecidableEq κ]

def consume (stones : Tombstones κ) (now : Int) (key : κ) (deadline : Int) : Bool × Tombstones κ :=
  if deadline ≤ now then (false, stones)
  else
    match stones.lookup key with
    | some expiry =>
        if now < expiry then (false, stones) else (true, stones.insert key deadline)
    | none => (true, stones.insert key deadline)

/-- Drop those of `keys` whose deadline has passed. -/
def forget (stones : Tombstones κ) (now : Int) (keys : List κ) : Tombstones κ :=
  keys.foldl (fun stones key =>
    match stones.lookup key with
    | some expiry => if expiry ≤ now then stones.erase key else stones
    | none => stones) stones

variable {stones : Tombstones κ} {now deadline : Int} {key other : κ}

/-- Accepted only if nothing still remembers the key. -/
theorem consume_cases (stones : Tombstones κ) (now : Int) (key : κ) (deadline : Int) :
    (stones.consume now key deadline = (false, stones) ∧
      (deadline ≤ now ∨ ∃ expiry, stones.lookup key = some expiry ∧ now < expiry)) ∨
    (stones.consume now key deadline = (true, AList.insert key deadline stones) ∧ now < deadline ∧
      ∀ expiry, stones.lookup key = some expiry → expiry ≤ now) := by
  by_cases late : deadline ≤ now
  · exact .inl ⟨by rw [consume, if_pos late], .inl late⟩
  · cases found : stones.lookup key with
    | none =>
        refine .inr ⟨?_, Int.not_le.mp late, ?_⟩
        · rw [consume, if_neg late, found]
        · rintro expiry ⟨⟩
    | some expiry =>
        by_cases remembered : now < expiry
        · refine .inl ⟨?_, .inr ⟨expiry, rfl, remembered⟩⟩
          rw [consume, if_neg late, found]
          exact if_pos remembered
        · refine .inr ⟨?_, Int.not_le.mp late, ?_⟩
          · rw [consume, if_neg late, found]
            exact if_neg remembered
          · rintro _ ⟨⟩
            exact Int.not_lt.mp remembered

/-- Forgetting leaves what has not expired. -/
theorem lookup_forget (stones : Tombstones κ) (now : Int) (keys : List κ) (key : κ) :
    (stones.forget now keys).lookup key = stones.lookup key ∨
      ((stones.forget now keys).lookup key = none ∧
        ∃ expiry, stones.lookup key = some expiry ∧ expiry ≤ now) := by
  induction keys generalizing stones with
  | nil => exact .inl rfl
  | cons first rest ih =>
      rw [forget, List.foldl_cons]
      cases found : stones.lookup first with
      | none => exact ih stones
      | some expiry =>
          dsimp only
          by_cases expired : expiry ≤ now
          · rw [if_pos expired]
            have later := ih (AList.erase first stones)
            by_cases here : key = first
            · subst here
              rw [AList.lookup_erase] at later
              refine .inr ⟨?_, expiry, found, expired⟩
              rcases later with gone | ⟨gone, _⟩
              · exact gone
              · exact gone
            · rw [AList.lookup_erase_ne here] at later
              exact later
          · rw [if_neg expired]
            exact ih stones

/-- A key that was accepted with this deadline is not accepted with it again. -/
def Guarded (stones : Tombstones κ) (now : Int) (key : κ) (deadline : Int) : Prop :=
  deadline ≤ now ∨ ∃ expiry, stones.lookup key = some expiry ∧ deadline ≤ expiry

namespace Guarded

theorem refuses (guarded : Guarded stones now key deadline) :
    (stones.consume now key deadline).1 = false := by
  rcases consume_cases stones now key deadline with ⟨refused, _⟩ | ⟨_, early, free⟩
  · rw [refused]
  · rcases guarded with late | ⟨expiry, found, covers⟩
    · omega
    · have passed := free expiry found
      omega

theorem of_accepted (accepted : (stones.consume now key deadline).1 = true) :
    Guarded (stones.consume now key deadline).2 now key deadline := by
  rcases consume_cases stones now key deadline with ⟨refused, _⟩ | ⟨written, _⟩
  · rw [refused] at accepted
    cases accepted
  · refine .inr ⟨deadline, ?_, Int.le_refl deadline⟩
    rw [written]
    exact AList.lookup_insert stones

/-- Later is no worse. -/
theorem later (guarded : Guarded stones now key deadline) {then_ : Int} (after : now ≤ then_) :
    Guarded stones then_ key deadline := by
  rcases guarded with late | kept
  · exact .inl (Int.le_trans late after)
  · exact .inr kept

theorem consume (guarded : Guarded stones now key deadline) (other : κ) (deadline' : Int) :
    Guarded (stones.consume now other deadline').2 now key deadline := by
  rcases guarded with late | ⟨expiry, found, covers⟩
  · exact .inl late
  · rcases consume_cases stones now other deadline' with ⟨refused, _⟩ | ⟨written, _, free⟩
    · rw [refused]
      exact .inr ⟨expiry, found, covers⟩
    · rw [written]
      by_cases here : key = other
      · subst here
        have passed := free expiry found
        exact .inl (Int.le_trans covers passed)
      · refine .inr ⟨expiry, ?_, covers⟩
        rw [AList.lookup_insert_ne here]
        exact found

/-- A cutoff in the past drops nothing that still guards. -/
theorem forget (guarded : Guarded stones now key deadline) {cutoff : Int} (past : cutoff ≤ now)
    (keys : List κ) : Guarded (stones.forget cutoff keys) now key deadline := by
  rcases guarded with late | ⟨expiry, found, covers⟩
  · exact .inl late
  · rcases lookup_forget stones cutoff keys key with same | ⟨_, expiry', found', passed⟩
    · exact .inr ⟨expiry, same.trans found, covers⟩
    · rw [found] at found'
      obtain rfl := Option.some.inj found'
      exact .inl (Int.le_trans covers (Int.le_trans passed past))

end Guarded

/-- Forgetting remembers nothing new. -/
theorem lookup_of_forget {cutoff expiry : Int} {keys : List κ}
    (found : (stones.forget cutoff keys).lookup key = some expiry) :
    stones.lookup key = some expiry := by
  rcases lookup_forget stones cutoff keys key with same | ⟨gone, _⟩
  · rw [← same]
    exact found
  · rw [gone] at found
    cases found

/-- Only a key that is accepted comes to be remembered. -/
theorem lookup_consume {expiry : Int}
    (found : (stones.consume now key deadline).2.lookup other = some expiry) :
    stones.lookup other = some expiry ∨ (other = key ∧ (stones.consume now key deadline).1 = true) := by
  rcases consume_cases stones now key deadline with ⟨refused, _⟩ | ⟨written, _⟩
  · rw [refused] at found
    exact .inl found
  · by_cases here : other = key
    · exact .inr ⟨here, by rw [written]⟩
    · rw [written] at found
      refine .inl ?_
      rw [← found]
      exact (AList.lookup_insert_ne here).symm

end Tombstones

end SlotsGame.Theory
