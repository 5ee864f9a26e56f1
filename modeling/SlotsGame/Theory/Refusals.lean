/-
# SlotsGame.Theory.Refusals -- programs that fail only in known ways

`Ensures True` says that a program never fails.  `EnsuresOr allowed` says that it
fails only with an allowed error, and that its results satisfy a post-condition
as before.  A part that never fails is taken over by `of_ensures`; the rules for
the parts that may fail are those of `Ensures`.
-/
import SlotsGame.Theory.Effects

namespace SlotsGame.Theory

set_option autoImplicit false

variable {σ ε α β : Type}

/-- Every result satisfies `post` and every error is an allowed one. -/
def EnsuresOr (allowed : ε → Prop) (program : StateT σ (Except ε) α) (post : α → Prop) : Prop :=
  ∀ s, match program s with
    | .ok (a, _) => post a
    | .error e => allowed e

namespace EnsuresOr

variable {allowed : ε → Prop}

/-- A program that never fails. -/
theorem of_ensures {program : StateT σ (Except ε) α} {post : α → Prop}
    (holds : Ensures True program post) : EnsuresOr allowed program post := by
  intro s
  have ensured := holds s
  cases result : program s with
  | error e =>
      simp only [result] at ensured
      exact absurd trivial ensured
  | ok pair => simpa only [result] using ensured

theorem pure {a : α} {post : α → Prop} (holds : post a) :
    EnsuresOr allowed (Pure.pure a : StateT σ (Except ε) α) post :=
  fun _ => holds

theorem bind {first : StateT σ (Except ε) α} {next : α → StateT σ (Except ε) β}
    {middle : α → Prop} {post : β → Prop} (begins : EnsuresOr allowed first middle)
    (continues : ∀ a, middle a → EnsuresOr allowed (next a) post) :
    EnsuresOr allowed (first >>= next) post := by
  intro s
  have begun := begins s
  simp only [Bind.bind, StateT.bind]
  cases result : first s with
  | error e =>
      simp only [result] at begun
      exact begun
  | ok pair =>
      simp only [result] at begun
      exact continues pair.1 begun pair.2

theorem mono {program : StateT σ (Except ε) α} {post weaker : α → Prop}
    (holds : EnsuresOr allowed program post) (weaken : ∀ a, post a → weaker a) :
    EnsuresOr allowed program weaker := by
  intro s
  have held := holds s
  cases result : program s with
  | error e => simpa only [result] using held
  | ok pair =>
      simp only [result] at held
      exact weaken _ held

theorem weaken {fewer : ε → Prop} {program : StateT σ (Except ε) α} {post : α → Prop}
    (holds : EnsuresOr fewer program post) (also_ : ∀ e, fewer e → allowed e) :
    EnsuresOr allowed program post := by
  intro s
  have held := holds s
  cases result : program s with
  | error e =>
      simp only [result] at held
      exact also_ e held
  | ok pair => simpa only [result] using held

/-- What another walk over the program found of its results. -/
theorem and {total : Prop} {program : StateT σ (Except ε) α} {post more : α → Prop}
    (holds : EnsuresOr allowed program post) (also_ : Ensures total program more) :
    EnsuresOr allowed program fun a => post a ∧ more a := by
  intro s
  have held := holds s
  have found := also_ s
  cases result : program s with
  | error e => simpa only [result] using held
  | ok pair =>
      simp only [result] at held found
      exact ⟨held, found⟩

/-- A checked computation that may refuse. -/
theorem lift {checked : Except ε α} (post : α → Prop)
    (accepted : ∀ a, checked = .ok a → post a) (refused : ∀ e, checked = .error e → allowed e) :
    EnsuresOr allowed (liftM checked : StateT σ (Except ε) α) post := by
  intro s
  cases result : checked with
  | error e => exact refused e result
  | ok a => exact accepted a result

/-- A loop keeps an invariant indexed by the elements it has consumed. -/
theorem foldlM {step : β → α → StateT σ (Except ε) β} (invariant : List α → β → Prop)
    {items : List α} {start : β} (initial : invariant [] start)
    (preserved : ∀ before item state, (∃ after, items = before ++ item :: after) →
      invariant before state →
      EnsuresOr allowed (step state item) (invariant (before ++ [item]))) :
    EnsuresOr allowed (items.foldlM step start) (invariant items) := by
  suffices general : ∀ (rest before : List α) (state : β), items = before ++ rest →
      invariant before state → EnsuresOr allowed (rest.foldlM step state) (invariant items) by
    exact general items [] start rfl initial
  intro rest
  induction rest with
  | nil =>
      intro before state same holds
      subst same
      exact .pure (by simpa using holds)
  | cons item rest ih =>
      intro before state same holds
      rw [List.foldlM_cons]
      exact (preserved before item state ⟨rest, same⟩ holds).bind fun next kept =>
        ih (before ++ [item]) next (by simp [same]) kept

/-- What a run ends with. -/
theorem result {program : StateT σ (Except ε) α} {post : α → Prop}
    (holds : EnsuresOr allowed program post) (s : σ) :
    (∃ a s', program s = .ok (a, s') ∧ post a) ∨ ∃ e, program s = .error e ∧ allowed e := by
  have held := holds s
  cases result : program s with
  | error e =>
      simp only [result] at held
      exact .inr ⟨e, rfl, held⟩
  | ok pair =>
      simp only [result] at held
      exact .inl ⟨pair.1, pair.2, rfl, held⟩

end EnsuresOr

end SlotsGame.Theory
