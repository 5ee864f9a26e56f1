/-
# SlotsGame.Theory.Effects -- programs that consume a source and may fail

Two monads carry the code: `Except ε` for a checked computation and
`StateT σ (Except ε)` for one that also draws from a source of state `σ`.

* `refuse` is the guard of a checked computation, and `bind_ok` with
  `refuse_ok` turn an accepted chain of guards into the list of their negations.
* `Ensures total program post` is one judgement for both readings of a program:
  every result satisfies `post`, and when `total` holds there is a result.
  With `total := False` it is partial correctness, with `total := True` total
  correctness, and one derivation proves both.
-/
import Mathlib.Init
import Mathlib.Data.List.Basic

namespace SlotsGame.Theory

set_option autoImplicit false

universe u

/-! ## Checked computations -/

section Checked

variable {ε α β : Type u}

theorem bind_ok {first : Except ε α} {next : α → Except ε β} {b : β} :
    (first >>= next) = .ok b ↔ ∃ a, first = .ok a ∧ next a = .ok b := by
  cases first with
  | error e => simp [bind, Except.bind]
  | ok a => simp [bind, Except.bind]

theorem map_ok {first : Except ε α} {f : α → β} {b : β} :
    (f <$> first) = .ok b ↔ ∃ a, first = .ok a ∧ f a = b := by
  cases first <;> simp [Functor.map, Except.map]

@[simp] theorem pure_ok {a b : α} : (pure a : Except ε α) = .ok b ↔ a = b := by
  simp [pure, Except.pure]

end Checked

/-- Fail with `error` when `bad` holds. -/
def refuse {ε : Type} (bad : Prop) [Decidable bad] (error : ε) : Except ε Unit :=
  if bad then .error error else .ok ()

@[simp] theorem refuse_ok {ε : Type} {bad : Prop} [Decidable bad] {error : ε} {u : Unit} :
    refuse bad error = .ok u ↔ ¬ bad := by
  unfold refuse
  split <;> simp_all

/-- A guard returns nothing to bind. -/
theorem exists_unit {p : Unit → Prop} : (∃ u, p u) ↔ p () :=
  ⟨fun ⟨_, holds⟩ => holds, fun holds => ⟨(), holds⟩⟩

/-- A loop of independent checks accepts when each of them does. -/
theorem forM_ok {ε α : Type} {check : α → Except ε Unit} {items : List α} :
    items.forM check = .ok () ↔ ∀ item ∈ items, check item = .ok () := by
  induction items with
  | nil => simp [List.forM, pure, Except.pure]
  | cons item rest ih =>
      rw [List.forM, bind_ok]
      simp only [List.forall_mem_cons, ← ih]
      exact ⟨fun ⟨_, first, others⟩ => ⟨first, others⟩, fun ⟨first, others⟩ => ⟨(), first, others⟩⟩

theorem forM_zipIdx_ok {ε α : Type} {check : α × Nat → Except ε Unit} {items : List α} :
    items.zipIdx.forM check = .ok () ↔
      ∀ index item, items[index]? = some item → check (item, index) = .ok () := by
  rw [forM_ok]
  constructor
  · intro accepted index item found
    exact accepted _ (List.mk_mem_zipIdx_iff_getElem?.mpr found)
  · rintro accepted ⟨item, index⟩ member
    exact accepted index item (List.mk_mem_zipIdx_iff_getElem?.mp member)

/-- A loop that is accepted keeps an invariant of its state, indexed by the
elements it has consumed; a step may use where its element stands. -/
theorem foldlM_ok_prefix {ε α β : Type} {step : β → α → Except ε β}
    (invariant : List α → β → Prop) {items : List α} {start final : β}
    (run : items.foldlM step start = .ok final) (initial : invariant [] start)
    (preserved : ∀ before item after state next, items = before ++ item :: after →
      invariant before state → step state item = .ok next → invariant (before ++ [item]) next) :
    invariant items final := by
  suffices general : ∀ (rest before : List α) (state : β), items = before ++ rest →
      invariant before state → rest.foldlM step state = .ok final →
      invariant (before ++ rest) final by
    simpa using general items [] start rfl initial run
  intro rest
  induction rest with
  | nil =>
      intro before state _ holds done
      simp only [List.foldlM_nil, pure_ok] at done
      subst done
      simpa using holds
  | cons item rest ih =>
      intro before state same holds done
      rw [List.foldlM_cons, bind_ok] at done
      obtain ⟨next, stepped, done⟩ := done
      have kept := preserved before item rest state next same holds stepped
      have := ih (before ++ [item]) next (by simp [same]) kept done
      simpa using this

theorem foldlM_ok_invariant {ε α β : Type} {step : β → α → Except ε β}
    (invariant : List α → β → Prop) {items : List α} {start final : β}
    (run : items.foldlM step start = .ok final) (initial : invariant [] start)
    (preserved : ∀ before item state next, item ∈ items → invariant before state →
      step state item = .ok next → invariant (before ++ [item]) next) :
    invariant items final :=
  foldlM_ok_prefix invariant run initial fun before item _ state next same holds stepped =>
    preserved before item state next (by simp [same]) holds stepped

/-- What every accepted step says of its element holds of all of them. -/
theorem foldlM_ok_forall {ε α β : Type} {step : β → α → Except ε β} (holds : α → Prop)
    {items : List α} {start final : β} (run : items.foldlM step start = .ok final)
    (each : ∀ state item next, step state item = .ok next → holds item) :
    ∀ item ∈ items, holds item := by
  refine foldlM_ok_invariant (fun before _ => ∀ item ∈ before, holds item) run (by simp) ?_
  intro before item state next _ kept stepped i member
  rcases List.mem_append.mp member with old | new
  · exact kept i old
  · rw [List.mem_singleton.mp new]
    exact each state item next stepped

/-- A loop every step of which is accepted, from an invariant that it keeps, is accepted. -/
theorem foldlM_ok_of {ε α β : Type} {step : β → α → Except ε β}
    (invariant : List α → β → Prop) {items : List α} {start : β} (initial : invariant [] start)
    (steps : ∀ before item state, (∃ after, items = before ++ item :: after) →
      invariant before state →
      ∃ next, step state item = .ok next ∧ invariant (before ++ [item]) next) :
    ∃ final, items.foldlM step start = .ok final ∧ invariant items final := by
  suffices general : ∀ (rest before : List α) (state : β), items = before ++ rest →
      invariant before state →
      ∃ final, rest.foldlM step state = .ok final ∧ invariant items final by
    exact general items [] start rfl initial
  intro rest
  induction rest with
  | nil =>
      intro before state same holds
      subst same
      exact ⟨state, rfl, by simpa using holds⟩
  | cons item rest ih =>
      intro before state same holds
      obtain ⟨next, stepped, kept⟩ := steps before item state ⟨rest, same⟩ holds
      obtain ⟨final, run, done⟩ := ih (before ++ [item]) next (by simp [same]) kept
      refine ⟨final, ?_, done⟩
      rw [List.foldlM_cons, bind_ok]
      exact ⟨next, stepped, run⟩

/-- What an accepted list of computations returned, one by one. -/
theorem mapM_ok {ε α β : Type} {f : α → Except ε β} {items : List α} {results : List β} :
    items.mapM f = .ok results ↔ List.Forall₂ (fun item result => f item = .ok result) items results := by
  induction items generalizing results with
  | nil =>
      rw [List.mapM_nil, pure_ok]
      constructor
      · rintro rfl
        exact .nil
      · rintro ⟨⟩
        rfl
  | cons item rest ih =>
      simp only [List.mapM_cons, bind_ok, pure_ok]
      constructor
      · rintro ⟨first, computed, others, run, rfl⟩
        exact .cons computed (ih.mp run)
      · rintro (_ | ⟨computed, others⟩)
        exact ⟨_, computed, _, ih.mpr others, rfl⟩

/-! ## Programs over a source -/

variable {σ ε α β : Type}

theorem run_bind_ok {first : StateT σ (Except ε) α} {next : α → StateT σ (Except ε) β} {s : σ}
    {result : β × σ} :
    (first >>= next) s = .ok result ↔ ∃ a s', first s = .ok (a, s') ∧ next a s' = .ok result := by
  simp only [Bind.bind, StateT.bind]
  cases first s with
  | error e => simp [Except.bind]
  | ok pair =>
      simp only [Except.bind, Except.ok.injEq]
      constructor
      · intro continued
        exact ⟨pair.1, pair.2, rfl, continued⟩
      · rintro ⟨a, s', rfl, continued⟩
        exact continued

theorem run_pure_ok {a : α} {s : σ} {result : α × σ} :
    (Pure.pure a : StateT σ (Except ε) α) s = .ok result ↔ (a, s) = result := by
  show Except.ok (a, s) = .ok result ↔ (a, s) = result
  rw [Except.ok.injEq]

theorem run_lift_ok {checked : Except ε α} {s : σ} {result : α × σ} :
    (liftM checked : StateT σ (Except ε) α) s = .ok result ↔
      checked = .ok result.1 ∧ result.2 = s := by
  cases checked with
  | error e => simp [liftM, monadLift, MonadLift.monadLift, StateT.lift, Bind.bind, Except.bind]
  | ok a =>
      simp only [liftM, monadLift, MonadLift.monadLift, StateT.lift, Bind.bind, Except.bind,
        Pure.pure, Except.pure, Except.ok.injEq, Prod.ext_iff]
      tauto

/-- Every result satisfies `post`, and there is one when `total` holds. -/
def Ensures (total : Prop) (program : StateT σ (Except ε) α) (post : α → Prop) : Prop :=
  ∀ s, match program s with
    | .ok (a, _) => post a
    | .error _ => ¬ total

namespace Ensures

variable {total : Prop}

theorem pure {a : α} {post : α → Prop} (holds : post a) :
    Ensures total (Pure.pure a : StateT σ (Except ε) α) post :=
  fun _ => holds

theorem bind {first : StateT σ (Except ε) α} {next : α → StateT σ (Except ε) β}
    {middle : α → Prop} {post : β → Prop} (begins : Ensures total first middle)
    (continues : ∀ a, middle a → Ensures total (next a) post) :
    Ensures total (first >>= next) post := by
  intro s
  have begun := begins s
  simp only [Bind.bind, StateT.bind]
  cases result : first s with
  | error e =>
      simp only [result] at begun
      exact begun
  | ok pair =>
      simp only [result] at begun
      exact continues pair.1 begun pair.2

theorem mono {program : StateT σ (Except ε) α} {post weaker : α → Prop}
    (holds : Ensures total program post) (weaken : ∀ a, post a → weaker a) :
    Ensures total program weaker := by
  intro s
  have := holds s
  cases result : program s with
  | error e => simpa only [result] using this
  | ok pair => simp only [result] at this; exact weaken _ this

theorem map {program : StateT σ (Except ε) α} {f : α → β} {post : β → Prop}
    (holds : Ensures total program (fun a => post (f a))) :
    Ensures total (f <$> program) post := by
  rw [map_eq_pure_bind]
  exact holds.bind fun _ h => .pure h

theorem throw {error : ε} {post : α → Prop} (unreachable : ¬ total) :
    Ensures total (MonadExcept.throw error : StateT σ (Except ε) α) post :=
  fun _ => unreachable

/-- Nothing is asked of a draw whose value does not matter. -/
theorem any {program : StateT σ (Except ε) α} : Ensures False program fun _ => True := by
  intro s
  cases program s with
  | error e => exact not_false
  | ok pair => trivial

/-- A checked computation inside a program. -/
theorem lift {checked : Except ε α} (post : α → Prop)
    (accepted : ∀ a, checked = .ok a → post a)
    (succeeds : total → ∃ a, checked = .ok a) :
    Ensures total (liftM checked : StateT σ (Except ε) α) post := by
  intro s
  cases result : checked with
  | error e =>
      intro holds
      obtain ⟨a, ok⟩ := succeeds holds
      rw [result] at ok
      cases ok
  | ok a => exact accepted a result

/-- A checked computation whose result is known. -/
theorem known {checked : Except ε α} {a : α} (result : checked = .ok a) :
    Ensures total (liftM checked : StateT σ (Except ε) α) (· = a) :=
  lift _ (fun _ same => Except.ok.inj (same.symm.trans result)) fun _ => ⟨a, result⟩

/-- A loop keeps an invariant indexed by the elements it has consumed. -/
theorem foldlM {step : β → α → StateT σ (Except ε) β} (invariant : List α → β → Prop)
    {items : List α} {start : β} (initial : invariant [] start)
    (preserved : ∀ before item state, (∃ after, items = before ++ item :: after) →
      invariant before state → Ensures total (step state item) (invariant (before ++ [item]))) :
    Ensures total (items.foldlM step start) (invariant items) := by
  suffices general : ∀ (rest before : List α) (state : β), items = before ++ rest →
      invariant before state → Ensures total (rest.foldlM step state) (invariant items) by
    exact general items [] start rfl initial
  intro rest
  induction rest with
  | nil =>
      intro before state same holds
      subst same
      exact .pure (by simpa using holds)
  | cons item rest ih =>
      intro before state same holds
      rw [List.foldlM_cons]
      exact (preserved before item state ⟨rest, same⟩ holds).bind fun next kept =>
        ih (before ++ [item]) next (by simp [same]) kept

/-- Partial correctness read off. -/
theorem of_ok {program : StateT σ (Except ε) α} {post : α → Prop}
    (holds : Ensures total program post) {s s' : σ} {a : α} (ran : program s = .ok (a, s')) :
    post a := by
  have := holds s
  simpa only [ran] using this

end Ensures

end SlotsGame.Theory
