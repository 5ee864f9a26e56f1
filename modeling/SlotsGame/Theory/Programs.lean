/-
# SlotsGame.Theory.Programs -- programs that ask, and threads that run them

A `Program` over an `Interface` is a tree: it asks for an action and goes on with the
reply.  A `Protocol` says what a program may ask for in each phase, and which phase a
reply takes it to; `Conforms` is that a program keeps to it, whatever it is answered.

Threads run programs over one shared state, an action at a time, and any of them may
stop for good between two actions.  The phase of a thread is a record of what it has
done: `Reachable.phases` is the induction for invariants that relate the shared state
to these records, and in it a program is only seen through its protocol.
-/
import SlotsGame.Theory.Runs

namespace SlotsGame.Theory

set_option autoImplicit false

/-- What a program may ask for, and what it is answered. -/
structure Interface where
  Action : Type
  Reply : Action → Type

inductive Program (I : Interface) (α : Type) : Type
  | done (result : α)
  | call (action : I.Action) (next : I.Reply action → Program I α)

variable {I : Interface} {φ σ α β : Type}

/-! ## Programs -/

namespace Program

def bind : Program I α → (α → Program I β) → Program I β
  | .done result, rest => rest result
  | .call action next, rest => .call action fun reply => (next reply).bind rest

instance : Monad (Program I) where
  pure := .done
  bind := .bind

/-- Ask for one action. -/
def ask (action : I.Action) : Program I (I.Reply action) := .call action .done

end Program

/-! ## Protocols -/

structure Protocol (I : Interface) (φ : Type) where
  Allows : φ → I.Action → Prop
  next : φ → (action : I.Action) → I.Reply action → φ

/-- A program keeps to a protocol from `phase` on, and `post` holds of its result and of
the phase it ends in. -/
def Program.Conforms (protocol : Protocol I φ) :
    Program I α → φ → (α → φ → Prop) → Prop
  | .done result, phase, post => post result phase
  | .call action next, phase, post =>
      protocol.Allows phase action ∧
        ∀ reply, (next reply).Conforms protocol (protocol.next phase action reply) post

namespace Program

variable {protocol : Protocol I φ} {program : Program I α} {rest : α → Program I β}
variable {phase : φ} {post weaker : α → φ → Prop} {final : β → φ → Prop}

theorem Conforms.mono (conforms : program.Conforms protocol phase post)
    (weakens : ∀ result phase, post result phase → weaker result phase) :
    program.Conforms protocol phase weaker := by
  induction program generalizing phase with
  | done result => exact weakens result phase conforms
  | call action next ih => exact ⟨conforms.1, fun reply => ih reply (conforms.2 reply)⟩

theorem Conforms.bind (first : program.Conforms protocol phase post)
    (then_ : ∀ result phase, post result phase → (rest result).Conforms protocol phase final) :
    (program >>= rest).Conforms protocol phase final := by
  induction program generalizing phase with
  | done result => exact then_ result phase first
  | call action next ih => exact ⟨first.1, fun reply => ih reply (first.2 reply)⟩

end Program

/-- Two protocols at once. -/
def Protocol.prod {ψ : Type} (left : Protocol I φ) (right : Protocol I ψ) : Protocol I (φ × ψ) where
  Allows phases action := left.Allows phases.1 action ∧ right.Allows phases.2 action
  next phases action reply := (left.next phases.1 action reply, right.next phases.2 action reply)

/-- A program that keeps to each of two protocols keeps to both. -/
theorem Program.Conforms.prod {ψ : Type} {left : Protocol I φ} {right : Protocol I ψ}
    {program : Program I α} {phase : φ} {other : ψ} {post : α → φ → Prop} {holds : α → ψ → Prop}
    (first : program.Conforms left phase post) (second : program.Conforms right other holds) :
    program.Conforms (left.prod right) (phase, other)
      fun result phases => post result phases.1 ∧ holds result phases.2 := by
  induction program generalizing phase other with
  | done result => exact ⟨first, second⟩
  | call action next ih =>
      exact ⟨⟨first.1, second.1⟩, fun reply => ih reply (first.2 reply) (second.2 reply)⟩

/-! ## Threads -/

/-- A thread: what it has done, and what is left of its program. -/
structure Thread (I : Interface) (φ : Type) where
  phase : φ
  program : Program I Unit

structure Threads (I : Interface) (φ σ : Type) where
  shared : σ
  threads : List (Thread I φ)

namespace Threads

/-- What each thread has done. -/
def phases (system : Threads I φ σ) : List φ := system.threads.map Thread.phase

/-- One step: threads start, a thread is answered its next action, or a thread stops.
`starts` says which threads may start together and what that does to the shared state. -/
inductive Step (protocol : Protocol I φ)
    (perform : σ → (action : I.Action) → I.Reply action → σ → Prop)
    (starts : σ → List (Thread I φ) → σ → Prop) : Threads I φ σ → Threads I φ σ → Prop
  | started {shared after : σ} {threads fresh : List (Thread I φ)}
      (start : starts shared fresh after) :
      Step protocol perform starts ⟨shared, threads⟩ ⟨after, threads ++ fresh⟩
  | performed {shared after : σ} {threads : List (Thread I φ)} {index : Nat} {phase : φ}
      {action : I.Action} {next : I.Reply action → Program I Unit} (reply : I.Reply action)
      (found : threads[index]? = some ⟨phase, .call action next⟩)
      (performs : perform shared action reply after) :
      Step protocol perform starts ⟨shared, threads⟩
        ⟨after, threads.set index ⟨protocol.next phase action reply, next reply⟩⟩
  | crashed {shared : σ} {threads : List (Thread I φ)} {index : Nat} {thread : Thread I φ}
      (found : threads[index]? = some thread) :
      Step protocol perform starts ⟨shared, threads⟩
        ⟨shared, threads.set index ⟨thread.phase, .done ()⟩⟩

variable {protocol : Protocol I φ}
variable {perform : σ → (action : I.Action) → I.Reply action → σ → Prop}
variable {starts : σ → List (Thread I φ) → σ → Prop} {initial : σ → Prop}

/-- Every thread keeps to the protocol from its phase on. -/
def Conform (protocol : Protocol I φ) (system : Threads I φ σ) : Prop :=
  ∀ thread ∈ system.threads, thread.program.Conforms protocol thread.phase fun _ _ => True

/-- No thread runs yet. -/
def Idle (initial : σ → Prop) (system : Threads I φ σ) : Prop :=
  initial system.shared ∧ system.threads = []

theorem Conform.step
    (conforming : ∀ shared fresh after, starts shared fresh after → ∀ thread ∈ fresh,
      thread.program.Conforms protocol thread.phase fun _ _ => True)
    {system after : Threads I φ σ} (conform : system.Conform protocol)
    (step : Step protocol perform starts system after) : after.Conform protocol := by
  intro thread member
  cases step with
  | started start =>
      rcases List.mem_append.mp member with old | new
      · exact conform thread old
      · exact conforming _ _ _ start thread new
  | performed reply found performs =>
      rcases List.mem_or_eq_of_mem_set member with old | rfl
      · exact conform thread old
      · exact (conform _ (List.mem_of_getElem? found)).2 reply
  | crashed found =>
      rcases List.mem_or_eq_of_mem_set member with old | rfl
      · exact conform thread old
      · trivial

/-- Along every run, every thread keeps to the protocol. -/
theorem Reachable.conform
    (conforming : ∀ shared fresh after, starts shared fresh after → ∀ thread ∈ fresh,
      thread.program.Conforms protocol thread.phase fun _ _ => True)
    {system : Threads I φ σ}
    (reachable : Reachable (Idle initial) (Step protocol perform starts) system) :
    system.Conform protocol := by
  refine Reachable.invariant (Conform protocol) ?_ ?_ reachable
  · rintro ⟨shared, threads⟩ ⟨isInitial, rfl⟩ thread member
    cases member
  · exact fun _ _ _ conform step => conform.step conforming step

/-- A thread that stops has done what it has done. -/
theorem phases_crashed {shared : σ} {threads : List (Thread I φ)} {index : Nat}
    {thread : Thread I φ} (found : threads[index]? = some thread) :
    (⟨shared, threads.set index ⟨thread.phase, .done ()⟩⟩ : Threads I φ σ).phases =
      threads.map Thread.phase := by
  rw [phases, List.map_set]
  refine List.ext_getElem? fun place => ?_
  rw [List.getElem?_set]
  split
  · next here =>
    obtain ⟨inside, rfl⟩ := List.getElem?_eq_some_iff.mp found
    simp [← here, inside]
  · rfl

/-- Invariants of the shared state and of what the threads have done: they hold when
nothing has been done, and are kept when conforming threads start and when a thread is
answered an action its phase allows. -/
theorem Reachable.phases (holds : σ → List φ → Prop)
    (conforming : ∀ shared fresh after, starts shared fresh after → ∀ thread ∈ fresh,
      thread.program.Conforms protocol thread.phase fun _ _ => True)
    (base : ∀ shared, initial shared → holds shared [])
    (started : ∀ shared fresh after done, holds shared done → starts shared fresh after →
      holds after (done ++ fresh.map Thread.phase))
    (performed : ∀ shared after done index phase action reply, holds shared done →
      done[index]? = some phase → protocol.Allows phase action →
      perform shared action reply after →
      holds after (done.set index (protocol.next phase action reply)))
    {system : Threads I φ σ}
    (reachable : Reachable (Idle initial) (Step protocol perform starts) system) :
    holds system.shared system.phases := by
  refine Reachable.invariant (fun system => holds system.shared system.phases) ?_ ?_ reachable
  · rintro ⟨shared, threads⟩ ⟨isInitial, rfl⟩
    exact base shared isInitial
  · rintro before after reached invariant step
    have conform := Reachable.conform conforming reached
    cases step with
    | started start =>
        rw [Threads.phases, List.map_append]
        exact started _ _ _ _ invariant start
    | performed reply found performs =>
        rw [Threads.phases, List.map_set]
        refine performed _ _ _ _ _ _ reply invariant ?_
          (conform _ (List.mem_of_getElem? found)).1 performs
        exact (List.getElem?_map ..).trans (congrArg (Option.map Thread.phase) found)
    | crashed found =>
        rw [phases_crashed found]
        exact invariant

end Threads

end SlotsGame.Theory
