/-
# SlotsGame.Theory.Transactions -- concurrent transactions under locks

A database transaction is a program of statements: it takes locks, reads, and at
last writes and commits.  Locks are held until it ends and its writes are not
seen before.  `run` is the transaction on its own; `System.Step` interleaves any
number of them, statement by statement, and lets each of them fail anywhere or
lose the answer of its commit.

`Covered` is what makes the two agree: a statement reads only what the locks
already taken protect, or what nobody writes, or what a later statement would
refuse had it changed.  `System.serializable` is the result: the calls answered so
far did what they do on their own, one after another.
-/
import Mathlib.Data.Set.Insert
import Mathlib.Logic.Function.Basic
import SlotsGame.Theory.Runs

namespace SlotsGame.Theory

set_option autoImplicit false

variable {σ κ ε ρ γ ι : Type}

/-! ## One transaction -/

/-- A write is `none` when a constraint of the store refuses it. -/
inductive Transaction (σ κ ε ρ : Type)
  | lock (key : κ) (next : Transaction σ κ ε ρ)
  | read (next : σ → Transaction σ κ ε ρ)
  | commit (write : σ → Option σ) (result : Except ε ρ)
  | stop (result : Except ε ρ)

/-- The transaction on its own; `fault` is any error of the store itself. -/
def Transaction.run (fault : ε) : Transaction σ κ ε ρ → σ → Except ε ρ × σ
  | .lock _ next, store => next.run fault store
  | .read next, store => (next store).run fault store
  | .commit write result, store =>
      match write store with
      | some after => (result, after)
      | none => (.error fault, store)
  | .stop result, store => (result, store)

/-- It fails and leaves nothing. -/
def Transaction.Fails (fault : ε) (program : Transaction σ κ ε ρ) (store : σ) : Prop :=
  ∃ error, program.run fault store = (.error error, store)

/-- What each lock protects, what nobody writes, and how every write extends the
store. -/
structure Footprint (σ κ : Type) where
  same : κ → Setoid σ
  frozen : Set κ
  extends_ : σ → σ → Prop
  refl : ∀ store, extends_ store store
  trans : ∀ {first second third}, extends_ first second → extends_ second third →
    extends_ first third

/-- The later store extends the first and agrees with it on what the locks protect
and on what nobody writes. -/
structure Footprint.Agrees (footprint : Footprint σ κ) (locked : Set κ) (first later : σ) :
    Prop where
  same : ∀ key, key ∈ footprint.frozen ∨ key ∈ locked → (footprint.same key).r first later
  extends_ : footprint.extends_ first later

theorem Footprint.Agrees.refl (footprint : Footprint σ κ) (locked : Set κ) (store : σ) :
    footprint.Agrees locked store store :=
  ⟨fun key _ => (footprint.same key).refl store, footprint.refl store⟩

theorem Footprint.Agrees.trans {footprint : Footprint σ κ} {locked : Set κ} {first second third : σ}
    (left : footprint.Agrees locked first second) (right : footprint.Agrees locked second third) :
    footprint.Agrees locked first third :=
  ⟨fun key covered => (footprint.same key).trans (left.same key covered) (right.same key covered),
    footprint.trans left.extends_ right.extends_⟩

/-- A transaction that holds `locked` reads and writes under its locks.  Where it
`races`, it may read what has changed since, if it fails either way. -/
inductive Transaction.Covered (fault : ε) (footprint : Footprint σ κ) (races : Prop) :
    Set κ → Transaction σ κ ε ρ → Prop
  | lock {locked : Set κ} {key : κ} {next : Transaction σ κ ε ρ} (free : key ∉ footprint.frozen)
      (rest : Covered fault footprint races (insert key locked) next) :
      Covered fault footprint races locked (.lock key next)
  | read {locked : Set κ} {next : σ → Transaction σ κ ε ρ}
      (stable : ∀ first later, footprint.Agrees locked first later →
        next first = next later ∨
          (races ∧ (next first).Fails fault later ∧ (next later).Fails fault later))
      (rest : ∀ store, Covered fault footprint races locked (next store)) :
      Covered fault footprint races locked (.read next)
  | commit {locked : Set κ} {write : σ → Option σ} {result : Except ε ρ}
      (within : ∀ store after, write store = some after → footprint.extends_ store after ∧
        ∀ key, key ∉ locked → (footprint.same key).r store after) :
      Covered fault footprint races locked (.commit write result)
  | stop {locked : Set κ} {result : Except ε ρ} : Covered fault footprint races locked (.stop result)

/-! ## Histories -/

/-- A call that has been answered, with the store before and after. -/
structure Completion (σ ε ρ γ : Type) where
  call : γ
  result : Except ε ρ
  before : σ
  after : σ

/-- Calls answered one after another, each with its `effect`. -/
inductive History (effect : γ → σ → Except ε ρ → σ → Prop) (start : σ) :
    List (Completion σ ε ρ γ) → σ → Prop
  | nil : History effect start [] start
  | snoc {log : List (Completion σ ε ρ γ)} {store : σ} (history : History effect start log store)
      (call : γ) (result : Except ε ρ) (after : σ) (happened : effect call store result after) :
      History effect start
        (log ++ [{ call := call, result := result, before := store, after := after }]) after

namespace History

variable {effect : γ → σ → Except ε ρ → σ → Prop} {start store : σ}
  {log : List (Completion σ ε ρ γ)}

/-- What each call keeps, the history keeps. -/
theorem invariant (holds : σ → Prop) (history : History effect start log store)
    (initial : holds start)
    (kept : ∀ call before result after, effect call before result after → holds before →
      holds after) : holds store := by
  induction history with
  | nil => exact initial
  | snoc _ call result after happened ih => exact kept call _ result after happened ih

/-- A history is cut anywhere. -/
theorem split {left right : List (Completion σ ε ρ γ)}
    (history : History effect start (left ++ right) store) :
    ∃ middle, History effect start left middle ∧ History effect middle right store := by
  generalize whole : left ++ right = log at history
  induction history generalizing right with
  | nil =>
      obtain ⟨rfl, rfl⟩ := List.append_eq_nil_iff.mp whole
      exact ⟨start, .nil, .nil⟩
  | snoc earlier call result after happened ih =>
      rcases List.eq_nil_or_concat right with rfl | ⟨rest, last, rfl⟩
      · rw [List.append_nil] at whole
        subst whole
        exact ⟨after, .snoc earlier call result after happened, .nil⟩
      · rw [List.concat_eq_append, ← List.append_assoc] at whole
        obtain ⟨same, same'⟩ := List.append_inj' whole rfl
        obtain ⟨middle, first, second⟩ := ih same
        refine ⟨middle, first, ?_⟩
        rw [List.concat_eq_append, same']
        exact .snoc second call result after happened

/-- One call of a history, with what came before it and after it. -/
theorem entry {left right : List (Completion σ ε ρ γ)} {entry : Completion σ ε ρ γ}
    (history : History effect start (left ++ entry :: right) store) :
    History effect start left entry.before ∧
      effect entry.call entry.before entry.result entry.after ∧
      History effect entry.after right store := by
  rw [List.append_cons] at history
  obtain ⟨middle, first, second⟩ := history.split
  generalize whole : left ++ [entry] = log at first
  cases first with
  | nil => simp at whole
  | snoc earlier call result after happened =>
      obtain ⟨rfl, same⟩ := List.append_inj' whole rfl
      obtain rfl := List.singleton_inj.mp same
      exact ⟨earlier, happened, second⟩

end History

/-! ## Many of them -/

/-- A call in flight: what is left of its transaction, and the locks it holds. -/
structure Process (σ κ ε ρ γ : Type) where
  call : γ
  rest : Transaction σ κ ε ρ
  locked : Set κ

structure System (σ κ ε ρ γ ι : Type) where
  store : σ
  running : ι → Option (Process σ κ ε ρ γ)
  log : List (Completion σ ε ρ γ)

namespace System

variable (fault : ε) (program : γ → Transaction σ κ ε ρ)

/-- No call is in flight. -/
def quiet (store : σ) (log : List (Completion σ ε ρ γ)) : System σ κ ε ρ γ ι :=
  { store := store, running := fun _ => none, log := log }

variable [DecidableEq ι]

/-- The call of `id` goes on as `process`. -/
def advance (system : System σ κ ε ρ γ ι) (id : ι) (process : Process σ κ ε ρ γ) :
    System σ κ ε ρ γ ι :=
  { system with running := Function.update system.running id (some process) }

/-- The call of `id` is answered. -/
def finish (system : System σ κ ε ρ γ ι) (id : ι) (call : γ) (result : Except ε ρ) (after : σ) :
    System σ κ ε ρ γ ι :=
  { store := after, running := Function.update system.running id none
    log := system.log ++ [{ call := call, result := result, before := system.store, after := after }] }

/-- One statement of one call, or its failure. -/
inductive Step (system : System σ κ ε ρ γ ι) : System σ κ ε ρ γ ι → Prop
  | begins (id : ι) (call : γ) (free : system.running id = none) :
      Step system (system.advance id { call := call, rest := program call, locked := ∅ })
  | lock (id : ι) (call : γ) (key : κ) (next : Transaction σ κ ε ρ) (locked : Set κ)
      (running : system.running id = some ⟨call, .lock key next, locked⟩)
      (free : ∀ other process, other ≠ id → system.running other = some process →
        key ∉ process.locked) :
      Step system (system.advance id { call := call, rest := next, locked := insert key locked })
  | read (id : ι) (call : γ) (next : σ → Transaction σ κ ε ρ) (locked : Set κ)
      (running : system.running id = some ⟨call, .read next, locked⟩) :
      Step system
        (system.advance id { call := call, rest := next system.store, locked := locked })
  | commit (id : ι) (call : γ) (write : σ → Option σ) (result : Except ε ρ) (locked : Set κ) (after : σ)
      (running : system.running id = some ⟨call, .commit write result, locked⟩) (written : write system.store = some after) :
      Step system (system.finish id call result after)
  | lost (id : ι) (call : γ) (write : σ → Option σ) (result : Except ε ρ) (locked : Set κ) (after : σ)
      (running : system.running id = some ⟨call, .commit write result, locked⟩) (written : write system.store = some after) :
      Step system (system.finish id call (.error fault) after)
  | stop (id : ι) (call : γ) (result : Except ε ρ) (locked : Set κ)
      (running : system.running id = some ⟨call, .stop result, locked⟩) :
      Step system (system.finish id call result system.store)
  | fail (id : ι) (process : Process σ κ ε ρ γ) (running : system.running id = some process) :
      Step system (system.finish id process.call (.error fault) system.store)

end System

namespace System

variable {fault : ε} {program : γ → Transaction σ κ ε ρ} [DecidableEq ι]

/-- One call in flight, and no other. -/
def only (store : σ) (log : List (Completion σ ε ρ γ)) (id : ι) (process : Process σ κ ε ρ γ) :
    System σ κ ε ρ γ ι :=
  { store := store, running := Function.update (fun _ => none) id (some process), log := log }

section Only

variable (store : σ) (log : List (Completion σ ε ρ γ)) (id : ι) (process next : Process σ κ ε ρ γ)

theorem only_running : (only store log id process).running id = some process := by
  simp only [only, Function.update_self]

theorem only_other {other : ι} (different : other ≠ id) :
    (only store log id process).running other = none := by
  simp only [only, Function.update_of_ne different]

theorem only_advance : (only store log id process).advance id next = only store log id next := by
  simp only [only, advance, Function.update_idem]

theorem only_finish (call : γ) (result : Except ε ρ) (after : σ) :
    (only store log id process).finish id call result after =
      quiet after (log ++ [⟨call, result, store, after⟩]) := by
  simp only [only, finish, quiet, Function.update_idem, Function.update_eq_self_iff.mpr]

end Only

/-- What is left of a call, when it runs without another in between; its answer may be
lost. -/
theorem finishes (id : ι) (call : γ) (rest : Transaction σ κ ε ρ) (locked : Set κ) (store : σ)
    (log : List (Completion σ ε ρ γ)) {answer : Except ε ρ}
    (answered : answer = (rest.run fault store).1 ∨ answer = .error fault) :
    Relation.ReflTransGen (Step fault program) (only store log id ⟨call, rest, locked⟩)
      (quiet (rest.run fault store).2 (log ++ [⟨call, answer, store, (rest.run fault store).2⟩])) := by
  have mine (rest : Transaction σ κ ε ρ) (locked : Set κ) :=
    only_running store log id ⟨call, rest, locked⟩
  -- a failure before anything was written
  have failed (rest : Transaction σ κ ε ρ) (locked : Set κ) :
      Relation.ReflTransGen (Step fault program) (only store log id ⟨call, rest, locked⟩)
        (quiet store (log ++ [⟨call, .error fault, store, store⟩])) := by
    have last : Step fault program _ _ := .fail id _ (mine rest locked)
    rw [only_finish] at last
    exact .single last
  induction rest generalizing locked with
  | lock key next ih =>
      have first : Step fault program _ _ := .lock id call key next locked (mine _ locked) (by
        intro other process different running
        rw [only_other store log id _ different] at running
        cases running)
      rw [only_advance] at first
      exact .head first (ih _ answered)
  | read next ih =>
      have first : Step fault program _ _ := .read id call next locked (mine _ locked)
      rw [only_advance] at first
      exact .head first (ih _ _ answered)
  | commit write result =>
      cases written : write store with
      | some after =>
          simp only [Transaction.run, written] at answered ⊢
          rcases answered with rfl | rfl
          · have last : Step fault program _ _ :=
              .commit id call write answer locked after (mine _ locked) written
            rw [only_finish] at last
            exact .single last
          · have last : Step fault program _ _ :=
              .lost id call write result locked after (mine _ locked) written
            rw [only_finish] at last
            exact .single last
      | none =>
          simp only [Transaction.run, written, or_self] at answered ⊢
          subst answered
          exact failed _ locked
  | stop result =>
      rcases answered with same | rfl
      · obtain rfl : answer = result := same
        have last : Step fault program _ _ := .stop id call answer locked (mine _ locked)
        rw [only_finish] at last
        exact .single last
      · exact failed _ locked

/-- A call may run from its first statement to its last with nothing in between, and
its answer may be lost. -/
theorem runs_alone (id : ι) (call : γ) (store : σ) (log : List (Completion σ ε ρ γ))
    {answer : Except ε ρ}
    (answered : answer = ((program call).run fault store).1 ∨ answer = .error fault) :
    Relation.ReflTransGen (Step fault program) (quiet store log : System σ κ ε ρ γ ι)
      (quiet ((program call).run fault store).2
        (log ++ [⟨call, answer, store, ((program call).run fault store).2⟩])) :=
  .head (.begins id call rfl) (finishes id call (program call) ∅ store log answered)

end System

/-! ## Serialization -/

/-- What a call answers and leaves, when it is looked at on its own. -/
inductive Transaction.Effect (fault : ε) (races : Prop) (program : Transaction σ κ ε ρ)
    (before : σ) : Except ε ρ → σ → Prop
  | ran (result : Except ε ρ) (after : σ) (runs : program.run fault before = (result, after)) :
      Effect fault races program before result after
  | raced (error : ε) (race : races) (fails : program.Fails fault before) :
      Effect fault races program before (.error error) before
  | failed : Effect fault races program before (.error fault) before
  | lost (result : Except ε ρ) (after : σ) (runs : program.run fault before = (result, after)) :
      Effect fault races program before (.error fault) after

section Serial

variable (fault : ε) (program : γ → Transaction σ κ ε ρ) (footprint : Footprint σ κ)
  (races : γ → Prop)

/-- A call in flight will do what it does on its own, as long as its locks keep. -/
structure Process.OnTrack (process : Process σ κ ε ρ γ) (store : σ) : Prop where
  covered : process.rest.Covered fault footprint (races process.call) process.locked
  writable : ∀ key ∈ process.locked, key ∉ footprint.frozen
  same : ∀ now, footprint.Agrees process.locked store now →
    process.rest.run fault now = (program process.call).run fault now ∨
      (races process.call ∧ process.rest.Fails fault now ∧ (program process.call).Fails fault now)

structure System.Serial (start : σ) (system : System σ κ ε ρ γ ι) : Prop where
  onTrack : ∀ id process, system.running id = some process →
    process.OnTrack fault program footprint races system.store
  exclusive : ∀ id other process third, id ≠ other → system.running id = some process →
    system.running other = some third → ∀ key ∈ process.locked, key ∉ third.locked
  history : History (fun call => (program call).Effect fault (races call)) start system.log system.store

variable {fault program footprint races}

/-- A write under locks one does not hold leaves one on track. -/
theorem Process.OnTrack.keep {process : Process σ κ ε ρ γ} {store after : σ}
    (onTrack : process.OnTrack fault program footprint races store)
    (kept : footprint.Agrees process.locked store after) :
    process.OnTrack fault program footprint races after :=
  { covered := onTrack.covered, writable := onTrack.writable
    same := fun now agrees => onTrack.same now (kept.trans agrees) }

variable {start : σ} {system after : System σ κ ε ρ γ ι}

theorem System.serial_quiet (store : σ) :
    (System.quiet store [] : System σ κ ε ρ γ ι).Serial fault program footprint races store := by
  refine { onTrack := ?_, exclusive := ?_, history := .nil }
  · intro id process running
    cases running
  · intro id other process third _ running
    cases running

variable [DecidableEq ι]

/-- Changing one call in flight, with no more locks than are free. -/
theorem System.Serial.advance (serial : system.Serial fault program footprint races start) {id : ι}
    {process : Process σ κ ε ρ γ} (onTrack : process.OnTrack fault program footprint races system.store)
    (free : ∀ other third, other ≠ id → system.running other = some third →
      ∀ key ∈ process.locked, key ∉ third.locked) :
    (system.advance id process).Serial fault program footprint races start := by
  have look {other : ι} {third : Process σ κ ε ρ γ}
      (running : (system.advance id process).running other = some third) :
      (other = id ∧ third = process) ∨ (other ≠ id ∧ system.running other = some third) := by
    simp only [System.advance, Function.update_apply] at running
    split at running
    case isTrue same => exact .inl ⟨same, (Option.some.inj running).symm⟩
    case isFalse different => exact .inr ⟨different, running⟩
  refine { onTrack := ?_, exclusive := ?_, history := serial.history }
  · intro other third running
    rcases look running with ⟨rfl, rfl⟩ | ⟨_, old⟩
    · exact onTrack
    · exact serial.onTrack other third old
  · intro left right first second different running running' key held
    rcases look running with ⟨rfl, rfl⟩ | ⟨_, old⟩
    · rcases look running' with ⟨rfl, rfl⟩ | ⟨apart, old'⟩
      · exact absurd rfl different
      · exact free right second apart old' key held
    · rcases look running' with ⟨rfl, rfl⟩ | ⟨_, old'⟩
      · intro taken
        exact free left first different old key taken held
      · exact serial.exclusive left right first second different old old' key held

/-- Ending one call: what it wrote was under its own locks. -/
theorem System.Serial.finish (serial : system.Serial fault program footprint races start) {id : ι}
    {process : Process σ κ ε ρ γ} (running : system.running id = some process)
    {result : Except ε ρ} {store : σ}
    (within : footprint.extends_ system.store store ∧
      ∀ key, key ∉ process.locked → (footprint.same key).r system.store store)
    (effect : (program process.call).Effect fault (races process.call) system.store result store) :
    (system.finish id process.call result store).Serial fault program footprint races start := by
  have look {other : ι} {third : Process σ κ ε ρ γ}
      (found : (system.finish id process.call result store).running other = some third) :
      other ≠ id ∧ system.running other = some third := by
    simp only [System.finish, Function.update_apply] at found
    split at found
    · cases found
    case isFalse different => exact ⟨different, found⟩
  refine { onTrack := ?_, exclusive := ?_, history := .snoc serial.history _ _ _ effect }
  · intro other third found
    obtain ⟨different, old⟩ := look found
    refine (serial.onTrack other third old).keep ⟨?_, within.1⟩
    intro key covered
    refine within.2 key ?_
    rcases covered with frozen | held
    · intro taken
      exact (serial.onTrack id process running).writable key taken frozen
    · exact serial.exclusive other id third process different old running key held
  · intro left right first second different found found'
    exact serial.exclusive left right first second different (look found).2 (look found').2

/-- The end of a call on track is an effect of the whole call. -/
theorem Process.OnTrack.effect {process : Process σ κ ε ρ γ} {store after : σ} {result : Except ε ρ}
    (onTrack : process.OnTrack fault program footprint races store)
    (ended : process.rest.run fault store = (result, after)) :
    (program process.call).Effect fault (races process.call) store result after := by
  rcases onTrack.same store (.refl _ _ _) with same | ⟨race, ⟨error, fails⟩, whole⟩
  · rw [ended] at same
    exact .ran result after same.symm
  · rw [ended] at fails
    cases fails
    exact .raced error race whole

/-- Every statement keeps the system serial, and every call it ends had its effect. -/
theorem System.Serial.step (covered : ∀ call, (program call).Covered fault footprint (races call) ∅)
    (serial : system.Serial fault program footprint races start) (step : system.Step fault program after) :
    after.Serial fault program footprint races start := by
  -- the locks of a call in flight are not held by another
  have own {id : ι} {process : Process σ κ ε ρ γ} (running : system.running id = some process)
      (other : ι) (third : Process σ κ ε ρ γ) (different : other ≠ id)
      (found : system.running other = some third) : ∀ key ∈ process.locked, key ∉ third.locked :=
    serial.exclusive id other process third (Ne.symm different) running found
  cases step with
  | begins id call free =>
      refine serial.advance { covered := covered call, writable := ?_, same := ?_ } ?_
      · intro key held
        cases held
      · intro now _
        exact .inl rfl
      · intro other third _ _ key held
        cases held
  | lock id call key next locked running free =>
      have onTrack := serial.onTrack id _ running
      cases onTrack.covered with
      | lock unfrozen rest =>
          refine serial.advance { covered := rest, writable := ?_, same := ?_ } ?_
          · rintro other (rfl | held)
            · exact unfrozen
            · exact onTrack.writable other held
          · intro now agrees
            refine onTrack.same now ⟨fun other covered => agrees.same other ?_, agrees.extends_⟩
            exact covered.imp_right (Set.mem_insert_of_mem key)
          · rintro other third different found taken (rfl | held)
            · exact free other third different found
            · exact own running other third different found taken held
  | read id call next locked running =>
      have onTrack := serial.onTrack id _ running
      cases onTrack.covered with
      | read stable rest =>
          refine serial.advance { covered := rest _, writable := onTrack.writable, same := ?_ }
            (fun other third different found => own running other third different found)
          intro now agrees
          have whole := onTrack.same now agrees
          have reads : (Transaction.read next).run fault now = (next now).run fault now := rfl
          simp only [Transaction.Fails, reads] at whole
          rcases stable system.store now agrees with same | ⟨race, here, there⟩
          · rw [same]
            exact whole
          · refine .inr ⟨race, here, ?_⟩
            rcases whole with same | ⟨_, _, fails⟩
            · obtain ⟨error, fails⟩ := there
              exact ⟨error, same.symm.trans fails⟩
            · exact fails
  | commit id call write result locked store running written =>
      have onTrack := serial.onTrack id _ running
      cases onTrack.covered with
      | commit within =>
          refine serial.finish running (within system.store store written) ?_
          refine onTrack.effect ?_
          simp only [Transaction.run, written]
  | lost id call write result locked store running written =>
      have onTrack := serial.onTrack id _ running
      have ended : (Transaction.commit write result : Transaction σ κ ε ρ).run fault system.store =
          (result, store) := by
        simp only [Transaction.run, written]
      cases onTrack.covered with
      | commit within =>
          refine serial.finish running (within system.store store written) ?_
          cases onTrack.effect ended with
          | ran _ _ runs => exact .lost result store runs
          | raced => exact .failed
          | failed => exact .failed
          | lost former _ runs => exact .lost former store runs
  | stop id call result locked running =>
      exact serial.finish running ⟨footprint.refl _, fun key _ => (footprint.same key).refl _⟩
        ((serial.onTrack id _ running).effect rfl)
  | fail id process running =>
      exact serial.finish running ⟨footprint.refl _, fun key _ => (footprint.same key).refl _⟩ .failed

/-- Whatever the order of the statements, the calls are answered one after another. -/
theorem System.serializable (covered : ∀ call, (program call).Covered fault footprint (races call) ∅)
    (reached : Relation.ReflTransGen (System.Step fault program) (System.quiet start []) system) :
    History (fun call => (program call).Effect fault (races call)) start system.log system.store := by
  suffices serial : system.Serial fault program footprint races start from serial.history
  induction reached with
  | refl => exact System.serial_quiet start
  | tail _ stepped ih => exact ih.step covered stepped

end Serial

end SlotsGame.Theory
