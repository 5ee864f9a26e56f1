/-
# SlotsGame.Theory.Tables -- keyed tables and operations that commit or roll back

A `Table` is a finite set of rows under a primary key.  `lookup` and `insert`
are the association list's; `update` is a change of the rows in place, and
`lookup_update` is all a proof needs of it.

An operation on a store is a checked computation of its result together with the
store it leaves.  It may stop early in two ways: `rolledBack` leaves nothing
behind, `committed` leaves what it wrote before the error.  `settle` reads off
what a caller sees, and `settle_cases` is the inversion every specification of
an operation starts from.
-/
import Mathlib.Algebra.Ring.Int.Defs
import Mathlib.Data.List.AList
import SlotsGame.Theory.Effects

namespace SlotsGame.Theory

set_option autoImplicit false

/-! ## Tables -/

abbrev Table (κ ρ : Type) := AList fun _ : κ => ρ

namespace Table

variable {κ ρ : Type}

def rows (table : Table κ ρ) : List (κ × ρ) :=
  table.entries.map fun entry => (entry.1, entry.2)

theorem keys_update (entries : List (Σ _ : κ, ρ)) (change : κ → ρ → ρ) :
    (entries.map fun entry => (⟨entry.1, change entry.1 entry.2⟩ : Σ _ : κ, ρ)).keys =
      entries.keys := by
  simp [List.keys, Function.comp_def]

/-- Change every row in place. -/
def update (table : Table κ ρ) (change : κ → ρ → ρ) : Table κ ρ where
  entries := table.entries.map fun entry => ⟨entry.1, change entry.1 entry.2⟩
  nodupKeys := by
    have nodup : table.entries.keys.Nodup := table.nodupKeys
    rwa [← keys_update table.entries change] at nodup

theorem rows_distinct (table : Table κ ρ) :
    table.rows.Pairwise fun left right => left.1 ≠ right.1 := by
  have nodup := List.nodupKeys_iff_pairwise.mp table.nodupKeys
  rw [rows, List.pairwise_map]
  exact nodup

variable [DecidableEq κ]

theorem mem_rows {table : Table κ ρ} {key : κ} {row : ρ} :
    (key, row) ∈ table.rows ↔ table.lookup key = some row := by
  rw [← Option.mem_def, AList.mem_lookup_iff, rows, List.mem_map]
  constructor
  · rintro ⟨entry, member, same⟩
    obtain ⟨rfl, rfl⟩ := Prod.mk.inj same
    exact member
  · intro member
    exact ⟨⟨key, row⟩, member, rfl⟩

@[simp] theorem lookup_update (table : Table κ ρ) (change : κ → ρ → ρ) (key : κ) :
    (table.update change).lookup key = (table.lookup key).map (change key) := by
  obtain ⟨entries, nodup⟩ := table
  simp only [update, AList.lookup]
  induction entries with
  | nil => rfl
  | cons entry rest ih =>
      obtain ⟨other, row⟩ := entry
      by_cases same : key = other
      · subst same
        simp [List.dlookup_cons_eq]
      · have skip (table : List (Σ _ : κ, ρ)) (first : ρ) :
            List.dlookup key (⟨other, first⟩ :: table) = List.dlookup key table :=
          List.dlookup_cons_ne table ⟨other, first⟩ same
        rw [List.map_cons, skip, skip]
        exact ih (List.nodupKeys_cons.mp nodup).2

@[simp] theorem lookup_insert (table : Table κ ρ) (key other : κ) (row : ρ) :
    (table.insert key row).lookup other = if other = key then some row else table.lookup other := by
  by_cases same : other = key
  · subst same
    simp [AList.lookup_insert]
  · rw [AList.lookup_insert_ne same, if_neg same]

/-- A selection that only the rows of one key pass has at most that row. -/
theorem rows_filter_single {table : Table κ ρ} {selects : κ × ρ → Bool} {key : κ} {row : ρ}
    (found : table.lookup key = some row) (selected : selects (key, row) = true)
    (only : ∀ other third, table.lookup other = some third → selects (other, third) = true →
      other = key) :
    table.rows.filter selects = [(key, row)] := by
  have distinct : (table.rows.filter selects).Pairwise fun left right => left.1 ≠ right.1 :=
    (rows_distinct table).filter _
  have member : (key, row) ∈ table.rows.filter selects :=
    List.mem_filter.mpr ⟨mem_rows.mpr found, selected⟩
  have same : ∀ entry ∈ table.rows.filter selects, entry = (key, row) := by
    rintro ⟨other, third⟩ member
    obtain ⟨present, passes⟩ := List.mem_filter.mp member
    have there := mem_rows.mp present
    obtain rfl : other = key := only other third there passes
    rw [found, Option.some.injEq] at there
    rw [there]
  cases chosen : table.rows.filter selects with
  | nil =>
      rw [chosen] at member
      cases member
  | cons first rest =>
      rw [chosen] at same distinct
      obtain rfl := same first (by simp)
      cases rest with
      | nil => rfl
      | cons second rest =>
          have repeated := same second (by simp)
          have apart := (List.pairwise_cons.mp distinct).1 second (by simp)
          exact absurd (congrArg Prod.fst repeated).symm apart

/-! A sum over the rows changes by the row that is written. -/

omit [DecidableEq κ] in
def total (weight : κ → ρ → Int) (table : Table κ ρ) : Int :=
  (table.rows.map fun row => weight row.1 row.2).sum

theorem sum_kerase (weight : κ → ρ → Int) (key : κ) (entries : List (Σ _ : κ, ρ)) :
    ((List.kerase key entries).map fun entry => weight entry.1 entry.2).sum =
      (entries.map fun entry => weight entry.1 entry.2).sum -
        ((List.dlookup key entries).map (weight key)).getD 0 := by
  induction entries with
  | nil => simp
  | cons entry rest ih =>
      obtain ⟨other, row⟩ := entry
      by_cases same : key = other
      · subst same
        have erased : List.kerase key (⟨key, row⟩ :: rest) = rest := List.kerase_cons_eq rfl
        have found : List.dlookup key (⟨key, row⟩ :: rest) = some row := List.dlookup_cons_eq _ _ _
        rw [erased, found, Option.map_some, Option.getD_some, List.map_cons, List.sum_cons]
        dsimp only
        omega
      · have kept : List.kerase key (⟨other, row⟩ :: rest) = ⟨other, row⟩ :: List.kerase key rest :=
          List.kerase_cons_ne same
        have skipped : List.dlookup key (⟨other, row⟩ :: rest) = List.dlookup key rest :=
          List.dlookup_cons_ne rest ⟨other, row⟩ same
        rw [kept, skipped, List.map_cons, List.sum_cons, ih, List.map_cons, List.sum_cons]
        omega

theorem total_insert (weight : κ → ρ → Int) (table : Table κ ρ) (key : κ) (row : ρ) :
    total weight (table.insert key row) =
      total weight table - ((table.lookup key).map (weight key)).getD 0 + weight key row := by
  have erased := sum_kerase weight key table.entries
  have whole (table : Table κ ρ) :
      total weight table = (table.entries.map fun entry => weight entry.1 entry.2).sum := by
    rw [total, rows, List.map_map]
    rfl
  have written : (table.insert key row).entries = ⟨key, row⟩ :: List.kerase key table.entries := rfl
  rw [whole, whole, written, List.map_cons, List.sum_cons, erased, AList.lookup]
  dsimp only
  omega

omit [DecidableEq κ] in
theorem total_empty (weight : κ → ρ → Int) : total weight (∅ : Table κ ρ) = 0 := rfl

end Table

/-! ## Operations on a store -/

/-- How an operation on a store of type `σ` ends early. -/
inductive Abort (σ ε : Type)
  | rolledBack (error : ε)
  | committed (error : ε) (after : σ)

variable {σ ε α β : Type}

/-- The reply of an operation that began in `before`, and the store it leaves. -/
def settle (before : σ) : Except (Abort σ ε) (α × σ) → Except ε α × σ
  | .ok (result, after) => (.ok result, after)
  | .error (.rolledBack error) => (.error error, before)
  | .error (.committed error after) => (.error error, after)

/-- A check that is made before anything is written. -/
def check (checked : Except ε α) : Except (Abort σ ε) α :=
  match checked with
  | .ok a => .ok a
  | .error error => .error (.rolledBack error)

/-- Stop with nothing written when `bad` holds. -/
def abortWhen (bad : Prop) [Decidable bad] (error : ε) : Except (Abort σ ε) Unit :=
  check (refuse bad error)

/-- The row that must be there. -/
def require (found : Option α) (error : ε) : Except (Abort σ ε) α :=
  match found with
  | some a => .ok a
  | none => .error (.rolledBack error)

@[simp] theorem check_ok {checked : Except ε α} {a : α} :
    (check checked : Except (Abort σ ε) α) = .ok a ↔ checked = .ok a := by
  cases checked <;> simp [check]

@[simp] theorem abortWhen_ok {bad : Prop} [Decidable bad] {error : ε} {u : Unit} :
    (abortWhen bad error : Except (Abort σ ε) Unit) = .ok u ↔ ¬ bad := by
  simp [abortWhen]

@[simp] theorem require_ok {found : Option α} {error : ε} {a : α} :
    (require found error : Except (Abort σ ε) α) = .ok a ↔ found = some a := by
  cases found <;> simp [require]

/-! An error that left something written comes from the step that wrote it. -/

theorem bind_committed {first : Except (Abort σ ε) α} {next : α → Except (Abort σ ε) β} {error : ε}
    {after : σ} :
    (first >>= next) = .error (.committed error after) ↔
      first = .error (.committed error after) ∨
        ∃ a, first = .ok a ∧ next a = .error (.committed error after) := by
  cases first with
  | error e => simp [bind, Except.bind]
  | ok a => simp [bind, Except.bind]

@[simp] theorem check_committed {checked : Except ε α} {error : ε} {after : σ} :
    (check checked : Except (Abort σ ε) α) ≠ .error (.committed error after) := by
  cases checked <;> simp [check]

@[simp] theorem abortWhen_committed {bad : Prop} [Decidable bad] {error e : ε} {after : σ} :
    (abortWhen bad e : Except (Abort σ ε) Unit) ≠ .error (.committed error after) :=
  check_committed

@[simp] theorem require_committed {found : Option α} {error e : ε} {after : σ} :
    (require found e : Except (Abort σ ε) α) ≠ .error (.committed error after) := by
  cases found <;> simp [require]

@[simp] theorem pure_committed {a : α} {error : ε} {after : σ} :
    (pure a : Except (Abort σ ε) α) ≠ .error (.committed error after) := by
  simp [pure, Except.pure]

/-- An operation that writes nothing before it fails. -/
def Atomic (program : Except (Abort σ ε) α) : Prop :=
  ∀ error after, program ≠ .error (.committed error after)

namespace Atomic

theorem bind {first : Except (Abort σ ε) α} {next : α → Except (Abort σ ε) β}
    (here : Atomic first) (there : ∀ a, Atomic (next a)) : Atomic (first >>= next) := by
  intro error after stopped
  rcases bind_committed.mp stopped with stopped | ⟨a, _, stopped⟩
  · exact here error after stopped
  · exact there a error after stopped

theorem check (checked : Except ε α) : Atomic (check checked : Except (Abort σ ε) α) :=
  fun _ _ => check_committed

theorem abortWhen (bad : Prop) [Decidable bad] (error : ε) :
    Atomic (abortWhen bad error : Except (Abort σ ε) Unit) :=
  fun _ _ => abortWhen_committed

theorem require (found : Option α) (error : ε) :
    Atomic (require found error : Except (Abort σ ε) α) :=
  fun _ _ => require_committed

theorem pure (a : α) : Atomic (pure a : Except (Abort σ ε) α) :=
  fun _ _ => pure_committed

end Atomic

/-- What an operation has written when it fails satisfies `holds`. -/
def Leaves (holds : σ → Prop) (program : Except (Abort σ ε) α) : Prop :=
  ∀ error after, program = .error (.committed error after) → holds after

namespace Leaves

variable {holds : σ → Prop}

theorem bind {first : Except (Abort σ ε) α} {next : α → Except (Abort σ ε) β}
    (here : Leaves holds first) (there : ∀ a, first = .ok a → Leaves holds (next a)) :
    Leaves holds (first >>= next) := by
  intro error after stopped
  rcases bind_committed.mp stopped with stopped | ⟨a, done, stopped⟩
  · exact here error after stopped
  · exact there a done error after stopped

theorem check (checked : Except ε α) : Leaves holds (check checked : Except (Abort σ ε) α) :=
  fun _ _ stopped => absurd stopped check_committed

theorem abortWhen (bad : Prop) [Decidable bad] (error : ε) :
    Leaves holds (abortWhen bad error : Except (Abort σ ε) Unit) :=
  fun _ _ stopped => absurd stopped abortWhen_committed

theorem require (found : Option α) (error : ε) :
    Leaves holds (require found error : Except (Abort σ ε) α) :=
  fun _ _ stopped => absurd stopped require_committed

theorem ok (a : α) : Leaves holds (.ok a : Except (Abort σ ε) α) := by
  intro error after stopped
  cases stopped

theorem rolledBack (error : ε) :
    Leaves holds (.error (.rolledBack error) : Except (Abort σ ε) α) := by
  intro error after stopped
  cases stopped

theorem mapM {f : α → Except (Abort σ ε) β} {items : List α}
    (each : ∀ item ∈ items, Leaves holds (f item)) : Leaves holds (items.mapM f) := by
  induction items with
  | nil => exact ok []
  | cons item rest ih =>
      rw [List.mapM_cons]
      refine bind (each item (by simp)) fun _ _ => ?_
      exact bind (ih fun other member => each other (by simp [member])) fun _ _ => ok _

theorem foldlM {step : β → α → Except (Abort σ ε) β}
    (each : ∀ state item, Leaves holds (step state item)) (items : List α) (start : β) :
    Leaves holds (items.foldlM step start) := by
  induction items generalizing start with
  | nil => exact ok start
  | cons item rest ih =>
      rw [List.foldlM_cons]
      exact bind (each start item) fun next _ => ih next

end Leaves

/-- An operation that does not roll back with `error`. -/
def Spares (error : ε) (program : Except (Abort σ ε) α) : Prop :=
  program ≠ .error (.rolledBack error)

namespace Spares

variable {error : ε}

theorem bind {first : Except (Abort σ ε) α} {next : α → Except (Abort σ ε) β}
    (here : Spares error first) (there : ∀ a, first = .ok a → Spares error (next a)) :
    Spares error (first >>= next) := by
  intro stopped
  cases ran : first with
  | ok a =>
      rw [ran] at stopped
      exact there a ran stopped
  | error abort =>
      rw [ran] at stopped
      cases stopped
      exact here ran

theorem ok (a : α) : Spares error (.ok a : Except (Abort σ ε) α) := by
  rintro ⟨⟩

theorem of_ok {program : Except (Abort σ ε) α} {a : α} (done : program = .ok a) :
    Spares error program := by
  rw [done]
  exact ok a

theorem check {checked : Except ε α} (other : checked ≠ .error error) :
    Spares error (check checked : Except (Abort σ ε) α) := by
  cases checked with
  | ok a => exact ok a
  | error e =>
      rintro ⟨⟩
      exact other rfl

theorem abortWhen {bad : Prop} [Decidable bad] {e : ε} (other : bad → e ≠ error) :
    Spares error (abortWhen bad e : Except (Abort σ ε) Unit) := by
  refine check fun stopped => ?_
  unfold refuse at stopped
  split at stopped
  · next holds =>
    cases stopped
    exact other holds rfl
  · cases stopped

theorem require {found : Option α} {e : ε} (other : found = none → e ≠ error) :
    Spares error (require found e : Except (Abort σ ε) α) := by
  cases found with
  | some a => exact ok a
  | none =>
      rintro ⟨⟩
      exact other rfl rfl

end Spares

/-- What an operation leaves: its own result, nothing, or what it wrote before
an error. -/
theorem settle_cases {before after : σ} {program : Except (Abort σ ε) (α × σ)}
    {reply : Except ε α} (settled : settle before program = (reply, after)) :
    (∃ a, program = .ok (a, after) ∧ reply = .ok a) ∨
      (∃ error, program = .error (.rolledBack error) ∧ reply = .error error ∧ after = before) ∨
      ∃ error, program = .error (.committed error after) ∧ reply = .error error := by
  match program, settled with
  | .ok (a, _), rfl => exact .inl ⟨a, rfl, rfl⟩
  | .error (.rolledBack error), rfl => exact .inr (.inl ⟨error, rfl, rfl, rfl⟩)
  | .error (.committed error _), rfl => exact .inr (.inr ⟨error, rfl, rfl⟩)

/-- What an operation that writes nothing before it fails leaves. -/
theorem settle_atomic {before after : σ} {program : Except (Abort σ ε) (α × σ)}
    {reply : Except ε α} (atomic : Atomic program)
    (settled : settle before program = (reply, after)) :
    (∃ a, program = .ok (a, after) ∧ reply = .ok a) ∨
      ∃ error, reply = .error error ∧ after = before := by
  rcases settle_cases settled with done | ⟨error, _, failed, kept⟩ | ⟨error, stopped, _⟩
  · exact .inl done
  · exact .inr ⟨error, failed, kept⟩
  · exact absurd stopped (atomic error after)

/-- A loop of checks that wrote something stopped at one of them. -/
theorem forM_committed {check : α → Except (Abort σ ε) Unit} {items : List α} {error : ε}
    {after : σ} (stopped : items.forM check = .error (.committed error after)) :
    ∃ item ∈ items, check item = .error (.committed error after) := by
  induction items with
  | nil => cases stopped
  | cons item rest ih =>
      have split : (check item >>= fun _ => rest.forM check) = .error (.committed error after) :=
        stopped
      rcases bind_committed.mp split with here | ⟨_, _, later⟩
      · exact ⟨item, List.mem_cons_self, here⟩
      · obtain ⟨found, member, there⟩ := ih later
        exact ⟨found, List.mem_cons_of_mem item member, there⟩

end SlotsGame.Theory
