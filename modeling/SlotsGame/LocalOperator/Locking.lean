/-
# SlotsGame.LocalOperator.Locking -- the wallet's locks cover what it reads

The advisory lock of an operation protects its rows in three tables, the row lock
of an account its balance.  Only one read goes past them: a rollback looks for
its own identifier, which another operation may be about to take.  That call
then fails either way, at the latest on the unique constraint.
-/
import Mathlib.Data.Setoid.Basic
import SlotsGame.LocalOperator.Store

namespace SlotsGame.LocalOperator

open SlotsGame.Rgs SlotsGame.Theory

set_option autoImplicit false

variable {digests : RequestDigests} {store later : WalletStore}

def WalletLock.same : WalletLock → Setoid WalletStore
  | operation key => Setoid.ker fun store =>
      (store.operations.lookup key, store.rejections.lookup key, store.rollbacks.lookup key)
  | account key => Setoid.ker fun store => store.accounts.lookup key
  | sessions => Setoid.ker WalletStore.sessions
  | accountRow key => Setoid.ker fun store => (store.accounts.lookup key).isSome

/-- No transaction registers a session or opens an account. -/
def WalletLock.frozen : Set WalletLock
  | sessions | accountRow _ => True
  | operation _ | account _ => False

/-- Operations and rollbacks stay. -/
structure WalletStore.Extends (store later : WalletStore) : Prop where
  operations : ∀ key, (store.operations.lookup key).isSome → (later.operations.lookup key).isSome
  rollbacks : ∀ key row, store.rollbacks.lookup key = some row →
    later.rollbacks.lookup key = some row

def walletFootprint : Footprint WalletStore WalletLock where
  same := WalletLock.same
  frozen := WalletLock.frozen
  extends_ := WalletStore.Extends
  refl _ := { operations := fun _ there => there, rollbacks := fun _ _ there => there }
  trans first second :=
    { operations := fun key there => second.operations key (first.operations key there)
      rollbacks := fun key row there => second.rollbacks key row (first.rollbacks key row there) }

/-! ## Rollbacks by identifier -/

theorem loadRollback_eq_some {operatorID rollbackID : String} {replay : StoredOperation} :
    store.loadRollback operatorID rollbackID = some replay ↔
      ∃ key row operation, store.rollbacks.lookup key = some row ∧ key.operatorID = operatorID ∧
        row.rollbackID = rollbackID ∧ store.operations.lookup key = some operation ∧
        replay = rollbackReceipt (operation.at_ key) row := by
  have unique {key other : OperationKey} {row third : StoredRollback}
      (found : store.rollbacks.lookup key = some row)
      (there : store.rollbacks.lookup other = some third) (operator : key.operatorID = other.operatorID)
      (same : row.rollbackID = third.rollbackID) : key = other ∧ row = third := by
    obtain rfl := store.rollbacksUnique key other row third found there operator same
    exact ⟨rfl, Option.some.inj (found.symm.trans there)⟩
  constructor
  · intro loaded
    simp only [WalletStore.loadRollback, Option.bind_eq_bind, Option.bind_eq_some_iff,
      Option.pure_def, Option.some.injEq] at loaded
    obtain ⟨⟨key, row⟩, found, operation, there, rfl⟩ := loaded
    have matched := List.find?_some found
    rw [decide_eq_true_eq] at matched
    exact ⟨key, row, operation, Table.mem_rows.mp (List.mem_of_find?_eq_some found), matched.1,
      matched.2, there, rfl⟩
  · rintro ⟨key, row, operation, found, rfl, rfl, there, rfl⟩
    have matching : (store.rollbacks.rows.find? fun entry =>
        entry.1.operatorID = key.operatorID ∧ entry.2.rollbackID = row.rollbackID) =
          some (key, row) := by
      cases searched : store.rollbacks.rows.find? fun entry =>
          entry.1.operatorID = key.operatorID ∧ entry.2.rollbackID = row.rollbackID with
      | none =>
          have missed := List.find?_eq_none.mp searched (key, row) (Table.mem_rows.mpr found)
          exact absurd (decide_eq_true ⟨rfl, rfl⟩) missed
      | some entry =>
          have matched := List.find?_some searched
          rw [decide_eq_true_eq] at matched
          obtain ⟨rfl, rfl⟩ := unique found
            (Table.mem_rows.mp (List.mem_of_find?_eq_some searched)) matched.1.symm matched.2.symm
          rfl
    simp only [WalletStore.loadRollback, matching, Option.bind_eq_bind, Option.bind_some, there,
      Option.pure_def]

/-! ## Covered reads -/

section Covered

variable {locked : Set WalletLock} {races : Prop}

theorem agrees_operation {key : OperationKey} (held : .operation key ∈ locked)
    (agrees : walletFootprint.Agrees locked store later) :
    store.operations.lookup key = later.operations.lookup key ∧
      store.rejections.lookup key = later.rejections.lookup key ∧
      store.rollbacks.lookup key = later.rollbacks.lookup key := by
  have same : (store.operations.lookup key, store.rejections.lookup key, store.rollbacks.lookup key) =
      (later.operations.lookup key, later.rejections.lookup key, later.rollbacks.lookup key) :=
    agrees.same (.operation key) (.inr held)
  rwa [Prod.mk.injEq, Prod.mk.injEq] at same

theorem agrees_loadOperation {key : OperationKey} (held : .operation key ∈ locked)
    (agrees : walletFootprint.Agrees locked store later) :
    store.loadOperation key = later.loadOperation key := by
  obtain ⟨operations, _, rollbacks⟩ := agrees_operation held agrees
  rw [WalletStore.loadOperation, WalletStore.loadOperation, operations, rollbacks]

theorem agrees_bound (agrees : walletFootprint.Agrees locked store later) (request : RoundRequest) :
    store.Bound request ↔ later.Bound request := by
  have same : store.sessions = later.sessions := agrees.same .sessions (.inl trivial)
  rw [WalletStore.Bound, WalletStore.Bound, same]

abbrev WalletCovered (races : Prop) (locked : Set WalletLock) (program : WalletTransaction) : Prop :=
  program.Covered .storage walletFootprint races locked

theorem updateBalance_other {accounts : Table AccountKey Int} {key other : AccountKey} {balance : Int}
    (different : other ≠ key) :
    (updateBalance accounts key balance).lookup other = accounts.lookup other := by
  unfold updateBalance
  split
  · rw [Table.lookup_insert, if_neg different]
  · rfl

theorem updateBalance_isSome (accounts : Table AccountKey Int) (key other : AccountKey)
    (balance : Int) :
    ((updateBalance accounts key balance).lookup other).isSome = (accounts.lookup other).isSome := by
  by_cases same : other = key
  · subst same
    unfold updateBalance
    split
    case isTrue there => rw [Table.lookup_insert, if_pos rfl, there, Option.isSome_some]
    case isFalse => rfl
  · rw [updateBalance_other same]

theorem lookup_markRolledBack (operations : Table OperationKey StoredOperation)
    (key other : OperationKey) :
    (markRolledBack operations key).lookup other =
      if other = key then (operations.lookup key).map fun row => { row with rolledBack := true }
      else operations.lookup other := by
  unfold markRolledBack
  split
  case _ row found => rw [Table.lookup_insert, found, Option.map_some]
  case _ missing =>
    split
    case isTrue same => rw [same, missing, Option.map_none]
    case isFalse => rfl

theorem lockAccount_covered {key : AccountKey} {absent : WalletTransaction}
    {next : Int → WalletTransaction} (missing : ∀ more, locked ⊆ more → WalletCovered races more absent)
    (rest : ∀ balance, WalletCovered races (insert (.account key) locked) (next balance)) :
    WalletCovered races locked (lockAccount key absent next) := by
  refine .read ?_ ?_
  · intro first later agrees
    have same : (first.accounts.lookup key).isSome = (later.accounts.lookup key).isSome :=
      agrees.same (.accountRow key) (.inl trivial)
    rw [same]
    exact .inl rfl
  · intro store
    split
    · refine .lock (by exact id) (.read ?_ ?_)
      · intro first later agrees
        have same : first.accounts.lookup key = later.accounts.lookup key :=
          agrees.same (.account key) (.inr (Set.mem_insert _ _))
        rw [same]
        exact .inl rfl
      · intro store
        split
        · exact rest _
        · exact missing _ (Set.subset_insert _ _)
    · exact missing _ (Set.Subset.refl _)

theorem persistWalletRejection_covered {request : ValidatedRound} {code : RejectionCode}
    (held : .operation request.request.operation ∈ locked) :
    WalletCovered races locked (persistWalletRejection request code) := by
  refine .commit ?_
  intro store after written
  unfold WalletStore.insertRejection at written
  split at written
  · cases written
  · cases written
    refine ⟨⟨fun _ there => there, fun _ _ there => there⟩, ?_⟩
    intro key unlocked
    cases key with
    | operation key =>
        have different : key ≠ request.request.operation := by
          rintro rfl
          exact unlocked held
        show (store.operations.lookup key, store.rejections.lookup key, store.rollbacks.lookup key) =
          (store.operations.lookup key, (store.rejections.insert _ _).lookup key,
            store.rollbacks.lookup key)
        rw [Table.lookup_insert, if_neg different]
    | account | sessions | accountRow => rfl

theorem insertOperation_within {operation : StoredOperation} {updatedBalance : Int}
    (held : .operation operation.key ∈ locked)
    (account : .account operation.account ∈ locked)
    (written : store.insertOperation operation updatedBalance = some later) :
    store.Extends later ∧ ∀ key, key ∉ locked → key.same.r store later := by
  unfold WalletStore.insertOperation at written
  split at written
  · cases written
  case isFalse fresh =>
    rw [not_or, Option.not_isSome_iff_eq_none] at fresh
    cases written
    refine ⟨⟨?_, fun _ _ there => there⟩, ?_⟩
    · intro key there
      rw [Table.lookup_insert]
      split
      · rfl
      · exact there
    · intro key unlocked
      cases key with
      | operation key =>
          have different : key ≠ operation.key := by
            rintro rfl
            exact unlocked held
          show (store.operations.lookup key, store.rejections.lookup key, store.rollbacks.lookup key) =
            ((store.operations.insert _ _).lookup key, store.rejections.lookup key,
              store.rollbacks.lookup key)
          rw [Table.lookup_insert, if_neg different]
      | account key =>
          have different : key ≠ operation.account := by
            rintro rfl
            exact unlocked account
          exact (updateBalance_other different).symm
      | sessions => rfl
      | accountRow key => exact (updateBalance_isSome _ _ key _).symm

theorem insertRollback_within {operation : StoredOperation} {key : OperationKey}
    {rollback : StoredRollback} (held : .operation key ∈ locked)
    (account : .account operation.account ∈ locked)
    (written : store.insertRollback operation key rollback = some later) :
    store.Extends later ∧ ∀ key, key ∉ locked → key.same.r store later := by
  unfold WalletStore.insertRollback at written
  split at written
  · cases written
  case isFalse free =>
    rw [not_or, Option.not_isSome_iff_eq_none] at free
    cases written
    refine ⟨⟨?_, ?_⟩, ?_⟩
    · intro other there
      rw [lookup_markRolledBack]
      split
      case isTrue same =>
        subst same
        rwa [Option.isSome_map]
      case isFalse => exact there
    · intro other row there
      have different : other ≠ key := by
        rintro rfl
        rw [free.1] at there
        cases there
      rw [Table.lookup_insert, if_neg different]
      exact there
    · intro other unlocked
      cases other with
      | operation other =>
          have different : other ≠ key := by
            rintro rfl
            exact unlocked held
          show (store.operations.lookup other, store.rejections.lookup other,
            store.rollbacks.lookup other) = ((markRolledBack _ _).lookup other, _,
              (store.rollbacks.insert _ _).lookup other)
          rw [lookup_markRolledBack, if_neg different, Table.lookup_insert, if_neg different]
      | account other =>
          have different : other ≠ operation.account := by
            rintro rfl
            exact unlocked account
          exact (updateBalance_other different).symm
      | sessions => rfl
      | accountRow other => exact (updateBalance_isSome _ _ other _).symm

theorem replayOperation_covered (existing : StoredOperation) (request : ValidatedRound) :
    WalletCovered races locked (replayOperation existing request) := by
  unfold replayOperation
  split
  · exact .stop
  · exact .stop

theorem settleRound_covered {request : ValidatedRound}
    (held : .operation request.request.operation ∈ locked) :
    WalletCovered races locked (settleRound digests request) := by
  refine lockAccount_covered (fun more within => persistWalletRejection_covered (within held)) ?_
  intro balance
  split
  · exact persistWalletRejection_covered (Set.mem_insert_of_mem _ held)
  · exact .stop
  · refine .read ?_ ?_
    · intro first later agrees
      rw [agrees_loadOperation (Set.mem_insert_of_mem _ held) agrees]
      exact .inl rfl
    · intro store
      split
      · exact replayOperation_covered _ request
      · refine .commit ?_
        intro store after written
        refine insertOperation_within (Set.mem_insert_of_mem _ ?_) (Set.mem_insert _ _) written
        exact held

/-- `Apply` reads nothing past its locks. -/
theorem applyRound_covered (request : ValidatedRound) :
    WalletCovered races ∅ (applyRound digests request) := by
  have held : WalletLock.operation request.request.operation ∈
      (insert (.operation request.request.operation) ∅ : Set WalletLock) := Set.mem_insert _ _
  refine .lock (by exact id) (.read ?_ ?_)
  · intro first later agrees
    rw [agrees_loadOperation held agrees]
    exact .inl rfl
  · intro store
    split
    · exact replayOperation_covered _ request
    · refine .read ?_ ?_
      · intro first later agrees
        rw [(agrees_operation held agrees).2.1]
        exact .inl rfl
      · intro store
        split
        · split
          · exact .stop
          · exact .stop
        · split
          · refine .read ?_ ?_
            · intro first later agrees
              refine .inl ?_
              simp only [agrees_bound agrees request.request]
            · intro store
              split
              · exact settleRound_covered held
              · exact persistWalletRejection_covered held
          · exact settleRound_covered held

/-! ## Rollbacks race for their identifiers -/

/-- An identifier that is taken by another operation is of no use to this one. -/
theorem replay_of_other {request : ValidatedRollback}
    {key : OperationKey} {row : StoredRollback} {operation : StoredOperation}
    (sameOperator : key.operatorID = request.request.operatorID)
    (different : key ≠ request.request.operation) :
    ¬ replaysRollback (rollbackReceipt (operation.at_ key) row) request := by
  rintro ⟨_, same⟩
  refine different ?_
  obtain ⟨keyOperator, keyOperation⟩ := key
  exact congrArg₂ OperationKey.mk sameOperator same

/-- How the search for a rollback's identifier may change while its operation is locked. -/
inductive RollbackSeen (request : ValidatedRollback) :
    Option StoredOperation → Option StoredOperation → Prop
  | same (found : Option StoredOperation) : RollbackSeen request found found
  | other (first later : StoredOperation) (mine : ¬ replaysRollback first request)
      (theirs : ¬ replaysRollback later request) : RollbackSeen request (some first) (some later)
  | taken (later : StoredOperation) (theirs : ¬ replaysRollback later request) :
      RollbackSeen request none (some later)

theorem rollback_seen {request : ValidatedRollback} (rollbackID : String)
    (held : .operation request.request.operation ∈ locked)
    (agrees : walletFootprint.Agrees locked store later) :
    RollbackSeen request (store.loadRollback request.request.operatorID rollbackID)
      (later.loadRollback request.request.operatorID rollbackID) := by
  obtain ⟨operations, _, rollbacks⟩ := agrees_operation held agrees
  have grows : store.Extends later := agrees.extends_
  cases before : store.loadRollback request.request.operatorID rollbackID with
  | none =>
      cases after : later.loadRollback request.request.operatorID rollbackID with
      | none => exact .same none
      | some replay =>
          obtain ⟨key, row, operation, found, operator, named, there, rfl⟩ :=
            loadRollback_eq_some.mp after
          refine .taken _ (replay_of_other operator ?_)
          rintro rfl
          have seen := loadRollback_eq_some.mpr ⟨_, row, operation, rollbacks.trans found, operator,
            named, operations.trans there, rfl⟩
          rw [before] at seen
          cases seen
  | some replay =>
      obtain ⟨key, row, operation, found, operator, named, there, rfl⟩ :=
        loadRollback_eq_some.mp before
      obtain ⟨operation', there'⟩ :=
        Option.isSome_iff_exists.mp (grows.operations key (Option.isSome_of_mem there))
      rw [loadRollback_eq_some.mpr ⟨key, row, operation', grows.rollbacks key row found, operator, named,
        there', rfl⟩]
      by_cases same : key = request.request.operation
      · subst same
        obtain rfl : operation = operation' :=
          Option.some.inj (there.symm.trans (operations.trans there'))
        exact .same _
      · exact .other _ _ (replay_of_other operator same) (replay_of_other operator same)

/-- A rollback whose identifier is taken fails, whatever it read before. -/
theorem reverseOperation_fails {request : ValidatedRollback} {operation taken : StoredOperation}
    (loaded : store.loadRollback request.request.operatorID request.request.rollbackID =
      some taken) :
    (reverseOperation digests request operation).Fails .storage store := by
  obtain ⟨key, row, _, found, operator, named, _, _⟩ := loadRollback_eq_some.mp loaded
  unfold reverseOperation lockAccount Transaction.Fails
  simp only [Transaction.run]
  split
  · simp only [Transaction.run]
    split
    · split
      · exact ⟨_, rfl⟩
      · refine ⟨.storage, ?_⟩
        have refused (rollback : StoredRollback)
            (same : rollback.rollbackID = request.request.rollbackID) :
            store.insertRollback operation request.request.operation rollback = none :=
          dif_pos (.inr ⟨(key, row), Table.mem_rows.mpr found, operator, .inl (named.trans same.symm)⟩)
        simp only [Transaction.run, refused]
    · exact ⟨_, rfl⟩
  · exact ⟨_, rfl⟩

theorem replayRollback_other {request : ValidatedRollback} {refused : WalletError}
    {replay : StoredOperation} (other : ¬ replaysRollback replay request) :
    replayRollback request refused replay = .stop (.error refused) :=
  if_neg other

theorem replayRollback_covered (request : ValidatedRollback) (refused : WalletError)
    (replay : StoredOperation) : WalletCovered races locked (replayRollback request refused replay) := by
  unfold replayRollback
  split
  · exact .stop
  · exact .stop

theorem reverseOperation_covered {request : ValidatedRollback} {operation : StoredOperation}
    (held : .operation request.request.operation ∈ locked) :
    WalletCovered races locked (reverseOperation digests request operation) := by
  refine lockAccount_covered (fun _ _ => .stop) ?_
  intro balance
  split
  · exact .stop
  · refine .commit ?_
    intro store after written
    exact insertRollback_within (Set.mem_insert_of_mem _ held) (Set.mem_insert _ _) written

theorem rollbackOperation_fails {request : ValidatedRollback} {taken : StoredOperation}
    (loaded : store.loadRollback request.request.operatorID request.request.rollbackID = some taken)
    (other : ¬ replaysRollback taken request) :
    (rollbackOperation digests request).Fails .storage store := by
  unfold rollbackOperation Transaction.Fails
  simp only [Transaction.run]
  split
  · exact ⟨_, rfl⟩
  · split
    · simp only [Transaction.run, loaded, replayRollback_other other]
      exact ⟨_, rfl⟩
    · exact reverseOperation_fails loaded

/-- `Rollback` reads past its locks only what makes it fail. -/
theorem rollbackRound_covered (request : ValidatedRollback) :
    WalletCovered True ∅ (rollbackRound digests request) := by
  have held : WalletLock.operation request.request.operation ∈
      (insert (.operation request.request.operation) ∅ : Set WalletLock) := Set.mem_insert _ _
  refine .lock (by exact id) (.read ?_ ?_)
  · intro first later agrees
    have seen := rollback_seen request.request.rollbackID held agrees
    generalize before : first.loadRollback _ _ = found at seen ⊢
    generalize after : later.loadRollback _ _ = found' at seen ⊢
    cases seen with
    | same => exact .inl rfl
    | other _ _ mine theirs =>
        refine .inl ?_
        simp only [replayRollback_other mine, replayRollback_other theirs]
    | taken replay theirs =>
        refine .inr ⟨trivial, rollbackOperation_fails after theirs, ?_⟩
        simp only [replayRollback_other theirs]
        exact ⟨_, rfl⟩
  · intro store
    split
    · exact replayRollback_covered _ _ _
    · refine .read ?_ ?_
      · intro first later agrees
        rw [agrees_loadOperation held agrees]
        exact .inl rfl
      · intro store
        split
        · exact .stop
        · split
          · refine .read ?_ ?_
            · intro first later agrees
              have seen := rollback_seen request.request.rollbackID held agrees
              generalize first.loadRollback _ _ = found at seen ⊢
              generalize later.loadRollback _ _ = found' at seen ⊢
              cases seen with
              | same => exact .inl rfl
              | other _ _ mine theirs =>
                  refine .inl ?_
                  simp only [replayRollback_other mine, replayRollback_other theirs]
              | taken replay theirs =>
                  refine .inl ?_
                  simp only [replayRollback_other theirs]
            · intro store
              split
              · exact replayRollback_covered _ _ _
              · exact .stop
          · exact reverseOperation_covered held

end Covered

/-! ## Serial calls -/

/-- Only a rollback may lose a race. -/
def WalletCall.Races : WalletCall → Prop
  | apply _ => False
  | rollback _ => True

theorem WalletCall.covered (digests : RequestDigests) (call : WalletCall) :
    WalletCovered call.Races ∅ (call.transaction digests) := by
  cases call with
  | apply request => exact applyRound_covered request
  | rollback request => exact rollbackRound_covered request

end SlotsGame.LocalOperator
