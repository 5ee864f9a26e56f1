/-
# SlotsGame.LocalOperator.Ledger -- money is conserved by every history of calls

`WalletStep` is the list of everything a call may do, and `run_step` shows that a
call on its own does one of them.  The ledger invariant and the facts about
replays, conflicts and rejections are derived from that list.
-/
import SlotsGame.LocalOperator.Locking

namespace SlotsGame.LocalOperator

open SlotsGame.Rgs SlotsGame.Theory

set_option autoImplicit false

variable {digests : RequestDigests} {store after : WalletStore}
  {result : Except WalletError StoredOperation}

/-! ## What a call does -/

/-- Neither applied nor rejected yet. -/
structure WalletStore.Undecided (store : WalletStore) (key : OperationKey) : Prop where
  operation : store.operations.lookup key = none
  rejection : store.rejections.lookup key = none

def rejectedStore (store : WalletStore) (request : ValidatedRound) (code : RejectionCode) :
    WalletStore :=
  { store with
    rejections := store.rejections.insert request.request.operation { request := request, code := code } }

def appliedOperation (digests : RequestDigests) (request : ValidatedRound) (updatedBalance : Int) :
    StoredOperation :=
  newStoredOperation request
    (digests.deterministicTransactionID "wtx" request.request.operationID) updatedBalance

def madeRollback (digests : RequestDigests) (request : ValidatedRollback) (updatedBalance : Int) :
    StoredRollback :=
  { rollbackID := request.request.rollbackID, requestDigest := request.requestDigest
    reason := request.request.reason
    transactionID := digests.deterministicTransactionID "wrb" request.request.rollbackID
    balanceMinor := updatedBalance }

inductive WalletStep (digests : RequestDigests) (store : WalletStore) :
    WalletCall → Except WalletError StoredOperation → WalletStore → Prop
  | replayed (request : ValidatedRound) (existing : StoredOperation)
      (found : store.loadOperation request.request.operation = some existing)
      (same : existing.requestDigest = request.requestDigest)
      (standing : existing.rolledBack = false) :
      WalletStep digests store (.apply request) (.ok existing) store
  | applied (request : ValidatedRound) (balance updatedBalance : Int) (after : WalletStore)
      (undecided : store.Undecided request.request.operation)
      (account : store.accounts.lookup request.request.account = some balance)
      (settled : checkedBalance balance request.debit request.credit = .ok updatedBalance)
      (written : store.insertOperation (appliedOperation digests request updatedBalance)
        updatedBalance = some after) :
      WalletStep digests store (.apply request)
        (.ok (appliedOperation digests request updatedBalance)) after
  | rejected (request : ValidatedRound) (code : RejectionCode)
      (undecided : store.Undecided request.request.operation) :
      WalletStep digests store (.apply request) (.error (rejectionError code))
        (rejectedStore store request code)
  | undone (request : ValidatedRollback) (replay : StoredOperation)
      (found : store.loadRollback request.request.operatorID request.request.rollbackID =
        some replay) (replays : replaysRollback replay request) :
      WalletStep digests store (.rollback request) (.ok replay) store
  | reversed (request : ValidatedRollback) (operation : StoredOperation)
      (balance updatedBalance : Int) (after : WalletStore)
      (found : store.loadOperation request.request.operation = some operation)
      (standing : operation.rolledBack = false)
      (account : store.accounts.lookup operation.account = some balance)
      (settled : checkedBalance balance operation.creditMinor operation.debitMinor =
        .ok updatedBalance)
      (written : store.insertRollback operation request.request.operation
        (madeRollback digests request updatedBalance) = some after) :
      WalletStep digests store (.rollback request)
        (.ok (rollbackReceipt operation (madeRollback digests request updatedBalance))) after
  | refused (call : WalletCall) (error : WalletError) :
      WalletStep digests store call (.error error) store

theorem loadOperation_none {key : OperationKey} :
    store.loadOperation key = none ↔ store.operations.lookup key = none :=
  Option.map_eq_none_iff

theorem run_lockAccount {key : AccountKey} {absent : WalletTransaction}
    {next : Int → WalletTransaction} :
    (lockAccount key absent next).run .storage store =
      match store.accounts.lookup key with
      | some balance => (next balance).run .storage store
      | none => absent.run .storage store := by
  unfold lockAccount
  simp only [Transaction.run]
  cases found : store.accounts.lookup key with
  | none => simp
  | some balance => simp [Transaction.run, found]

theorem persistWalletRejection_step {request : ValidatedRound} {code : RejectionCode}
    (undecided : store.Undecided request.request.operation)
    (ran : (persistWalletRejection request code).run .storage store = (result, after)) :
    WalletStep digests store (.apply request) result after := by
  have written : store.insertRejection request code = some (rejectedStore store request code) :=
    if_neg (by simp [undecided.rejection])
  simp only [persistWalletRejection, Transaction.run, written] at ran
  cases ran
  exact .rejected request code undecided

theorem settleRound_step {request : ValidatedRound}
    (undecided : store.Undecided request.request.operation)
    (ran : (settleRound digests request).run .storage store = (result, after)) :
    WalletStep digests store (.apply request) result after := by
  rw [settleRound, run_lockAccount] at ran
  split at ran
  case h_2 => exact persistWalletRejection_step undecided ran
  case h_1 balance account =>
    split at ran
    · exact persistWalletRejection_step undecided ran
    · cases ran
      exact .refused _ _
    case h_3 updatedBalance settled =>
      simp only [Transaction.run, loadOperation_none.mpr undecided.operation] at ran
      split at ran
      case h_1 written =>
        cases ran
        exact .applied request balance updatedBalance _ undecided account settled written
      case h_2 =>
        cases ran
        exact .refused _ _

theorem applyRound_step {request : ValidatedRound}
    (ran : (applyRound digests request).run .storage store = (result, after)) :
    WalletStep digests store (.apply request) result after := by
  simp only [applyRound, Transaction.run] at ran
  cases found : store.loadOperation request.request.operation with
  | some existing =>
      simp only [found, replayOperation] at ran
      split at ran
      · cases ran
        exact .refused _ _
      case isFalse standing =>
        rw [not_or, not_not, Bool.not_eq_true] at standing
        cases ran
        exact .replayed request existing found standing.1 standing.2
  | none =>
      simp only [found, Transaction.run] at ran
      cases rejected : store.rejections.lookup request.request.operation with
      | some rejection =>
          simp only [rejected] at ran
          split at ran
          · cases ran
            exact .refused _ _
          · cases ran
            exact .refused _ _
      | none =>
          have undecided : store.Undecided request.request.operation :=
            ⟨loadOperation_none.mp found, rejected⟩
          simp only [rejected] at ran
          split at ran
          · simp only [Transaction.run] at ran
            split at ran
            · exact settleRound_step undecided ran
            · exact persistWalletRejection_step undecided ran
          · exact settleRound_step undecided ran

theorem reverseOperation_step {request : ValidatedRollback} {operation : StoredOperation}
    (found : store.loadOperation request.request.operation = some operation)
    (standing : operation.rolledBack = false)
    (ran : (reverseOperation digests request operation).run .storage store = (result, after)) :
    WalletStep digests store (.rollback request) result after := by
  rw [reverseOperation, run_lockAccount] at ran
  split at ran
  case h_2 =>
    cases ran
    exact .refused _ _
  case h_1 balance account =>
    split at ran
    · cases ran
      exact .refused _ _
    case h_2 updatedBalance settled =>
      simp only [Transaction.run] at ran
      split at ran
      case h_1 written =>
        cases ran
        exact .reversed request operation balance updatedBalance _ found standing account settled written
      case h_2 =>
        cases ran
        exact .refused _ _

theorem replayRollback_step {request : ValidatedRollback} {refused : WalletError}
    {replay : StoredOperation}
    (found : store.loadRollback request.request.operatorID request.request.rollbackID = some replay)
    (ran : (replayRollback request refused replay).run .storage store = (result, after)) :
    WalletStep digests store (.rollback request) result after := by
  unfold replayRollback at ran
  split at ran
  case isTrue replays =>
    cases ran
    exact .undone request replay found replays
  case isFalse =>
    cases ran
    exact .refused _ _

theorem rollbackRound_step {request : ValidatedRollback}
    (ran : (rollbackRound digests request).run .storage store = (result, after)) :
    WalletStep digests store (.rollback request) result after := by
  simp only [rollbackRound, Transaction.run] at ran
  split at ran
  case h_1 replay found => exact replayRollback_step found ran
  case h_2 =>
    simp only [rollbackOperation, Transaction.run] at ran
    split at ran
    · cases ran
      exact .refused _ _
    case h_2 operation found =>
      split at ran
      · simp only [Transaction.run] at ran
        split at ran
        case h_1 replay seen => exact replayRollback_step seen ran
        case h_2 =>
          cases ran
          exact .refused _ _
      case isFalse standing =>
        exact reverseOperation_step found (Bool.not_eq_true _ ▸ standing) ran

theorem run_step {call : WalletCall}
    (ran : (call.transaction digests).run .storage store = (result, after)) :
    WalletStep digests store call result after := by
  cases call with
  | apply request => exact applyRound_step ran
  | rollback request => exact rollbackRound_step ran

/-! ## The ledger invariant -/

/-- What an operation moved on an account, unless it was undone. -/
def StoredOperation.moved (account : AccountKey) (operation : StoredOperation) : Int :=
  if operation.account = account ∧ operation.rolledBack = false then
    operation.creditMinor - operation.debitMinor
  else 0

/-- The sum of credit minus debit over the operations that stand. -/
def WalletStore.settled (store : WalletStore) (account : AccountKey) : Int :=
  Table.total (fun _ operation => operation.moved account) store.operations

/-- A ledger in which nothing has happened: accounts and sessions only. -/
structure WalletStore.Opened (store : WalletStore) : Prop where
  operations : store.operations = ∅
  rejections : store.rejections = ∅
  rollbacks : store.rollbacks = ∅
  balances : ∀ key balance, store.accounts.lookup key = some balance →
    0 ≤ balance ∧ balance ≤ maxInt64

structure WalletStore.Ledger (start store : WalletStore) : Prop where
  balances : ∀ key balance, store.accounts.lookup key = some balance →
    ∃ initial, start.accounts.lookup key = some initial ∧ balance = initial + store.settled key ∧
      0 ≤ balance ∧ balance ≤ maxInt64
  decided : ∀ key, store.operations.lookup key = none ∨ store.rejections.lookup key = none
  named : ∀ key operation, store.operations.lookup key = some operation → operation.key = key
  undone : ∀ key operation, store.operations.lookup key = some operation →
    (operation.rolledBack = true ↔ (store.rollbacks.lookup key).isSome)
  rollbacks : ∀ key, (store.rollbacks.lookup key).isSome → (store.operations.lookup key).isSome

variable {start : WalletStore}

theorem ledger_opened (opened : start.Opened) : start.Ledger start := by
  refine
    { balances := ?balances, decided := ?decided, named := ?named, undone := ?undone
      rollbacks := ?rollbacks }
  case balances =>
    intro key balance found
    refine ⟨balance, found, ?_, opened.balances key balance found⟩
    rw [WalletStore.settled, opened.operations, Table.total_empty, Int.add_zero]
  case decided =>
    intro key
    rw [opened.operations]
    exact .inl rfl
  case named =>
    intro key operation found
    rw [opened.operations] at found
    cases found
  case undone =>
    intro key operation found
    rw [opened.operations] at found
    cases found
  case rollbacks =>
    intro key there
    rw [opened.rollbacks] at there
    cases there

theorem at_key {operation : StoredOperation} {key : OperationKey} (named : operation.key = key) :
    operation.at_ key = operation := by
  subst named
  rfl

/-- An operation that stands is loaded as it was stored. -/
theorem WalletStore.Ledger.loaded (ledger : start.Ledger store) {key : OperationKey}
    {operation : StoredOperation} (found : store.loadOperation key = some operation)
    (standing : operation.rolledBack = false) : store.operations.lookup key = some operation := by
  obtain ⟨row, there, rfl⟩ := Option.map_eq_some_iff.mp found
  rw [at_key (ledger.named key row there)] at standing ⊢
  cases mark : row.rolledBack with
  | false =>
      simp only [loadedOperation, mark]
      exact there
  | true =>
      have undone : (loadedOperation row (store.rollbacks.lookup key)).rolledBack = true := by
        unfold loadedOperation
        split
        · exact mark
        · exact mark
      rw [undone] at standing
      cases standing

theorem lookup_updateBalance {accounts : Table AccountKey Int} {key other : AccountKey}
    {balance updated : Int} (there : accounts.lookup key = some balance) :
    (updateBalance accounts key updated).lookup other =
      if other = key then some updated else accounts.lookup other := by
  rw [updateBalance, if_pos (Option.isSome_of_mem there), Table.lookup_insert]

/-- A change of the balance of one account by what its operations changed by. -/
theorem balances_updated (ledger : start.Ledger store) {account : AccountKey}
    {balance updated : Int} (there : store.accounts.lookup account = some balance)
    (accounts : after.accounts = updateBalance store.accounts account updated)
    (within : 0 ≤ updated ∧ updated ≤ maxInt64)
    (settled : ∀ key, after.settled key =
      store.settled key + if key = account then updated - balance else 0) :
    ∀ key balance, after.accounts.lookup key = some balance →
      ∃ initial, start.accounts.lookup key = some initial ∧ balance = initial + after.settled key ∧
        0 ≤ balance ∧ balance ≤ maxInt64 := by
  intro key balance' found
  rw [accounts, lookup_updateBalance there] at found
  split at found
  case isTrue same =>
    subst same
    obtain rfl := Option.some.inj found
    obtain ⟨initial, opened, sum, _⟩ := ledger.balances key balance there
    refine ⟨initial, opened, ?_, within⟩
    rw [settled, if_pos rfl]
    omega
  case isFalse different =>
    obtain ⟨initial, opened, sum, bounds⟩ := ledger.balances key balance' found
    refine ⟨initial, opened, ?_, bounds⟩
    rw [settled, if_neg different, Int.add_zero]
    exact sum

theorem ledger_applied (ledger : start.Ledger store) {request : ValidatedRound}
    {balance updatedBalance : Int} (undecided : store.Undecided request.request.operation)
    (account : store.accounts.lookup request.request.account = some balance)
    (settled : checkedBalance balance request.debit request.credit = .ok updatedBalance)
    (written : store.insertOperation (appliedOperation digests request updatedBalance)
      updatedBalance = some after) : start.Ledger after := by
  obtain ⟨moved, within⟩ := checkedBalance_ok settled
  set operation := appliedOperation digests request updatedBalance
  have key : operation.key = request.request.operation := rfl
  unfold WalletStore.insertOperation at written
  split at written
  · cases written
  cases written
  refine
    { balances := balances_updated ledger account rfl within ?balances, decided := ?decided
      named := ?named, undone := ?undone, rollbacks := ?rollbacks }
  case balances =>
    intro other
    simp only [WalletStore.settled, Table.total_insert, key, undecided.operation, Option.map_none,
      Option.getD_none, Int.sub_zero]
    have weight : operation.moved other =
        if other = request.request.account then updatedBalance - balance else 0 := by
      by_cases same : other = request.request.account
      · subst same
        rw [if_pos rfl, StoredOperation.moved, if_pos ⟨rfl, rfl⟩]
        show request.credit - request.debit = _
        omega
      · rw [if_neg same, StoredOperation.moved, if_neg]
        rintro ⟨same', _⟩
        exact same same'.symm
    rw [weight]
  case decided =>
    intro other
    by_cases same : other = operation.key
    · subst same
      exact .inr undecided.rejection
    · rw [Table.lookup_insert, if_neg same]
      exact ledger.decided other
  case named =>
    intro other row found
    rw [Table.lookup_insert] at found
    split at found
    case isTrue same =>
      cases found
      exact same.symm
    case isFalse => exact ledger.named other row found
  case undone =>
    intro other row found
    rw [Table.lookup_insert] at found
    split at found
    case isTrue same =>
      cases found
      have unrolled : store.rollbacks.lookup other = none := by
        by_contra there
        have stored := ledger.rollbacks other (Option.isSome_iff_ne_none.mpr there)
        rw [same, key, undecided.operation] at stored
        cases stored
      rw [unrolled]
      show (false = true ↔ false = true)
      exact Iff.rfl
    case isFalse => exact ledger.undone other row found
  case rollbacks =>
    intro other there
    rw [Table.lookup_insert]
    split
    · rfl
    · exact ledger.rollbacks other there

theorem ledger_rejected (ledger : start.Ledger store) {request : ValidatedRound}
    (code : RejectionCode) (undecided : store.Undecided request.request.operation) :
    start.Ledger (rejectedStore store request code) := by
  refine
    { balances := ledger.balances, decided := ?_, named := ledger.named, undone := ledger.undone
      rollbacks := ledger.rollbacks }
  intro key
  by_cases same : key = request.request.operation
  · subst same
    exact .inl undecided.operation
  · rw [rejectedStore, Table.lookup_insert, if_neg same]
    exact ledger.decided key

theorem ledger_reversed (ledger : start.Ledger store) {request : ValidatedRollback}
    {operation : StoredOperation} {rollback : StoredRollback} {balance : Int}
    (found : store.operations.lookup request.request.operation = some operation)
    (standing : operation.rolledBack = false)
    (account : store.accounts.lookup operation.account = some balance)
    (settled : checkedBalance balance operation.creditMinor operation.debitMinor =
      .ok rollback.balanceMinor)
    (written : store.insertRollback operation request.request.operation rollback = some after) :
    start.Ledger after := by
  obtain ⟨moved, within⟩ := checkedBalance_ok settled
  set key := request.request.operation
  have named := ledger.named key operation found
  unfold WalletStore.insertRollback at written
  split at written
  · cases written
  cases written
  refine
    { balances := balances_updated ledger account rfl within ?balances
      decided := ?decided, named := ?named, undone := ?undone, rollbacks := ?rollbacks }
  case balances =>
    intro other
    simp only [WalletStore.settled, markRolledBack, found, Table.total_insert, Option.map_some,
      Option.getD_some]
    have weight : operation.moved other =
        if other = operation.account then balance - rollback.balanceMinor else 0 := by
      by_cases same : other = operation.account
      · subst same
        rw [if_pos rfl, StoredOperation.moved, if_pos ⟨rfl, standing⟩]
        omega
      · rw [if_neg same, StoredOperation.moved, if_neg]
        rintro ⟨same', _⟩
        exact same same'.symm
    have unweighed : ({ operation with rolledBack := true } : StoredOperation).moved other = 0 := by
      rw [StoredOperation.moved, if_neg]
      rintro ⟨_, mark⟩
      cases mark
    rw [weight, unweighed]
    split <;> omega
  case decided =>
    intro other
    rcases ledger.decided other with absent | absent
    · refine .inl ?_
      rw [lookup_markRolledBack, if_neg]
      · exact absent
      · rintro rfl
        rw [found] at absent
        cases absent
    · exact .inr absent
  case named =>
    intro other row there
    rw [lookup_markRolledBack, found, Option.map_some] at there
    split at there
    case isTrue same =>
      subst same
      cases there
      exact named
    case isFalse => exact ledger.named other row there
  case undone =>
    intro other row there
    rw [lookup_markRolledBack, found, Option.map_some] at there
    split at there
    case isTrue same =>
      subst same
      cases there
      simp only [Table.lookup_insert, if_true, Option.isSome_some]
    case isFalse different =>
      rw [Table.lookup_insert, if_neg different]
      exact ledger.undone other row there
  case rollbacks =>
    intro other there
    rw [lookup_markRolledBack, found, Option.map_some]
    split
    · rfl
    case isFalse different =>
      rw [Table.lookup_insert, if_neg different] at there
      exact ledger.rollbacks other there

/-- Every call keeps the ledger. -/
theorem WalletStep.ledger {call : WalletCall} (step : WalletStep digests store call result after)
    (ledger : start.Ledger store) : start.Ledger after := by
  cases step with
  | replayed | undone | refused => exact ledger
  | applied request balance updatedBalance _ undecided account settled written =>
      exact ledger_applied ledger undecided account settled written
  | rejected request code undecided => exact ledger_rejected ledger code undecided
  | reversed request operation balance updatedBalance _ found standing account settled written =>
      exact ledger_reversed ledger (ledger.loaded found standing) standing account settled written

/-- Every effect of a call keeps what its steps keep. -/
theorem effect_keeps {call : WalletCall} (holds : WalletStore → Prop)
    (kept : ∀ result after, WalletStep digests store call result after → holds after)
    (effect : (call.transaction digests).Effect .storage call.Races store result after) :
    holds after := by
  cases effect with
  | ran _ _ runs => exact kept _ _ (run_step runs)
  | raced error => exact kept _ _ (.refused call error)
  | failed => exact kept _ _ (.refused call .storage)
  | lost _ _ runs => exact kept _ _ (run_step runs)

/-- What came of the calls, one after another. -/
abbrev WalletHistory (digests : RequestDigests) (start : WalletStore) :
    List (Completion WalletStore WalletError StoredOperation WalletCall) → WalletStore → Prop :=
  History (fun call => (call.transaction digests).Effect .storage call.Races) start

theorem WalletHistory.ledger {log : List (Completion WalletStore WalletError StoredOperation WalletCall)}
    (history : WalletHistory digests start log store) (opened : start.Opened) :
    start.Ledger store := by
  refine history.invariant (start.Ledger) (ledger_opened opened) ?_
  intro call before result after effect ledger
  exact effect_keeps _ (fun _ _ step => step.ledger ledger) effect

end SlotsGame.LocalOperator
