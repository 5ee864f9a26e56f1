/-
# SlotsGame.LocalOperator.Store -- the wallet ledger of the local operator

Accounts, applied operations, permanent rejections and rollbacks, each a table
of PostgreSQL with its keys and its unique constraints.  `Apply` and `Rollback`
are transactions: the advisory lock of the operation first, then the row lock of
the account, which is there to take only when the row is.

A rollback is stored under the operation it undoes: the schema makes both that
and its own identifier a key.
-/
import SlotsGame.LocalOperator.Protocol
import SlotsGame.Theory.Tables
import SlotsGame.Theory.Transactions

namespace SlotsGame.LocalOperator

open SlotsGame.Rgs SlotsGame.Theory

set_option autoImplicit false

/-! ## Tables -/

structure AccountKey where
  operatorID : String
  walletAccountID : String
  currency : String
  deriving DecidableEq

structure OperationKey where
  operatorID : String
  operationID : String
  deriving DecidableEq

structure WalletSession where
  operatorID : String
  walletSessionRef : String
  playerID : String
  walletAccountID : String
  sessionID : String
  gameID : String
  definitionVersion : String
  definitionHash : String
  currency : String
  deriving DecidableEq

structure StoredOperation where
  operationID : String
  fingerprint : String
  operatorID : String
  playerID : String
  walletAccountID : String
  walletSessionRef : String
  sessionID : String
  roundID : String
  gameID : String
  definitionVersion : String
  definitionHash : String
  roundKind : String
  currency : String
  debitMinor : Int
  creditMinor : Int
  commandDigest : String
  balanceMinor : Int
  transactionID : String
  requestDigest : String
  rolledBack : Bool := false
  deriving DecidableEq

inductive RejectionCode
  | insufficientFunds | walletSessionInvalid | accountNotFound
  deriving DecidableEq

/-- What a rejection keeps of its request: the digest a replay is told by, and why. -/
structure StoredRejection where
  request : ValidatedRound
  code : RejectionCode
  deriving DecidableEq

/-- A row of `local_operator_wallet_rollbacks`, beside its operator and operation. -/
structure StoredRollback where
  rollbackID : String
  requestDigest : String
  reason : String
  transactionID : String
  balanceMinor : Int
  deriving DecidableEq

def rejectionError : RejectionCode → WalletError
  | .insufficientFunds => .insufficientFunds
  | .walletSessionInvalid => .walletSessionInvalid
  | .accountNotFound => .accountNotFound

/-- `UNIQUE (operator_id, rollback_id)` -/
def RollbacksUnique (rollbacks : Table OperationKey StoredRollback) : Prop :=
  ∀ key other row third, rollbacks.lookup key = some row → rollbacks.lookup other = some third →
    key.operatorID = other.operatorID → row.rollbackID = third.rollbackID → key = other

structure WalletStore where
  accounts : Table AccountKey Int
  sessions : List WalletSession
  operations : Table OperationKey StoredOperation
  rejections : Table OperationKey StoredRejection
  rollbacks : Table OperationKey StoredRollback
  rollbacksUnique : RollbacksUnique rollbacks

/-! ## Reading -/

def RoundRequest.operation (request : RoundRequest) : OperationKey :=
  { operatorID := request.operatorID, operationID := request.operationID }

def RoundRequest.account (request : RoundRequest) : AccountKey :=
  { operatorID := request.operatorID, walletAccountID := request.walletAccountID
    currency := request.currency }

def RollbackRequest.operation (request : RollbackRequest) : OperationKey :=
  { operatorID := request.operatorID, operationID := request.operationID }

def StoredOperation.key (operation : StoredOperation) : OperationKey :=
  { operatorID := operation.operatorID, operationID := operation.operationID }

def StoredOperation.account (operation : StoredOperation) : AccountKey :=
  { operatorID := operation.operatorID, walletAccountID := operation.walletAccountID
    currency := operation.currency }

/-- The columns of the key are the key's. -/
def StoredOperation.at_ (operation : StoredOperation) (key : OperationKey) : StoredOperation :=
  { operation with operatorID := key.operatorID, operationID := key.operationID }

/-- The receipt of an operation that was undone is the rollback's. -/
def loadedOperation (operation : StoredOperation) (undone : Option StoredRollback) :
    StoredOperation :=
  match operation.rolledBack, undone with
  | true, some rollback =>
      { operation with
        balanceMinor := rollback.balanceMinor, transactionID := rollback.transactionID }
  | _, _ => operation

def WalletStore.loadOperation (store : WalletStore) (key : OperationKey) : Option StoredOperation :=
  (store.operations.lookup key).map fun operation =>
    loadedOperation (operation.at_ key) (store.rollbacks.lookup key)

def rollbackReceipt (operation : StoredOperation) (rollback : StoredRollback) : StoredOperation :=
  { operation with
    balanceMinor := rollback.balanceMinor, transactionID := rollback.transactionID
    requestDigest := rollback.requestDigest, rolledBack := true }

def WalletStore.loadRollback (store : WalletStore) (operatorID rollbackID : String) :
    Option StoredOperation := do
  let (key, rollback) ← store.rollbacks.rows.find? fun row =>
    row.1.operatorID = operatorID ∧ row.2.rollbackID = rollbackID
  let operation ← store.operations.lookup key
  return rollbackReceipt (operation.at_ key) rollback

/-- The immutable binding of the request to a registered wallet session. -/
def WalletStore.Bound (store : WalletStore) (request : RoundRequest) : Prop :=
  ∃ session ∈ store.sessions, session.operatorID = request.operatorID ∧
    session.walletSessionRef = request.walletSessionRef ∧ session.playerID = request.playerID ∧
    session.walletAccountID = request.walletAccountID ∧ session.sessionID = request.sessionID ∧
    session.gameID = request.gameID ∧ session.definitionVersion = request.definitionVersion ∧
    session.definitionHash = request.definitionHash ∧ session.currency = request.currency

instance (store : WalletStore) (request : RoundRequest) : Decidable (store.Bound request) :=
  inferInstanceAs (Decidable (∃ session ∈ store.sessions, _))

/-! ## Writing -/

def newStoredOperation (request : ValidatedRound) (transactionID : String) (balance : Int) :
    StoredOperation :=
  { operationID := request.request.operationID, fingerprint := request.request.fingerprint
    operatorID := request.request.operatorID, playerID := request.request.playerID
    walletAccountID := request.request.walletAccountID
    walletSessionRef := request.request.walletSessionRef, sessionID := request.request.sessionID
    roundID := request.request.roundID, gameID := request.request.gameID
    definitionVersion := request.request.definitionVersion
    definitionHash := request.request.definitionHash, roundKind := request.request.roundKind
    currency := request.request.currency, debitMinor := request.debit, creditMinor := request.credit
    commandDigest := request.request.commandDigest, balanceMinor := balance
    transactionID := transactionID, requestDigest := request.requestDigest }

/-- `UPDATE local_operator_accounts`: a row that is not there is not made. -/
def updateBalance (accounts : Table AccountKey Int) (key : AccountKey) (balance : Int) :
    Table AccountKey Int :=
  if (accounts.lookup key).isSome then accounts.insert key balance else accounts

/-- The new operation and the balance it leaves; its transaction is unique in the operator. -/
def WalletStore.insertOperation (operation : StoredOperation) (updatedBalance : Int)
    (store : WalletStore) : Option WalletStore :=
  if (store.operations.lookup operation.key).isSome ∨
      ∃ row ∈ store.operations.rows, row.1.operatorID = operation.operatorID ∧
        row.2.transactionID = operation.transactionID then none
  else some { store with
    operations := store.operations.insert operation.key operation
    accounts := updateBalance store.accounts operation.account updatedBalance }

def WalletStore.insertRejection (request : ValidatedRound) (code : RejectionCode)
    (store : WalletStore) : Option WalletStore :=
  if (store.rejections.lookup request.request.operation).isSome then none
  else some { store with
    rejections :=
      store.rejections.insert request.request.operation { request := request, code := code } }

/-- Another rollback has the identifier, or the transaction, in this operator. -/
def WalletStore.RollbackTaken (store : WalletStore) (operatorID rollbackID transactionID : String) :
    Prop :=
  ∃ row ∈ store.rollbacks.rows, row.1.operatorID = operatorID ∧
    (row.2.rollbackID = rollbackID ∨ row.2.transactionID = transactionID)

instance (store : WalletStore) (operatorID rollbackID transactionID : String) :
    Decidable (store.RollbackTaken operatorID rollbackID transactionID) :=
  inferInstanceAs (Decidable (∃ row ∈ store.rollbacks.rows, _))

theorem rollbacksUnique_insert {store : WalletStore} {key : OperationKey} {rollback : StoredRollback}
    (free : ¬ store.RollbackTaken key.operatorID rollback.rollbackID rollback.transactionID) :
    RollbacksUnique (store.rollbacks.insert key rollback) := by
  have untaken {other : OperationKey} {third : StoredRollback}
      (found : store.rollbacks.lookup other = some third)
      (sameOperator : other.operatorID = key.operatorID) :
      third.rollbackID ≠ rollback.rollbackID := by
    intro same
    exact free ⟨(other, third), Table.mem_rows.mpr found, sameOperator, .inl same⟩
  intro left right first second found found' operator same
  rw [Table.lookup_insert] at found found'
  split at found
  case isTrue here =>
    subst here
    obtain rfl := Option.some.inj found
    split at found'
    case isTrue there => exact there.symm
    case isFalse => exact absurd same.symm (untaken found' operator.symm)
  case isFalse =>
    split at found'
    case isTrue there =>
      subst there
      obtain rfl := Option.some.inj found'
      exact absurd same (untaken found operator)
    case isFalse => exact store.rollbacksUnique left right first second found found' operator same

/-- `SET rolled_back=true` -/
def markRolledBack (operations : Table OperationKey StoredOperation) (key : OperationKey) :
    Table OperationKey StoredOperation :=
  match operations.lookup key with
  | some row => operations.insert key { row with rolledBack := true }
  | none => operations

/-- The rollback, the balance it leaves, and the mark on the operation. -/
def WalletStore.insertRollback (operation : StoredOperation) (key : OperationKey)
    (rollback : StoredRollback) (store : WalletStore) : Option WalletStore :=
  if free : (store.rollbacks.lookup key).isSome ∨
      store.RollbackTaken key.operatorID rollback.rollbackID rollback.transactionID then none
  else some { store with
    rollbacks := store.rollbacks.insert key rollback
    accounts := updateBalance store.accounts operation.account rollback.balanceMinor
    operations := markRolledBack store.operations key
    rollbacksUnique := rollbacksUnique_insert fun taken => free (.inr taken) }

/-! ## The transactions -/

/-- What a wallet transaction locks; `sessions` and `accountRow` stand for what no
transaction writes: the registered sessions, and which accounts there are. -/
inductive WalletLock
  | operation (key : OperationKey)
  | account (key : AccountKey)
  | sessions
  | accountRow (key : AccountKey)
  deriving DecidableEq

abbrev WalletTransaction := Transaction WalletStore WalletLock WalletError StoredOperation

/-- `SELECT balance_minor … FOR UPDATE`: a row that is not there is not locked. -/
def lockAccount (key : AccountKey) (absent : WalletTransaction) (next : Int → WalletTransaction) :
    WalletTransaction :=
  .read fun store =>
    if (store.accounts.lookup key).isSome then
      .lock (.account key) <| .read fun store =>
        match store.accounts.lookup key with
        | some balance => next balance
        | none => absent
    else absent

def persistWalletRejection (request : ValidatedRound) (code : RejectionCode) : WalletTransaction :=
  .commit (WalletStore.insertRejection request code) (.error (rejectionError code))

/-- What an operation that is already there answers to `request`. -/
def replayOperation (existing : StoredOperation) (request : ValidatedRound) : WalletTransaction :=
  if existing.requestDigest ≠ request.requestDigest ∨ existing.rolledBack = true then
    .stop (.error .idempotencyConflict)
  else .stop (.ok existing)

/-- The part of `Apply` after the decision is its own. -/
def settleRound (digests : RequestDigests) (request : ValidatedRound) : WalletTransaction :=
  lockAccount request.request.account (persistWalletRejection request .accountNotFound) fun balance =>
    match checkedBalance balance request.debit request.credit with
    | .error .insufficientFunds => persistWalletRejection request .insufficientFunds
    | .error error => .stop (.error error)
    | .ok updatedBalance =>
        .read fun store =>
          match store.loadOperation request.request.operation with
          | some existing => replayOperation existing request
          | none =>
              let transactionID :=
                digests.deterministicTransactionID "wtx" request.request.operationID
              let operation := newStoredOperation request transactionID updatedBalance
              .commit (WalletStore.insertOperation operation updatedBalance) (.ok operation)

/-- `Apply` -/
def applyRound (digests : RequestDigests) (request : ValidatedRound) : WalletTransaction :=
  .lock (.operation request.request.operation) <| .read fun store =>
    match store.loadOperation request.request.operation with
    | some existing => replayOperation existing request
    | none => .read fun store =>
        match store.rejections.lookup request.request.operation with
        | some rejection =>
            if rejection.request.requestDigest ≠ request.requestDigest then
              .stop (.error .idempotencyConflict)
            else .stop (.error (rejectionError rejection.code))
        | none =>
            if request.request.walletSessionRef ≠ "" then
              .read fun store =>
                if store.Bound request.request then settleRound digests request
                else persistWalletRejection request .walletSessionInvalid
            else settleRound digests request

/-- The receipt of a rollback that is already there, for the request it was made with. -/
def replaysRollback (replay : StoredOperation) (request : ValidatedRollback) : Prop :=
  replay.requestDigest = request.requestDigest ∧ replay.operationID = request.request.operationID

instance (replay : StoredOperation) (request : ValidatedRollback) :
    Decidable (replaysRollback replay request) :=
  inferInstanceAs (Decidable (_ ∧ _))

/-- The part of `Rollback` that reverses `operation` against the present balance. -/
def reverseOperation (digests : RequestDigests) (request : ValidatedRollback)
    (operation : StoredOperation) : WalletTransaction :=
  lockAccount operation.account (.stop (.error .storage)) fun balance =>
    match checkedBalance balance operation.creditMinor operation.debitMinor with
    | .error error => .stop (.error (.reverse error))
    | .ok updatedBalance =>
        let rollback : StoredRollback :=
          { rollbackID := request.request.rollbackID, requestDigest := request.requestDigest
            reason := request.request.reason
            transactionID :=
              digests.deterministicTransactionID "wrb" request.request.rollbackID
            balanceMinor := updatedBalance }
        .commit (WalletStore.insertRollback operation request.request.operation rollback)
          (.ok (rollbackReceipt operation rollback))

/-- What a rollback that is already there answers, and what is said of one that is
another's. -/
def replayRollback (request : ValidatedRollback) (refused : WalletError)
    (replay : StoredOperation) : WalletTransaction :=
  if replaysRollback replay request then .stop (.ok replay) else .stop (.error refused)

/-- The part of `Rollback` after its identifier was not found. -/
def rollbackOperation (digests : RequestDigests) (request : ValidatedRollback) : WalletTransaction :=
  .read fun store =>
    match store.loadOperation request.request.operation with
    | none => .stop (.error .operationNotFound)
    | some operation =>
        if operation.rolledBack then
          .read fun store =>
            match store.loadRollback request.request.operatorID request.request.rollbackID with
            | some replay => replayRollback request .alreadyRolledBack replay
            | none => .stop (.error .alreadyRolledBack)
        else reverseOperation digests request operation

/-- `Rollback` -/
def rollbackRound (digests : RequestDigests) (request : ValidatedRollback) : WalletTransaction :=
  .lock (.operation request.request.operation) <| .read fun store =>
    match store.loadRollback request.request.operatorID request.request.rollbackID with
    | some replay => replayRollback request .idempotencyConflict replay
    | none => rollbackOperation digests request

inductive WalletCall
  | apply (request : ValidatedRound)
  | rollback (request : ValidatedRollback)
  deriving DecidableEq

def WalletCall.transaction (digests : RequestDigests) : WalletCall → WalletTransaction
  | apply request => applyRound digests request
  | rollback request => rollbackRound digests request

end SlotsGame.LocalOperator
