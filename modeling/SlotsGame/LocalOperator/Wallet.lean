/-
# SlotsGame.LocalOperator.Wallet -- what every run of the wallet keeps

Facts of the ledger that no later call undoes: a receipt that was given, a
rollback that was made, a rejection.  From them, what a replay, a conflicting
request and a failing call come to, in any interleaving of any number of calls.
-/
import SlotsGame.LocalOperator.Ledger

namespace SlotsGame.LocalOperator

open SlotsGame.Rgs SlotsGame.Theory

set_option autoImplicit false

variable {digests : RequestDigests} {start store after : WalletStore} {call : WalletCall}
  {result : Except WalletError StoredOperation}

/-! ## What stays -/

/-- The operation was applied with `receipt`, and may have been undone since. -/
def WalletStore.Applied (store : WalletStore) (key : OperationKey) (receipt : StoredOperation) :
    Prop :=
  store.operations.lookup key = some receipt ∨
    store.operations.lookup key = some { receipt with rolledBack := true }

/-- The operation was undone, under this identifier and with this receipt. -/
def WalletStore.Undone (store : WalletStore) (key : OperationKey) (rollbackID : String)
    (receipt : StoredOperation) : Prop :=
  ∃ row operation, store.rollbacks.lookup key = some row ∧ row.rollbackID = rollbackID ∧
    store.operations.lookup key = some operation ∧
    receipt = rollbackReceipt (operation.at_ key) row

/-- How a call may change the row of an operation. -/
theorem WalletStep.operation_kept (step : WalletStep digests store call result after)
    {key : OperationKey} {row : StoredOperation} (found : store.operations.lookup key = some row) :
    after.operations.lookup key = some row ∨
      (after.operations.lookup key = some { row with rolledBack := true } ∧
        store.rollbacks.lookup key = none) := by
  cases step with
  | replayed | undone | refused | rejected => exact .inl found
  | applied request balance updatedBalance _ undecided account settled written =>
      unfold WalletStore.insertOperation at written
      split at written
      · cases written
      cases written
      refine .inl ?_
      rw [Table.lookup_insert, if_neg]
      · exact found
      · rintro rfl
        have absent : store.operations.lookup request.request.operation = none := undecided.operation
        rw [show (appliedOperation digests request updatedBalance).key = request.request.operation
          from rfl, absent] at found
        cases found
  | reversed request operation balance updatedBalance _ _ standing account settled written =>
      unfold WalletStore.insertRollback at written
      split at written
      · cases written
      case isFalse free =>
        rw [not_or, Option.not_isSome_iff_eq_none] at free
        cases written
        rw [lookup_markRolledBack]
        split
        case isTrue same =>
          subst same
          rw [found]
          exact .inr ⟨rfl, free.1⟩
        case isFalse => exact .inl found

theorem WalletStep.rollback_kept (step : WalletStep digests store call result after)
    {key : OperationKey} {row : StoredRollback} (found : store.rollbacks.lookup key = some row) :
    after.rollbacks.lookup key = some row := by
  cases step with
  | replayed | undone | refused | rejected => exact found
  | applied request balance updatedBalance _ undecided account settled written =>
      unfold WalletStore.insertOperation at written
      split at written
      · cases written
      cases written
      exact found
  | reversed request operation balance updatedBalance _ _ standing account settled written =>
      unfold WalletStore.insertRollback at written
      split at written
      · cases written
      case isFalse free =>
        rw [not_or, Option.not_isSome_iff_eq_none] at free
        cases written
        rw [Table.lookup_insert, if_neg]
        · exact found
        · rintro rfl
          rw [free.1] at found
          cases found

theorem WalletStep.applied_kept (step : WalletStep digests store call result after)
    {key : OperationKey} {receipt : StoredOperation} (applied : store.Applied key receipt) :
    after.Applied key receipt := by
  rcases applied with found | found
  · rcases step.operation_kept found with kept | ⟨marked, _⟩
    · exact .inl kept
    · exact .inr marked
  · rcases step.operation_kept found with kept | ⟨marked, _⟩
    · exact .inr kept
    · exact .inr marked

theorem WalletStep.undone_kept (step : WalletStep digests store call result after)
    {key : OperationKey} {rollbackID : String} {receipt : StoredOperation}
    (undone : store.Undone key rollbackID receipt) : after.Undone key rollbackID receipt := by
  obtain ⟨row, operation, found, named, there, rfl⟩ := undone
  refine ⟨row, operation, step.rollback_kept found, named, ?_, rfl⟩
  rcases step.operation_kept there with kept | ⟨_, unmade⟩
  · exact kept
  · rw [found] at unmade
    cases unmade

theorem WalletStep.rejection_kept (step : WalletStep digests store call result after)
    {key : OperationKey} {rejection : StoredRejection}
    (found : store.rejections.lookup key = some rejection) :
    after.rejections.lookup key = some rejection := by
  cases step with
  | replayed | undone | refused => exact found
  | rejected request code undecided =>
      rw [rejectedStore, Table.lookup_insert, if_neg]
      · exact found
      · rintro rfl
        rw [undecided.rejection] at found
        cases found
  | applied request balance updatedBalance _ undecided account settled written =>
      unfold WalletStore.insertOperation at written
      split at written
      · cases written
      cases written
      exact found
  | reversed request operation balance updatedBalance _ _ standing account settled written =>
      unfold WalletStore.insertRollback at written
      split at written
      · cases written
      cases written
      exact found

/-! ## What a successful call establishes -/

theorem WalletStep.applied_ok (ledger : start.Ledger store) {request : ValidatedRound}
    {receipt : StoredOperation}
    (step : WalletStep digests store (.apply request) (.ok receipt) after) :
    after.Applied request.request.operation receipt ∧
      receipt.requestDigest = request.requestDigest ∧ receipt.rolledBack = false := by
  cases step with
  | replayed _ _ found same standing =>
      exact ⟨.inl (ledger.loaded found standing), same, standing⟩
  | applied _ balance updatedBalance _ undecided account settled written =>
      refine ⟨.inl ?_, rfl, rfl⟩
      unfold WalletStore.insertOperation at written
      split at written
      · cases written
      cases written
      exact (Table.lookup_insert _ _ _ _).trans (if_pos rfl)

theorem WalletStep.undone_ok (ledger : start.Ledger store) {request : ValidatedRollback}
    {receipt : StoredOperation}
    (step : WalletStep digests store (.rollback request) (.ok receipt) after) :
    after.Undone request.request.operation request.request.rollbackID receipt ∧
      replaysRollback receipt request := by
  cases step with
  | undone _ _ found replays =>
      obtain ⟨key, row, operation, there, operator, named, stored, rfl⟩ :=
        loadRollback_eq_some.mp found
      have same : key = request.request.operation := by
        by_contra different
        exact replay_of_other operator different replays
      subst same
      exact ⟨⟨row, operation, there, named, stored, rfl⟩, replays⟩
  | reversed _ operation balance updatedBalance _ found standing account settled written =>
      have stored := ledger.loaded found standing
      have named := ledger.named _ _ stored
      unfold WalletStore.insertRollback at written
      split at written
      · cases written
      cases written
      refine ⟨⟨madeRollback digests request updatedBalance, { operation with rolledBack := true },
        (Table.lookup_insert _ _ _ _).trans (if_pos rfl), rfl, ?_, ?_⟩, rfl, ?_⟩
      · rw [lookup_markRolledBack, if_pos rfl, stored, Option.map_some]
      · rw [at_key (show ({ operation with rolledBack := true } : StoredOperation).key = _ from named)]
        rfl
      · exact congrArg OperationKey.operationID named

/-! ## What a later call answers -/

/-- The only answers of a call whose own run is known and does not lose a race. -/
theorem effect_of_run {answer : Except WalletError StoredOperation}
    (effect : (call.transaction digests).Effect .storage call.Races store result after)
    (runs : (call.transaction digests).run .storage store = (answer, store))
    (quiet : ¬ call.Races ∨ ∃ receipt, answer = .ok receipt) :
    (result = answer ∨ result = .error .storage) ∧ after = store := by
  cases effect with
  | ran _ _ ran =>
      obtain ⟨rfl, rfl⟩ := Prod.mk.inj (ran.symm.trans runs)
      exact ⟨.inl rfl, rfl⟩
  | raced error race fails =>
      obtain ⟨_, fails⟩ := fails
      rcases quiet with calm | ⟨receipt, rfl⟩
      · exact absurd race calm
      · rw [runs] at fails
        cases fails
  | failed => exact ⟨.inr rfl, rfl⟩
  | lost _ _ ran =>
      obtain ⟨rfl, rfl⟩ := Prod.mk.inj (ran.symm.trans runs)
      exact ⟨.inr rfl, rfl⟩

theorem run_applied (ledger : start.Ledger store) {request : ValidatedRound}
    {receipt : StoredOperation} (applied : store.Applied request.request.operation receipt)
    (standing : receipt.rolledBack = false) :
    (applyRound digests request).run .storage store =
      if receipt.requestDigest = request.requestDigest ∧
          store.operations.lookup request.request.operation = some receipt then (.ok receipt, store)
      else (.error .idempotencyConflict, store) := by
  have replay (existing : StoredOperation)
      (loaded : store.loadOperation request.request.operation = some existing) :
      (applyRound digests request).run .storage store =
        (replayOperation existing request).run .storage store := by
    simp only [applyRound, Transaction.run, loaded]
  rcases applied with found | found
  · have loaded : store.loadOperation request.request.operation = some receipt := by
      rw [WalletStore.loadOperation, found, Option.map_some, at_key (ledger.named _ _ found)]
      simp only [loadedOperation, standing]
    rw [replay receipt loaded, replayOperation]
    by_cases same : receipt.requestDigest = request.requestDigest
    · rw [if_neg (by simp [same, standing]), if_pos ⟨same, found⟩]
      rfl
    · rw [if_pos (.inl same), if_neg fun both => same both.1]
      rfl
  · obtain ⟨existing, loaded⟩ : ∃ existing,
        store.loadOperation request.request.operation = some existing ∧ existing.rolledBack = true := by
      rw [WalletStore.loadOperation, found, Option.map_some]
      refine ⟨_, rfl, ?_⟩
      unfold loadedOperation
      split <;> rfl
    have changed : store.operations.lookup request.request.operation ≠ some receipt := by
      rw [found]
      intro same
      have mark := congrArg StoredOperation.rolledBack (Option.some.inj same)
      rw [standing] at mark
      cases mark
    rw [replay existing loaded.1, replayOperation, if_pos (.inr loaded.2),
      if_neg fun both => changed both.2]
    rfl

theorem run_undone {request : ValidatedRollback} {receipt : StoredOperation}
    (undone : store.Undone request.request.operation request.request.rollbackID receipt) :
    (rollbackRound digests request).run .storage store =
      if replaysRollback receipt request then (.ok receipt, store)
      else (.error .idempotencyConflict, store) := by
  obtain ⟨row, operation, found, named, there, rfl⟩ := undone
  have loaded : store.loadRollback request.request.operatorID request.request.rollbackID =
      some (rollbackReceipt (operation.at_ request.request.operation) row) :=
    loadRollback_eq_some.mpr ⟨_, row, operation, found, rfl, named, there, rfl⟩
  simp only [rollbackRound, Transaction.run, loaded, replayRollback]
  split <;> rfl

theorem run_rejected {request : ValidatedRound} {rejection : StoredRejection}
    (undone : store.operations.lookup request.request.operation = none)
    (rejected : store.rejections.lookup request.request.operation = some rejection) :
    (applyRound digests request).run .storage store =
      if rejection.request.requestDigest = request.requestDigest then
        (.error (rejectionError rejection.code), store)
      else (.error .idempotencyConflict, store) := by
  simp only [applyRound, Transaction.run, loadOperation_none.mpr undone, rejected, ne_eq, ite_not]
  split <;> rfl

/-! ## Every run -/

abbrev WalletEntry := Completion WalletStore WalletError StoredOperation WalletCall

abbrev WalletSystem (ι : Type) :=
  System WalletStore WalletLock WalletError StoredOperation WalletCall ι

/-- The answer of a call on one operation that changes nothing; the store itself may
always fail. -/
def WalletEntry.Answers (entry : WalletEntry) (answer : Except WalletError StoredOperation) : Prop :=
  (entry.result = answer ∨ entry.result = .error .storage) ∧ entry.after = entry.before

/-- What may be left behind by a call that returns an error: nothing, its rejection,
or what a commit wrote whose answer was lost. -/
inductive WalletEntry.Leaves (digests : RequestDigests) (entry : WalletEntry) :
    WalletError → Prop
  | nothing (error : WalletError) (same : entry.after = entry.before) : Leaves digests entry error
  | rejection (request : ValidatedRound) (code : RejectionCode) (call : entry.call = .apply request)
      (recorded : entry.after = rejectedStore entry.before request code) :
      Leaves digests entry (rejectionError code)
  | lost (reply : Except WalletError StoredOperation)
      (committed : (entry.call.transaction digests).run .storage entry.before =
        (reply, entry.after)) :
      Leaves digests entry .storage

structure WalletSound (digests : RequestDigests) (start : WalletStore) (log : List WalletEntry)
    (store : WalletStore) : Prop where
  balance : ∀ key balance, store.accounts.lookup key = some balance →
    ∃ initial, start.accounts.lookup key = some initial ∧ balance = initial + store.settled key ∧
      0 ≤ balance ∧ balance ≤ maxInt64
  decided : ∀ key, store.operations.lookup key = none ∨ store.rejections.lookup key = none
  undone : ∀ key operation, store.operations.lookup key = some operation →
    (operation.rolledBack = true ↔ (store.rollbacks.lookup key).isSome)
  once : ∀ first later request request' receipt receipt', first ∈ log → later ∈ log →
    first.call = .rollback request → later.call = .rollback request' → first.result = .ok receipt →
    later.result = .ok receipt' → request.request.operation = request'.request.operation →
    request.request.rollbackID = request'.request.rollbackID ∧ receipt = receipt'
  replayedRound : ∀ left middle right first later request receipt,
    log = left ++ first :: (middle ++ later :: right) → first.call = .apply request →
    later.call = .apply request → first.result = .ok receipt →
    later.Answers (if later.before.operations.lookup request.request.operation = some receipt
      then .ok receipt else .error .idempotencyConflict)
  standing : ∀ left middle right first later request receipt,
    log = left ++ first :: (middle ++ later :: right) → first.call = .apply request →
    first.result = .ok receipt →
    later.before.operations.lookup request.request.operation ≠ some receipt →
    (later.before.rollbacks.lookup request.request.operation).isSome
  replayedRollback : ∀ left middle right first later request receipt,
    log = left ++ first :: (middle ++ later :: right) → first.call = .rollback request →
    later.call = .rollback request → first.result = .ok receipt → later.Answers (.ok receipt)
  conflict : ∀ entry ∈ log, ∀ request, entry.call = .apply request →
    (∀ existing, entry.before.operations.lookup request.request.operation = some existing →
      existing.requestDigest ≠ request.requestDigest →
      entry.Answers (.error .idempotencyConflict)) ∧
    ∀ rejection, entry.before.rejections.lookup request.request.operation = some rejection →
      rejection.request.requestDigest ≠ request.requestDigest →
      entry.Answers (.error .idempotencyConflict)
  rejected : ∀ entry ∈ log, ∀ key rejection,
    entry.before.rejections.lookup key = some rejection →
    entry.after.rejections.lookup key = some rejection ∧
      ∀ request, entry.call = .apply request → request.request.operation = key →
        rejection.request.requestDigest = request.requestDigest →
        entry.Answers (.error (rejectionError rejection.code))
  failed : ∀ entry ∈ log, ∀ error, entry.result = .error error → entry.Leaves digests error

section Runs

variable {log : List WalletEntry}

/-- What every step keeps, a stretch of a history keeps. -/
theorem history_keeps (holds : WalletStore → Prop)
    (kept : ∀ call store result after, holds store → WalletStep digests store call result after →
      holds after)
    (history : WalletHistory digests start log store) (initial : holds start) : holds store := by
  refine history.invariant holds initial ?_
  intro call before result after effect held
  exact effect_keeps holds (fun result after step => kept call before result after held step) effect

theorem effect_ok {receipt : StoredOperation}
    (effect : (call.transaction digests).Effect .storage call.Races store (.ok receipt) after) :
    WalletStep digests store call (.ok receipt) after := by
  cases effect with
  | ran _ _ runs => exact run_step runs

theorem effect_leaves {entry : WalletEntry} {error : WalletError}
    (effect : (entry.call.transaction digests).Effect .storage entry.call.Races entry.before
      (.error error) entry.after) : entry.Leaves digests error := by
  generalize failed : (Except.error error : Except WalletError StoredOperation) = result at effect
  generalize left : entry.after = after at effect
  cases effect with
  | ran _ _ runs =>
      subst failed
      have step := run_step runs
      generalize called : entry.call = call at step
      cases step with
      | rejected request code => exact .rejection request code called left
      | refused => exact .nothing error left
  | raced => exact .nothing error left
  | failed => exact .nothing error left
  | lost former _ runs =>
      cases failed
      subst left
      exact .lost former runs

/-- One call of a history, with the ledger it found and what its success left for good. -/
structure Seen (digests : RequestDigests) (start : WalletStore) (entry : WalletEntry)
    (right : List WalletEntry) (store : WalletStore) : Prop where
  ledger : start.Ledger entry.before
  effect : (entry.call.transaction digests).Effect .storage entry.call.Races entry.before
    entry.result entry.after
  rest : WalletHistory digests entry.after right store

theorem seen_at {left right : List WalletEntry} {entry : WalletEntry} (opened : start.Opened)
    (history : WalletHistory digests start (left ++ entry :: right) store) :
    Seen digests start entry right store := by
  obtain ⟨before, effect, rest⟩ := history.entry
  exact ⟨WalletHistory.ledger before opened, effect, rest⟩

theorem Seen.receipt {entry : WalletEntry} {right : List WalletEntry}
    (seen : Seen digests start entry right store) {request : ValidatedRound}
    {receipt : StoredOperation} (call : entry.call = .apply request)
    (ok : entry.result = .ok receipt) :
    store.Applied request.request.operation receipt ∧
      receipt.requestDigest = request.requestDigest ∧ receipt.rolledBack = false := by
  have effect := seen.effect
  rw [call, ok] at effect
  obtain ⟨applied, facts⟩ := (effect_ok effect).applied_ok seen.ledger
  refine ⟨history_keeps (·.Applied request.request.operation receipt) ?_ seen.rest applied, facts⟩
  intro call before result after held step
  exact step.applied_kept held

theorem Seen.rollback {entry : WalletEntry} {right : List WalletEntry}
    (seen : Seen digests start entry right store) {request : ValidatedRollback}
    {receipt : StoredOperation} (call : entry.call = .rollback request)
    (ok : entry.result = .ok receipt) :
    store.Undone request.request.operation request.request.rollbackID receipt ∧
      replaysRollback receipt request := by
  have effect := seen.effect
  rw [call, ok] at effect
  obtain ⟨undone, replays⟩ := (effect_ok effect).undone_ok seen.ledger
  refine ⟨history_keeps
    (·.Undone request.request.operation request.request.rollbackID receipt) ?_ seen.rest undone, replays⟩
  intro call before result after held step
  exact step.undone_kept held

/-- The answer of a round whose own run is known. -/
theorem Seen.answers_round {entry : WalletEntry} {right : List WalletEntry}
    (seen : Seen digests start entry right store) {request : ValidatedRound}
    {answer : Except WalletError StoredOperation} (call : entry.call = .apply request)
    (runs : (applyRound digests request).run .storage entry.before = (answer, entry.before)) :
    entry.Answers answer := by
  have effect := seen.effect
  rw [call] at effect
  exact effect_of_run effect runs (.inl id)

theorem sound_of_history (opened : start.Opened) (history : WalletHistory digests start log store) :
    WalletSound digests start log store := by
  have ledger := WalletHistory.ledger history opened
  have find {entry : WalletEntry} (member : entry ∈ log) :
      ∃ right, Seen digests start entry right store := by
    obtain ⟨left, right, rfl⟩ := List.append_of_mem member
    exact ⟨right, seen_at opened history⟩
  -- a call, a later one, and the store in between
  have pair {left middle right : List WalletEntry} {first later : WalletEntry}
      (whole : log = left ++ first :: (middle ++ later :: right)) :
      Seen digests start first middle later.before ∧ Seen digests start later right store := by
    subst whole
    obtain ⟨before, effect, rest⟩ := history.entry
    refine ⟨⟨WalletHistory.ledger before opened, effect, rest.entry.1⟩, ?_⟩
    rw [← List.cons_append, ← List.append_assoc] at history
    exact seen_at opened history
  refine
    { balance := ledger.balances, decided := ledger.decided, undone := ledger.undone, once := ?once
      replayedRound := ?replayedRound, standing := ?standing, replayedRollback := ?replayedRollback
      conflict := ?conflict, rejected := ?rejected, failed := ?failed }
  case once =>
    intro first later request request' receipt receipt' member member' call call' ok ok' same
    obtain ⟨_, seen⟩ := find member
    obtain ⟨_, seen'⟩ := find member'
    obtain ⟨⟨row, operation, found, named, there, rfl⟩, _⟩ := seen.rollback call ok
    obtain ⟨⟨row', operation', found', named', there', rfl⟩, _⟩ := seen'.rollback call' ok'
    rw [same] at found there ⊢
    obtain rfl : row = row' := Option.some.inj (found.symm.trans found')
    obtain rfl : operation = operation' := Option.some.inj (there.symm.trans there')
    exact ⟨named.symm.trans named', rfl⟩
  case replayedRound =>
    intro left middle right first later request receipt whole call call' ok
    obtain ⟨seen, seen'⟩ := pair whole
    obtain ⟨applied, digest, standing⟩ := seen.receipt call ok
    refine seen'.answers_round call' ?_
    rw [run_applied seen'.ledger applied standing]
    by_cases found : later.before.operations.lookup request.request.operation = some receipt
    · rw [if_pos ⟨digest, found⟩, if_pos found]
    · rw [if_neg fun both => found both.2, if_neg found]
  case standing =>
    intro left middle right first later request receipt whole call ok changed
    obtain ⟨seen, seen'⟩ := pair whole
    obtain ⟨applied | marked, _, _⟩ := seen.receipt call ok
    · exact absurd applied changed
    · exact (seen'.ledger.undone _ _ marked).mp rfl
  case replayedRollback =>
    intro left middle right first later request receipt whole call call' ok
    obtain ⟨seen, seen'⟩ := pair whole
    obtain ⟨undone, replays⟩ := seen.rollback call ok
    have effect := seen'.effect
    rw [call'] at effect
    refine effect_of_run effect ?_ (.inr ⟨receipt, rfl⟩)
    exact (run_undone undone).trans (if_pos replays)
  case conflict =>
    intro entry member request call
    obtain ⟨_, seen⟩ := find member
    constructor
    · intro existing found different
      refine seen.answers_round call ?_
      simp only [applyRound, Transaction.run, WalletStore.loadOperation, found, Option.map_some,
        replayOperation]
      have kept : (loadedOperation (existing.at_ request.request.operation)
          (entry.before.rollbacks.lookup request.request.operation)).requestDigest =
            existing.requestDigest := by
        unfold loadedOperation
        split <;> rfl
      rw [kept, if_pos (.inl different)]
      rfl
    · intro rejection found different
      refine seen.answers_round call ?_
      have undecided : entry.before.operations.lookup request.request.operation = none := by
        rcases seen.ledger.decided request.request.operation with absent | absent
        · exact absent
        · rw [found] at absent
          cases absent
      rw [run_rejected undecided found, if_neg different]
  case rejected =>
    intro entry member key rejection found
    obtain ⟨_, seen⟩ := find member
    refine ⟨effect_keeps _ (fun _ _ step => step.rejection_kept found) seen.effect, ?_⟩
    rintro request call rfl same
    refine seen.answers_round call ?_
    have undecided : entry.before.operations.lookup request.request.operation = none := by
      rcases seen.ledger.decided request.request.operation with absent | absent
      · exact absent
      · rw [found] at absent
        cases absent
    rw [run_rejected undecided found, if_pos same]
  case failed =>
    intro entry member error failed
    obtain ⟨_, seen⟩ := find member
    have effect := seen.effect
    rw [failed] at effect
    exact effect_leaves effect

/-- Whatever the interleaving of the calls' statements, failures and lost answers. -/
theorem wallet_run_sound {ι : Type} [DecidableEq ι] (digests : RequestDigests) (start : WalletStore)
    (opened : start.Opened) (system : WalletSystem ι)
    (reached : Relation.ReflTransGen
      (System.Step WalletError.storage (WalletCall.transaction digests)) (System.quiet start [])
      system) :
    WalletSound digests start system.log system.store :=
  sound_of_history opened (System.serializable (WalletCall.covered digests) reached)

end Runs

/-! ## A run -/

/-- One account and no sessions. -/
def demoStore : WalletStore :=
  { accounts := AList.insert ⟨"op", "acct", "EUR"⟩ (100 : Int) ∅, sessions := [], operations := ∅
    rejections := ∅, rollbacks := ∅
    rollbacksUnique := by
      intro key other row third found
      cases found }

/-- Stand-ins that tell the requests below apart. -/
def demoDigests : RequestDigests where
  round request := request.operationID
  rollback request := request.rollbackID
  deterministicTransactionID label source := label ++ "_" ++ source

def demoRound (operationID : String) (debit : Int) : ValidatedRound :=
  { request :=
      { operationID := operationID, fingerprint := "fp", operatorID := "op", playerID := "player"
        walletAccountID := "acct", sessionID := "session", roundID := "round", gameID := "game"
        definitionVersion := "1", definitionHash := "hash", roundKind := "BASE", currency := "EUR"
        debitMinor := "30", creditMinor := "50" }
    debit := debit, credit := 50, requestDigest := operationID }

def demoRollback : ValidatedRollback :=
  { request := { operatorID := "op", operationID := "a", rollbackID := "r", reason := "dispute" }
    requestDigest := "r" }

/-- A list of calls, each run to its end before the next; some answers are lost. -/
def runCalls (digests : RequestDigests) : List (WalletCall × Bool) → WalletStore →
    List WalletEntry → WalletStore × List WalletEntry
  | [], store, log => (store, log)
  | (call, lost) :: calls, store, log =>
      let (result, after) := (call.transaction digests).run .storage store
      let answer := if lost then .error .storage else result
      runCalls digests calls after
        (log ++ [{ call := call, result := answer, before := store, after := after }])

theorem runCalls_reached (digests : RequestDigests) (calls : List (WalletCall × Bool))
    (store : WalletStore) (log : List WalletEntry) :
    Relation.ReflTransGen (System.Step WalletError.storage (WalletCall.transaction digests))
      (System.quiet store log : WalletSystem Unit)
      (System.quiet (runCalls digests calls store log).1 (runCalls digests calls store log).2) := by
  induction calls generalizing store log with
  | nil => exact .refl
  | cons entry calls ih =>
      obtain ⟨call, lost⟩ := entry
      refine (System.runs_alone () call store log ?_).trans (ih _ _)
      cases lost with
      | false => exact .inl rfl
      | true => exact .inr rfl

theorem demoStore_opened : demoStore.Opened := by
  refine { operations := rfl, rejections := rfl, rollbacks := rfl, balances := ?_ }
  intro key balance found
  rw [demoStore, Table.lookup_insert] at found
  split at found
  · cases found
    decide
  · cases found

/-- Applied, one rejected, one whose answer is lost, a replay, a rollback, a replay. -/
def demoCalls : List (WalletCall × Bool) :=
  [(.apply (demoRound "a" 30), false), (.apply (demoRound "b" 500), false),
    (.apply (demoRound "c" 10), true), (.apply (demoRound "a" 30), false),
    (.rollback demoRollback, false), (.apply (demoRound "a" 30), false)]

example : ((runCalls demoDigests demoCalls demoStore []).2.map fun entry =>
    entry.result.toOption.map (·.balanceMinor)) =
      [some 120, none, none, some 120, some 140, none] := by
  decide

theorem demo_wallet_run_sound :
    WalletSound demoDigests demoStore (runCalls demoDigests demoCalls demoStore []).2
      (runCalls demoDigests demoCalls demoStore []).1 :=
  wallet_run_sound demoDigests demoStore demoStore_opened _
    (runCalls_reached demoDigests demoCalls demoStore [])

/-- In that run an exact replay is refused, a rejection writes, and a call that
reports a storage error has moved money. -/
theorem wallet_replay_refused :
    ∃ system : WalletSystem Unit,
      Relation.ReflTransGen
        (System.Step WalletError.storage (WalletCall.transaction demoDigests))
        (System.quiet demoStore []) system ∧
      (∃ left middle right first later receipt,
        system.log = left ++ first :: (middle ++ later :: right) ∧
        first.call = .apply (demoRound "a" 30) ∧ later.call = .apply (demoRound "a" 30) ∧
        first.result = .ok receipt ∧ later.result = .error .idempotencyConflict) ∧
      (∃ entry ∈ system.log, entry.result = .error .insufficientFunds ∧
        (entry.before.rejections.lookup ⟨"op", "b"⟩).isSome = false ∧
        (entry.after.rejections.lookup ⟨"op", "b"⟩).isSome = true) ∧
      ∃ entry ∈ system.log, entry.result = .error .storage ∧
        entry.before.accounts.lookup ⟨"op", "acct", "EUR"⟩ = some 120 ∧
        entry.after.accounts.lookup ⟨"op", "acct", "EUR"⟩ = some 160 := by
  refine ⟨_, runCalls_reached demoDigests demoCalls demoStore [],
    ⟨[], [_, _, _, _], [], _, _, _, rfl, rfl, rfl, rfl, rfl⟩, ⟨_, .tail _ (.head _), rfl, ?_, ?_⟩,
    ⟨_, .tail _ (.tail _ (.head _)), rfl, ?_, ?_⟩⟩
  all_goals decide

end SlotsGame.LocalOperator
