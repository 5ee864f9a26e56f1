/-
# SlotsGame.LocalOperator.Protocol -- the requests of the local operator's wallet

A round and a rollback, once `validateRoundWithPolicy` and `validateRollback` have accepted
them: the request, its money, and the digest by which a replay is recognised.
`checkedBalance` is the arithmetic of the account.
-/
import SlotsGame.Rgs.Validation

namespace SlotsGame.LocalOperator

open SlotsGame.Rgs SlotsGame.Theory

set_option autoImplicit false

/-! ## Requests -/

structure RoundRequest where
  operationID : String
  fingerprint : String
  operatorID : String
  playerID : String
  walletAccountID : String
  walletSessionRef : String := ""
  sessionID : String
  roundID : String
  gameID : String
  definitionVersion : String
  definitionHash : String
  roundKind : String
  currency : String
  debitMinor : String
  creditMinor : String
  commandDigest : String := ""
  deriving DecidableEq

structure RollbackRequest where
  operatorID : String
  operationID : String
  rollbackID : String
  reason : String
  deriving DecidableEq

structure ValidatedRound where
  request : RoundRequest
  debit : Int
  credit : Int
  requestDigest : String
  deriving DecidableEq

structure ValidatedRollback where
  request : RollbackRequest
  requestDigest : String
  deriving DecidableEq

/-- The digests of the canonical JSON of a request, and those of the identifiers
derived from one: SHA-256 and `encoding/json` are the standard library's. -/
structure RequestDigests where
  round : RoundRequest → String
  rollback : RollbackRequest → String
  deterministicTransactionID : String → String → String

/-! ## Money -/

/-- `math.MaxInt64` -/
def maxInt64 : Int := 9223372036854775807

/-- `^(0|[1-9][0-9]*)$` -/
def moneyPattern (value : String) : Bool :=
  match value.toList with
  | [] => false
  | ['0'] => true
  | first :: rest => first.isDigit && first != '0' && rest.all Char.isDigit

/-- `strconv.ParseInt` of a canonical decimal. -/
def decimalValue (value : String) : Nat :=
  value.toList.foldl (fun total digit => 10 * total + (digit.toNat - '0'.toNat)) 0

inductive WalletError
  | idempotencyConflict | insufficientFunds | operationNotFound | accountNotFound
  | walletSessionInvalid | alreadyRolledBack
  | balanceOverflow
  | reverse (cause : WalletError)
  | storage
  deriving DecidableEq

/-- The stake comes out of the balance before the win goes in. -/
def checkedBalance (balance debit credit : Int) : Except WalletError Int := do
  refuse (balance < 0 ∨ debit < 0 ∨ credit < 0) .balanceOverflow
  refuse (debit > balance) .insufficientFunds
  refuse (credit > maxInt64 - (balance - debit)) .balanceOverflow
  return balance - debit + credit

theorem checkedBalance_ok {balance debit credit updated : Int}
    (accepted : checkedBalance balance debit credit = .ok updated) :
    updated = balance - debit + credit ∧ 0 ≤ updated ∧ updated ≤ maxInt64 := by
  simp only [checkedBalance, bind_ok, refuse_ok, exists_unit, pure_ok, not_or, not_lt] at accepted
  obtain ⟨⟨_, _, _⟩, _, _, rfl⟩ := accepted
  omega

end SlotsGame.LocalOperator
