/-
# SlotsGame.Operator.Nonce -- what has consumed a nonce is not consumed again

Three stores remember nonces: the process-local map, the RGS's table and the local
operator's.  They differ in the key they keep a nonce under and in how exactly they keep the
deadline; each is a store of tombstones.  `ConsumeNonce` computes the deadline.
-/
import Mathlib.Data.List.Basic
import SlotsGame.Operator.Signature
import SlotsGame.Theory.Tombstones

namespace SlotsGame.Operator

open SlotsGame.Rgs SlotsGame.Text SlotsGame.Theory

set_option autoImplicit false

/-! ## Stores -/

abbrev NonceTable := Tombstones (List String)

/-- `MemoryNonceStore`, the RGS's `NonceStore`, and the local operator's store. -/
inductive NonceBackend
  | memory | postgres | localOperator
  deriving DecidableEq

def nul : Char := Char.ofNat 0

/-- The scope that `ConsumeNonce` builds. -/
def nonceScope (operatorID keyID : String) : String :=
  (String.singleton nul).intercalate ["HTTP_REQUEST", operatorID, keyID]

/-- `parseNonceScope` -/
def parseNonceScope (scope : String) : Except OperatorError (String × String) :=
  match (scope.toList.splitOn nul).map String.ofList with
  | [purpose, operatorID, keyID] =>
      if purpose = "HTTP_REQUEST" ∧ identifierPattern operatorID = true ∧
          identifierPattern keyID = true then
        .ok (operatorID, keyID)
      else .error .nonceStore
  | _ => .error .nonceStore

/-- The stored digest of a nonce. -/
def nonceHash (crypto : Crypto) (nonce : String) : String :=
  String.ofList (hexEncode ((crypto.sha256 nonce.toUTF8.toList).map UInt8.toFin))

namespace NonceBackend

/-- What a store keeps a nonce under, after its own checks of the input. -/
def key (backend : NonceBackend) (crypto : Crypto) (scope nonce : String) (expiresAt : Time) :
    Except OperatorError (List String) :=
  match backend with
  | memory => .ok [(String.singleton nul).intercalate [scope, nonce]]
  | postgres | localOperator => do
      let (operatorID, keyID) ← parseNonceScope scope
      refuse (validNonce nonce = false ∨ expiresAt = 0) OperatorError.nonceStore
      pure [operatorID, keyID, nonceHash crypto nonce]

/-- What it keeps of the deadline: a `timestamptz` has whole microseconds. -/
def deadline (backend : NonceBackend) (expiresAt : Time) : Time :=
  match backend with
  | memory => expiresAt
  | postgres | localOperator => expiresAt / Duration.microsecond * Duration.microsecond

/-- `Consume`: the process-local store first drops all that has expired. -/
def consume (backend : NonceBackend) (crypto : Crypto) (nonces : NonceTable) (now : Time)
    (scope nonce : String) (expiresAt : Time) : Except OperatorError Bool × NonceTable :=
  match backend.key crypto scope nonce expiresAt with
  | .error error => (.error error, nonces)
  | .ok key =>
      let nonces := if backend = memory then nonces.forget now nonces.keys else nonces
      let (consumed, after) := nonces.consume now key (backend.deadline expiresAt)
      (.ok consumed, after)

end NonceBackend

/-- `MaximumSecurityPurgeBatch` -/
def maximumSecurityPurgeBatch : Nat := 10000

/-- `PurgeExpired` of the RGS's store; `keys` are the rows it could lock. -/
def purgeExpired (nonces : NonceTable) (now before : Time) (keys : List (List String)) : NonceTable :=
  nonces.forget (min before now) keys

/-! ## ConsumeNonce -/

/-- The time until which the nonce is kept: a replica accepts the request until a skew after it
expires, by a clock that may be a skew behind the store's. -/
def RequestVerifier.retention (verifier : RequestVerifier) (expires : Time) : Time :=
  expires + verifier.clockSkew + verifier.clockSkew

/-- `ConsumeNonce` -/
def RequestVerifier.consumeNonce (verifier : RequestVerifier) (backend : NonceBackend)
    (crypto : Crypto) (nonces : NonceTable) (now : Time) (verified : VerifiedRequest) :
    Except OperatorError Unit × NonceTable :=
  if verified.verifiedBy ≠ verifier.id ∨ verified.binding ≠ verified.toRequestIdentity ∨
      identifierPattern verified.operatorID = false ∨ identifierPattern verified.keyID = false ∨
      identifierPattern verified.requestID = false ∨
      identifierPattern verified.idempotencyKey = false ∨ validNonce verified.nonce = false ∨
      verified.created = 0 ∨ verified.expires = 0 ∨ verified.expires ≤ verified.created ∨
      verified.expires - verified.created > verifier.maxLifetime then
    (.error .malformed, nonces)
  else
    match backend.consume crypto nonces now (nonceScope verified.operatorID verified.keyID)
        verified.nonce (verifier.retention verified.expires) with
    | (.error _, after) => (.error .nonceStore, after)
    | (.ok true, after) => (.ok (), after)
    | (.ok false, after) => (.error .replay, after)

/-! ## The key of a verified request -/

section Keys

variable {verifier : RequestVerifier} {now : Time} {request : HttpRequest} {verified : VerifiedRequest}

theorem identifierPattern_nul {text : String} (valid : identifierPattern text = true) :
    nul ∉ text.toList := by
  unfold identifierPattern matchesPattern at valid
  split at valid
  next => cases valid
  next c cs same =>
    simp only [Bool.and_eq_true] at valid
    rw [same]
    intro member
    rcases List.mem_cons.mp member with rfl | later
    · exact absurd valid.1.1.1 (by decide)
    · exact absurd (List.all_eq_true.mp valid.1.1.2 nul later) (by decide)

/-- Parts without the separator can be told apart again. -/
theorem splitOn_parts {parts : List String} (filled : parts ≠ [])
    (clean : ∀ part ∈ parts.map String.toList, nul ∉ part) :
    (((String.singleton nul).intercalate parts).toList.splitOn nul) = parts.map String.toList := by
  have separator : (String.singleton nul).toList = [nul] := String.toList_singleton nul
  rw [String.toList_intercalate, separator]
  exact List.splitOn_intercalate nul clean (by simpa using filled)

theorem scope_clean {operatorID keyID : String} (operator : identifierPattern operatorID = true)
    (key : identifierPattern keyID = true) :
    ∀ part ∈ ["HTTP_REQUEST", operatorID, keyID].map String.toList, nul ∉ part := by
  intro part member
  simp only [List.map_cons, List.map_nil, List.mem_cons, List.not_mem_nil, or_false] at member
  rcases member with rfl | rfl | rfl
  · decide
  · exact identifierPattern_nul operator
  · exact identifierPattern_nul key

theorem parseNonceScope_scope {operatorID keyID : String} (operator : identifierPattern operatorID = true)
    (key : identifierPattern keyID = true) :
    parseNonceScope (nonceScope operatorID keyID) = .ok (operatorID, keyID) := by
  rw [parseNonceScope, nonceScope, splitOn_parts (by rintro ⟨⟩) (scope_clean operator key)]
  simp only [List.map_cons, List.map_nil, String.ofList_toList]
  exact if_pos ⟨trivial, operator, key⟩

/-- What a store keeps the nonce of a verified request under. -/
def NonceBackend.keyOf (backend : NonceBackend) (crypto : Crypto) (verified : VerifiedRequest) :
    List String :=
  match backend with
  | memory =>
      [(String.singleton nul).intercalate
        [nonceScope verified.operatorID verified.keyID, verified.nonce]]
  | postgres | localOperator => [verified.operatorID, verified.keyID, nonceHash crypto verified.nonce]

theorem expires_positive (authentic : Authenticated verifier now request verified)
    (skew : 0 ≤ verifier.clockSkew) : 0 < verifier.retention verified.expires := by
  obtain ⟨_, _, _, expires, _, _, _, same, _⟩ := authentic.signed
  have second : (0 : Int) < Duration.second := by decide
  have whole : (0 : Int) < (expires : Int) + unixToInternal := by
    have epoch : (0 : Int) < unixToInternal := by decide
    omega
  have positive : (0 : Int) < unix expires := Int.mul_pos whole second
  rw [RequestVerifier.retention, same]
  have once : (0 : Int) < unix expires + verifier.clockSkew := Int.add_pos_of_pos_of_nonneg positive skew
  exact Int.add_pos_of_pos_of_nonneg once skew

/-- A verified request reaches the store, under its own key. -/
theorem consumeNonce_authenticated (backend : NonceBackend) (crypto : Crypto) (nonces : NonceTable)
    (later : Time) (authentic : Authenticated verifier now request verified)
    (skew : 0 ≤ verifier.clockSkew) :
    let remembered := if backend = .memory then nonces.forget later nonces.keys else nonces
    let consumed := remembered.consume later (backend.keyOf crypto verified)
      (backend.deadline (verifier.retention verified.expires))
    verifier.consumeNonce backend crypto nonces later verified =
      (if consumed.1 = true then .ok () else .error .replay, consumed.2) := by
  obtain ⟨operator, keyID, requestID, idempotencyKey, nonce⟩ := authentic.identifiers
  obtain ⟨_, _, createdUnix, expiresUnix, _, _, created, expires, _⟩ := authentic.signed
  have positive (seconds : Nat) : unix seconds ≠ 0 := by
    have second : (0 : Int) < Duration.second := by decide
    have epoch : (0 : Int) < unixToInternal := by decide
    have whole : (0 : Int) < (seconds : Int) + unixToInternal := by omega
    have greater : (0 : Int) < unix seconds := Int.mul_pos whole second
    intro zero
    rw [zero] at greater
    exact Int.lt_irrefl 0 greater
  have retained := expires_positive authentic skew
  have keyed : backend.key crypto (nonceScope verified.operatorID verified.keyID) verified.nonce
      (verifier.retention verified.expires) = .ok (backend.keyOf crypto verified) := by
    have stored : (refuse (validNonce verified.nonce = false ∨
        verifier.retention verified.expires = 0) OperatorError.nonceStore) = .ok () := by
      rw [refuse_ok, not_or, Bool.not_eq_false]
      refine ⟨nonce, ?_⟩
      intro zero
      rw [zero] at retained
      exact Int.lt_irrefl 0 retained
    cases backend with
    | memory => rfl
    | postgres =>
        rw [NonceBackend.key, parseNonceScope_scope operator keyID]
        exact bind_ok.mpr ⟨(_, _), rfl, bind_ok.mpr ⟨(), stored, rfl⟩⟩
    | localOperator =>
        rw [NonceBackend.key, parseNonceScope_scope operator keyID]
        exact bind_ok.mpr ⟨(_, _), rfl, bind_ok.mpr ⟨(), stored, rfl⟩⟩
  intro remembered consumed
  rw [RequestVerifier.consumeNonce, if_neg, NonceBackend.consume, keyed]
  · show (match ((.ok consumed.1, consumed.2) : Except OperatorError Bool × NonceTable) with
      | (.error _, after) => (Except.error OperatorError.nonceStore, after)
      | (.ok true, after) => (.ok (), after)
      | (.ok false, after) => (.error .replay, after)) = _
    cases consumed.1 with
    | true => rfl
    | false => rfl
  · rw [created, expires]
    have window := authentic.window
    rw [created, expires] at window
    simp only [not_or, not_not, Bool.not_eq_false]
    exact ⟨authentic.bound.1, authentic.bound.2, operator, keyID, requestID, idempotencyKey, nonce,
      positive createdUnix, positive expiresUnix, Int.not_le.mpr window.1, Int.not_lt.mpr window.2⟩

end Keys

end SlotsGame.Operator
