/-
# SlotsGame.Launch.Code -- launch codes, and the digests of all kinds

A launch code is HMAC-SHA-256 of the identity of a launch in base64, under one of two
schemas: the original one when the idempotency key is the session, and one with the key
as a field of its own otherwise.  `Digested` is everything that is hashed under a
schema; its preimage determines its kind and its defining fields
(`Digested.preimage_inj`), and so does its digest where the hashes have no collision
(`digests_unambiguous`).
-/
import Mathlib.Data.List.OfFn
import SlotsGame.Rgs.Digests

namespace SlotsGame.Launch

open SlotsGame.Rgs SlotsGame.Theory

set_option autoImplicit false

/-! ## Launch codes -/

/-- `CodePrefix` -/
def codePrefix : String := "lc_"

/-- `writeLaunchField` writes what `writeFingerprintField` writes. -/
def writeLaunchField (name value : String) : List UInt8 :=
  let name := name.toUTF8.toList
  let value := value.toUTF8.toList
  putUint64 name.length ++ name ++ putUint64 value.length ++ value

def writeLaunchFields (fields : List (String × String)) : List UInt8 :=
  fields.flatMap fun (name, value) => writeLaunchField name value

/-- HMAC-SHA-256 under the key of the launch manager. -/
abbrev LaunchMac := List UInt8 → Fin 32 → Fin 256

/-- The fields of `launchCode`, by its two schemas. -/
def launchCodeFields (operatorID sessionID idempotencyKey : String) : List (String × String) :=
  if idempotencyKey = sessionID then
    [("schema", "rgs-launch-code-v1"), ("operator", operatorID), ("session", sessionID)]
  else
    [("schema", "rgs-launch-code-v2"), ("operator", operatorID), ("session", sessionID),
      ("idempotency", idempotencyKey)]

def launchCode (mac : LaunchMac) (operatorID sessionID idempotencyKey : String) : String :=
  codePrefix ++ String.ofList (rawURLEncode (List.ofFn
    (mac (writeLaunchFields (launchCodeFields operatorID sessionID idempotencyKey)))))

section Fields

variable {operatorID sessionID idempotencyKey : String}

theorem launchCodeFields_sized (operator : Sized operatorID) (session : Sized sessionID)
    (key : Sized idempotencyKey) :
    ∀ field ∈ launchCodeFields operatorID sessionID idempotencyKey, FieldSized field := by
  have first : FieldSized ("operator", operatorID) := labelled (by decide) operator
  have second : FieldSized ("session", sessionID) := labelled (by decide) session
  unfold launchCodeFields
  split
  · simp only [List.forall_mem_cons, List.not_mem_nil, false_imp_iff, implies_true, and_true]
    exact ⟨labelled (by decide) (sized_of_length (by decide)), first, second⟩
  · simp only [List.forall_mem_cons, List.not_mem_nil, false_imp_iff, implies_true, and_true]
    exact ⟨labelled (by decide) (sized_of_length (by decide)), first, second,
      labelled (by decide) key⟩

/-- The fields of a launch determine it, under whichever schema. -/
theorem launchCodeFields_inj {otherOperator otherSession otherKey : String}
    (same : launchCodeFields operatorID sessionID idempotencyKey =
      launchCodeFields otherOperator otherSession otherKey) :
    operatorID = otherOperator ∧ sessionID = otherSession ∧ idempotencyKey = otherKey := by
  unfold launchCodeFields at same
  split at same
  · next first =>
    split at same
    · next second =>
      simp only [List.cons.injEq, Prod.mk.injEq, true_and, and_true] at same
      exact ⟨same.1, same.2, first.trans (same.2.trans second.symm)⟩
    · simp at same
  · split at same
    · simp at same
    · simp only [List.cons.injEq, Prod.mk.injEq, true_and, and_true] at same
      exact same

end Fields

/-! ## Everything that is hashed under a schema -/

/-- The kinds of digests. -/
inductive DigestKind
  | round | operation | command | launch
  deriving DecidableEq

inductive Digested
  | round (request : SpinRequest)
  | operation (request : SpinRequest)
  | command (round : WalletRound)
  | launch (operatorID sessionID idempotencyKey : String)

namespace Digested

def kind : Digested → DigestKind
  | round _ => .round
  | operation _ => .operation
  | command _ => .command
  | launch _ _ _ => .launch

def fields : Digested → List (String × String)
  | round request => fingerprintFields request
  | operation request => operationFields request
  | command sent => commandFields sent
  | launch operatorID sessionID idempotencyKey =>
      launchCodeFields operatorID sessionID idempotencyKey

def preimage (digested : Digested) : List UInt8 := writeFingerprintFields digested.fields

/-- What the source makes of it. -/
def digest (codec : Codec) (mac : LaunchMac) : Digested → String
  | round request => fingerprintFor codec request
  | operation request => walletOperationID codec request
  | command sent => commandDigestFor codec sent
  | launch operatorID sessionID idempotencyKey =>
      launchCode mac operatorID sessionID idempotencyKey

/-- Its fields have values of the source's types. -/
def Representable : Digested → Prop
  | round request => request.Representable
  | operation request => request.Representable
  | command sent => sent.Representable
  | launch operatorID sessionID idempotencyKey =>
      Sized operatorID ∧ Sized sessionID ∧ Sized idempotencyKey

/-- One kind, and all the fields that define it. -/
def Same : Digested → Digested → Prop
  | round left, round right => left.SameRound right
  | operation left, operation right => left.key = right.key
  | command left, command right => left.SameCommand right
  | launch operatorID sessionID idempotencyKey, launch otherOperator otherSession otherKey =>
      operatorID = otherOperator ∧ sessionID = otherSession ∧ idempotencyKey = otherKey
  | _, _ => False

/-! ## Kinds -/

/-- The kind that a schema is for. -/
def kindOfSchema (schema : String) : Option DigestKind :=
  if schema = "rgs-round-fingerprint-v2" then some .round
  else if schema = "rgs-wallet-operation-v1" then some .operation
  else if schema = "rgs-wallet-command-v1" then some .command
  else if schema = "rgs-launch-code-v1" ∨ schema = "rgs-launch-code-v2" then some .launch
  else none

/-- The first field is a schema of the kind. -/
theorem fields_schema (digested : Digested) :
    ∃ schema rest, digested.fields = ("schema", schema) :: rest ∧ Sized schema ∧
      kindOfSchema schema = some digested.kind := by
  cases digested with
  | round request =>
      have schema : kindOfSchema "rgs-round-fingerprint-v2" = some .round := by decide
      exact ⟨_, _, rfl, sized_of_length (by decide), schema⟩
  | operation request =>
      have schema : kindOfSchema "rgs-wallet-operation-v1" = some .operation := by decide
      exact ⟨_, _, rfl, sized_of_length (by decide), schema⟩
  | command sent =>
      have schema : kindOfSchema "rgs-wallet-command-v1" = some .command := by decide
      exact ⟨_, _, rfl, sized_of_length (by decide), schema⟩
  | launch operatorID sessionID idempotencyKey =>
      have first : kindOfSchema "rgs-launch-code-v1" = some .launch := by decide
      have second : kindOfSchema "rgs-launch-code-v2" = some .launch := by decide
      by_cases same : idempotencyKey = sessionID
      · exact ⟨_, _, if_pos same, sized_of_length (by decide), first⟩
      · exact ⟨_, _, if_neg same, sized_of_length (by decide), second⟩

/-- A preimage determines the kind. -/
theorem kind_of_preimage {left right : Digested} (same : left.preimage = right.preimage) :
    left.kind = right.kind := by
  obtain ⟨leftSchema, leftRest, leftFields, leftSized, leftKind⟩ := left.fields_schema
  obtain ⟨rightSchema, rightRest, rightFields, rightSized, rightKind⟩ := right.fields_schema
  rw [preimage, preimage, leftFields, rightFields] at same
  rw [schema_inj leftSized rightSized same, rightKind] at leftKind
  exact (Option.some.inj leftKind).symm

/-- A preimage determines the kind and the defining fields. -/
theorem preimage_inj {left right : Digested} (leftFits : left.Representable)
    (rightFits : right.Representable) (same : left.preimage = right.preimage) :
    left.Same right := by
  have kinds := kind_of_preimage same
  cases left with
  | round request =>
      cases right with
      | round other => exact fingerprintFields_inj leftFits rightFits same
      | operation _ | command _ | launch _ _ _ => cases kinds
  | operation request =>
      cases right with
      | operation other => exact operationFields_inj leftFits rightFits same
      | round _ | command _ | launch _ _ _ => cases kinds
  | command sent =>
      cases right with
      | command other => exact commandFields_inj leftFits rightFits same
      | round _ | operation _ | launch _ _ _ => cases kinds
  | launch operatorID sessionID idempotencyKey =>
      cases right with
      | launch otherOperator otherSession otherKey =>
          obtain ⟨leftOperator, leftSession, leftKey⟩ := leftFits
          obtain ⟨rightOperator, rightSession, rightKey⟩ := rightFits
          exact launchCodeFields_inj (writeFingerprintFields_inj
            (launchCodeFields_sized leftOperator leftSession leftKey)
            (launchCodeFields_sized rightOperator rightSession rightKey) same)
      | round _ | operation _ | command _ => cases kinds

/-! ## Digests -/

/-- The kind that a prefix is for. -/
def kindOfPrefix : List Char → Option DigestKind
  | 'l' :: _ => some .launch
  | 'r' :: 'g' :: 's' :: '-' :: 'f' :: _ => some .round
  | 'r' :: 'g' :: 's' :: '-' :: 'o' :: _ => some .operation
  | 'r' :: 'g' :: 's' :: '-' :: 'w' :: _ => some .command
  | _ => none

/-- A digest starts with the prefix of its kind. -/
theorem digest_prefix (codec : Codec) (mac : LaunchMac) (digested : Digested) :
    kindOfPrefix (digested.digest codec mac).toList = some digested.kind := by
  cases digested with
  | round request =>
      rw [digest, fingerprintFor_eq, String.toList_append]
      rfl
  | operation request =>
      rw [digest, walletOperationID_eq, String.toList_append]
      rfl
  | command sent =>
      rw [digest, commandDigestFor_eq, String.toList_append]
      rfl
  | launch operatorID sessionID idempotencyKey =>
      rw [digest, launchCode, String.toList_append]
      rfl

theorem append_right_inj {start left right : String} (same : start ++ left = start ++ right) :
    left = right := by
  have chars := congrArg String.toList same
  rw [String.toList_append, String.toList_append] at chars
  exact String.toList_inj.mp (List.append_cancel_left chars)

/-- Two digests of one value come of one preimage, where the hashes have no collision. -/
theorem preimage_of_digest {codec : Codec} {mac : LaunchMac} {hashed : Set (List UInt8)}
    (sha256 : hashed.InjOn codec.sha256) (hmac : hashed.InjOn mac) {left right : Digested}
    (leftHashed : left.preimage ∈ hashed) (rightHashed : right.preimage ∈ hashed)
    (same : left.digest codec mac = right.digest codec mac) : left.preimage = right.preimage := by
  have kinds : left.kind = right.kind := by
    have := digest_prefix codec mac left
    rw [same, digest_prefix codec mac right] at this
    exact (Option.some.inj this).symm
  cases left with
  | round request =>
      cases right with
      | round other => exact sha256 leftHashed rightHashed (append_right_inj same)
      | operation _ | command _ | launch _ _ _ => cases kinds
  | operation request =>
      cases right with
      | operation other => exact sha256 leftHashed rightHashed (append_right_inj same)
      | round _ | command _ | launch _ _ _ => cases kinds
  | command sent =>
      cases right with
      | command other => exact sha256 leftHashed rightHashed (append_right_inj same)
      | round _ | operation _ | launch _ _ _ => cases kinds
  | launch operatorID sessionID idempotencyKey =>
      cases right with
      | launch otherOperator otherSession otherKey =>
          have encoded := String.ofList_injective (append_right_inj same)
          exact hmac leftHashed rightHashed
            (List.ofFn_injective (rawURLEncode_injective encoded))
      | round _ | operation _ | command _ => cases kinds

end Digested

/-- On messages without a collision, a digest determines the kind and the defining fields
of what was hashed; and no two kinds share a preimage, whatever the hashes are. -/
theorem digests_unambiguous (codec : Codec) (mac : LaunchMac) (hashed : Set (List UInt8))
    (sha256 : hashed.InjOn codec.sha256) (hmac : hashed.InjOn mac) (left right : Digested)
    (leftFits : left.Representable) (rightFits : right.Representable) :
    (left.preimage ∈ hashed → right.preimage ∈ hashed →
      left.digest codec mac = right.digest codec mac → left.Same right) ∧
    (left.preimage = right.preimage → left.kind = right.kind ∧ left.Same right) :=
  ⟨fun leftHashed rightHashed same => Digested.preimage_inj leftFits rightFits
      (Digested.preimage_of_digest sha256 hmac leftHashed rightHashed same),
    fun same => ⟨Digested.kind_of_preimage same, Digested.preimage_inj leftFits rightFits same⟩⟩

/-! ## Two bets of one round -/

/-- A polynomial hash of 32 bytes, for the example. -/
def polynomialMac : LaunchMac := fun bytes place =>
  ⟨bytes.foldl (fun sum byte => (sum * (31 + place.val) + byte.toNat) % 65536) 0 % 256, by omega⟩

def zeroDigest : String := "0000000000000000000000000000000000000000000000000000000000000000"

def polynomialDigest (bytes : List UInt8) : String :=
  let text := String.ofList (Text.hexEncode (List.ofFn (polynomialMac bytes)))
  if Text.digestPattern text then text else zeroDigest

theorem polynomialDigest_digest (bytes : List UInt8) :
    Text.digestPattern (polynomialDigest bytes) = true := by
  unfold polynomialDigest
  dsimp only
  split
  · next digest => exact digest
  · decide +kernel

def polynomialCodec : Codec where
  sha256 := polynomialDigest
  sha256_digest := polynomialDigest_digest
  marshalResult _ := []
  marshalLegacyResult _ := []
  marshal_transport := Codec.silent_transport

/-- A round of one minor unit. -/
def smallBet : SpinRequest :=
  { operatorID := "operator", sessionID := "session", roundID := "round", gameID := "game"
    definitionVersion := "1", definitionHash := zeroDigest, currency := "EUR", roundKind := .base
    betMinor := 1, startRevision := 1, transportGeneration := 1 }

def largeBet : SpinRequest := { smallBet with betMinor := 100 }

theorem bets_representable :
    (Digested.round smallBet).Representable ∧ (Digested.round largeBet).Representable := by
  have texts : ∀ text ∈ ["operator", "session", "round", "game", "1", zeroDigest, "EUR", "BASE"],
      Sized text := by
    intro text listed
    refine sized_of_length (Nat.lt_of_le_of_lt ?_ (by decide : 64 < 2 ^ 61))
    revert text
    decide
  exact ⟨⟨texts, by unfold IsInt64; decide, by decide⟩, ⟨texts, by unfold IsInt64; decide, by decide⟩⟩

/-- Neither hash takes the two preimages to one value. -/
theorem bets_apart :
    polynomialDigest (Digested.round smallBet).preimage ≠
        polynomialDigest (Digested.round largeBet).preimage ∧
      polynomialMac (Digested.round smallBet).preimage 0 ≠
        polynomialMac (Digested.round largeBet).preimage 0 := by
  decide +kernel

theorem bets_unambiguous :
    fingerprintFor polynomialCodec smallBet ≠ fingerprintFor polynomialCodec largeBet := by
  have sha256 : Set.InjOn polynomialCodec.sha256
      {(Digested.round smallBet).preimage, (Digested.round largeBet).preimage} := by
    rintro left (rfl | rfl) right (rfl | rfl) same
    · rfl
    · exact absurd same bets_apart.1
    · exact absurd same.symm bets_apart.1
    · rfl
  have hmac : Set.InjOn polynomialMac
      {(Digested.round smallBet).preimage, (Digested.round largeBet).preimage} := by
    rintro left (rfl | rfl) right (rfl | rfl) same
    · rfl
    · exact absurd (congrFun same 0) bets_apart.2
    · exact absurd (congrFun same 0).symm bets_apart.2
    · rfl
  intro same
  have round := (digests_unambiguous polynomialCodec polynomialMac _ sha256 hmac
    (.round smallBet) (.round largeBet) bets_representable.1 bets_representable.2).1
    (.inl rfl) (.inr rfl) same
  exact absurd round.betMinor (by decide)

end SlotsGame.Launch
