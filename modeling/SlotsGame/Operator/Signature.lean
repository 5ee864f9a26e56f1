/-
# SlotsGame.Operator.Signature -- authenticated operator requests

An operator signs a canonical text of its request: the method, the authority, the
path, the digest of the body and the headers that identify the request, one
line each.  `Authenticate` checks the shape of the headers, the key, the validity window
against the replica's own clock, the digest and the signature, and writes nothing.

The canonical text determines what it was made of (`canonicalRequest_inj`), so two
deliveries under one signature name the same operator, key, nonce and window.
-/
import Mathlib.Data.List.Basic
import SlotsGame.Text
import SlotsGame.Rgs.Types
import SlotsGame.Theory.Tables

namespace SlotsGame.Operator

open SlotsGame.Rgs SlotsGame.Text SlotsGame.Theory

set_option autoImplicit false

/-! ## Errors and parameters -/

inductive OperatorError
  | malformed | unknownKey | notYetValid | expired | keyInactive | tenantMismatch | contentDigest
  | signatureInvalid | replay | nonceStore | issuerMismatch | audienceMismatch
  deriving DecidableEq, Repr

/-- What is there, or `error`. -/
def present {ε α : Type} (found : Option α) (error : ε) : Except ε α :=
  match found with
  | some a => .ok a
  | none => .error error

/-- A failure under another name. -/
def mask {ε ε' α : Type} (tried : Except ε α) (error : ε') : Except ε' α :=
  match tried with
  | .ok a => .ok a
  | .error _ => .error error

@[simp] theorem present_ok {ε α : Type} {found : Option α} {error : ε} {a : α} :
    present found error = .ok a ↔ found = some a := by
  cases found <;> simp [present]

@[simp] theorem mask_ok {ε ε' α : Type} {tried : Except ε α} {error : ε'} {a : α} :
    mask tried error = .ok a ↔ tried = .ok a := by
  cases tried <;> simp [mask]

/-- SHA-256 and Ed25519. -/
structure Crypto where
  sha256 : List UInt8 → List UInt8
  verify : List UInt8 → String → List UInt8 → Bool

/-- `DefaultSignatureLifetime` -/
def defaultSignatureLifetime : Duration := 5 * Duration.minute

/-- `DefaultSignatureClockSkew` -/
def defaultSignatureClockSkew : Duration := 30 * Duration.second

/-- `MaximumSignedRequestBody` -/
def maximumSignedRequestBody : Nat := 1048576

def maxUnix : Nat := 9223372036854775807

/-- Seconds from the zero time of the source to the Unix epoch. -/
def unixToInternal : Int := 62135596800

/-- `time.Unix(seconds, 0)` -/
def unix (seconds : Nat) : Time := (seconds + unixToInternal) * Duration.second

/-! ## Base64 -/

structure Base64 where
  alphabet : List Char
  padded : Bool

/-- `base64.StdEncoding` -/
def stdEncoding : Base64 :=
  { alphabet := "ABCDEFGHIJKLMNOPQRSTUVWXYZabcdefghijklmnopqrstuvwxyz0123456789+/".toList
    padded := true }

/-- `base64.RawURLEncoding` -/
def rawURLEncoding : Base64 :=
  { alphabet := "ABCDEFGHIJKLMNOPQRSTUVWXYZabcdefghijklmnopqrstuvwxyz0123456789-_".toList
    padded := false }

namespace Base64

variable (base : Base64)

def digit (value : Nat) : Char := base.alphabet.getD value '='

def padding (count : Nat) : List Char := if base.padded then List.replicate count '=' else []

def encode : List UInt8 → List Char
  | first :: second :: third :: rest =>
      let value := first.toNat * 65536 + second.toNat * 256 + third.toNat
      base.digit (value / 262144) :: base.digit (value / 4096 % 64) ::
        base.digit (value / 64 % 64) :: base.digit (value % 64) :: encode rest
  | [first, second] =>
      let value := first.toNat * 65536 + second.toNat * 256
      [base.digit (value / 262144), base.digit (value / 4096 % 64), base.digit (value / 64 % 64)] ++
        base.padding 1
  | [first] =>
      let value := first.toNat * 65536
      [base.digit (value / 262144), base.digit (value / 4096 % 64)] ++ base.padding 2
  | [] => []

/-- The bytes of the digits, without the padding. -/
def decodeDigits : List Nat → Option (List UInt8)
  | first :: second :: third :: fourth :: rest =>
      let value := first * 262144 + second * 4096 + third * 64 + fourth
      (decodeDigits rest).map fun bytes =>
        UInt8.ofNat (value / 65536) :: UInt8.ofNat (value / 256 % 256) ::
          UInt8.ofNat (value % 256) :: bytes
  | [first, second, third] =>
      let value := first * 262144 + second * 4096 + third * 64
      some [UInt8.ofNat (value / 65536), UInt8.ofNat (value / 256 % 256)]
  | [first, second] => some [UInt8.ofNat ((first * 262144 + second * 4096) / 65536)]
  | [_] => none
  | [] => some []

/-- Decoding, together with the comparison with the encoding that every caller makes. -/
def decodeCanonical (text : String) : Option (List UInt8) :=
  let digits := (text.toList.filter (· ≠ '=')).mapM base.alphabet.idxOf?
  match digits.bind decodeDigits with
  | some bytes => if base.encode bytes = text.toList then some bytes else none
  | none => none

end Base64

/-! ## Requests -/

/-- A request as it arrives; `header` is `Header.Values`. -/
structure HttpRequest where
  method : String
  host : String
  escapedPath : String
  rawQuery : String
  forceQuery : Bool
  header : String → List String
  body : List UInt8

/-- `strings.ToLower`, as far as it leads to ASCII. -/
def toLower (text : String) : String :=
  String.ofList (text.toList.map fun c =>
    if c = Char.ofNat 0x212A then 'k' else if c = Char.ofNat 0x130 then 'i' else c.toLower)

def authorityChar (c : Char) : Bool :=
  c.isAlphanum || c == '.' || c == '-' || c == ':' || c == '[' || c == ']'

/-- `^[A-Za-z0-9.\-:\[\]]{1,255}$` -/
def authorityPattern (text : String) : Bool := matchesPattern authorityChar authorityChar 0 254 text

def lineBreak (c : Char) : Bool := c == '\r' || c == '\n'

def singleHeader (request : HttpRequest) (name : String) : Except OperatorError String :=
  match request.header name with
  | [value] => if value = "" ∨ value.toList.any lineBreak = true then .error .malformed else .ok value
  | _ => .error .malformed

/-- `strings.TrimPrefix(signatureInput, "sig1=")` -/
def trimSignatureLabel (text : String) : String :=
  match text.toList.dropPrefix? "sig1=".toList with
  | some rest => String.ofList rest
  | none => text

/-- What the lines of the canonical text are about. -/
structure CanonicalFields where
  method : String
  authority : String
  path : String
  digest : String
  contentType : String
  operatorID : String
  requestID : String
  nonce : String
  idempotencyKey : String

def CanonicalFields.lines (fields : CanonicalFields) (signatureInput : String) : List String :=
  [ "\"@method\": " ++ fields.method, "\"@authority\": " ++ fields.authority,
    "\"@path\": " ++ fields.path, "\"content-digest\": " ++ fields.digest,
    "\"content-type\": " ++ fields.contentType, "\"x-operator-id\": " ++ fields.operatorID,
    "\"x-request-id\": " ++ fields.requestID, "\"x-nonce\": " ++ fields.nonce,
    "\"idempotency-key\": " ++ fields.idempotencyKey,
    "\"@signature-params\": " ++ trimSignatureLabel signatureInput ]

/-- `canonicalRequest`; an upper-case method is one of the letters A to Z. -/
def canonicalRequest (request : HttpRequest) (signatureInput : String) :
    Except OperatorError String := do
  refuse (request.rawQuery ≠ "" ∨ request.forceQuery = true) OperatorError.malformed
  refuse (request.method = "" ∨ request.method.toList.all Char.isUpper = false)
    OperatorError.malformed
  let authority := toLower request.host
  refuse (authorityPattern authority = false) OperatorError.malformed
  let path := if request.escapedPath = "" then "/" else request.escapedPath
  refuse (path.toList.head? ≠ some '/' ∨ path.toList.any (fun c => lineBreak c || c == '"') = true)
    OperatorError.malformed
  let contentType ← singleHeader request "Content-Type"
  refuse (contentType ≠ "application/json") OperatorError.malformed
  let digest ← singleHeader request "Content-Digest"
  let operatorID ← singleHeader request "X-Operator-Id"
  let requestID ← singleHeader request "X-Request-Id"
  let nonce ← singleHeader request "X-Nonce"
  let idempotencyKey ← singleHeader request "Idempotency-Key"
  let fields : CanonicalFields :=
    { method := request.method, authority := authority, path := path, digest := digest
      contentType := contentType, operatorID := operatorID, requestID := requestID, nonce := nonce
      idempotencyKey := idempotencyKey }
  pure ("\n".intercalate (fields.lines signatureInput))

/-! ## The signature input -/

/-- `fixedSignatureComponentSet` -/
def fixedSignatureComponentSet : String :=
  "(\"@method\" \"@authority\" \"@path\" \"content-digest\" \"content-type\" \"x-operator-id\" \"x-request-id\" \"x-nonce\" \"idempotency-key\")"

/-- `(0|[1-9][0-9]{0,18})` and `strconv.ParseInt`. -/
def parseSeconds (digits : List Char) : Option Nat :=
  if digits = ['0'] ∨ (digits.head? ≠ some '0' ∧ 1 ≤ digits.length ∧ digits.length ≤ 19) then
    let value := digits.foldl (fun value c => value * 10 + (c.toNat - '0'.toNat)) 0
    if value ≤ maxUnix then some value else none
  else none

/-- `parseSignatureInput`: the parameters of the one profile the expression lets through. -/
def parseSignatureInput (value : String) : Except OperatorError (Nat × Nat × String) :=
  let parsed : Option (Nat × Nat × String) := do
    let rest ← value.toList.dropPrefix? "sig1=".toList
    let rest ← rest.dropPrefix? fixedSignatureComponentSet.toList
    let rest ← rest.dropPrefix? ";created=".toList
    let created ← parseSeconds (rest.takeWhile Char.isDigit)
    let rest ← (rest.dropWhile Char.isDigit).dropPrefix? ";expires=".toList
    let expires ← parseSeconds (rest.takeWhile Char.isDigit)
    let rest ← (rest.dropWhile Char.isDigit).dropPrefix? ";keyid=\"".toList
    let keyID := String.ofList (rest.takeWhile identifierChar)
    if identifierPattern keyID = true ∧
        rest.dropWhile identifierChar = "\";alg=\"ed25519\"".toList then
      some (created, expires, keyID)
    else none
  present parsed .malformed

/-- `decodeFixedBase64` between the label of a header and its closing colon. -/
def decodeFixedBase64 (label value : String) (size : Nat) : Except OperatorError (List UInt8) :=
  let middle := (value.toList.dropPrefix? label.toList).bind fun rest => rest.dropSuffix? [':']
  match middle.bind fun text => stdEncoding.decodeCanonical (String.ofList text) with
  | some bytes => if bytes.length = size then .ok bytes else .error .malformed
  | none => .error .malformed

/-- `validNonce` -/
def validNonce (value : String) : Bool :=
  match rawURLEncoding.decodeCanonical value with
  | some bytes => decide (16 ≤ bytes.length) && decide (bytes.length ≤ 64)
  | none => false

/-! ## Keys -/

inductive KeyPurpose
  | httpRequest | httpResponse | accessToken
  | other (name : String)
  deriving DecidableEq, Repr

structure VerificationKey where
  keyID : String
  operatorID : String
  purpose : KeyPurpose
  publicKey : List UInt8
  notBefore : Time
  notAfter : Time
  deriving DecidableEq

/-- `validateVerificationKey` -/
def validateVerificationKey (key : VerificationKey) : Except OperatorError Unit := do
  refuse (identifierPattern key.keyID = false ∨ identifierPattern key.operatorID = false)
    OperatorError.malformed
  refuse (key.purpose ≠ .httpRequest ∧ key.purpose ≠ .httpResponse ∧ key.purpose ≠ .accessToken)
    OperatorError.malformed
  refuse (key.publicKey.length ≠ 32) OperatorError.malformed
  refuse (key.notBefore = 0 ∨ key.notAfter = 0 ∨ key.notAfter ≤ key.notBefore) OperatorError.malformed

/-- `MemoryKeyRing`: a key is found under its own purpose and identifier. -/
structure KeyRing where
  keys : Table (KeyPurpose × String) VerificationKey
  identity : ∀ id key, keys.lookup id = some key → id = (key.purpose, key.keyID)

namespace KeyRing

def empty : KeyRing where
  keys := ∅
  identity := by
    intro id key found
    cases found

/-- `Add` -/
def add (ring : KeyRing) (key : VerificationKey) : Except OperatorError KeyRing := do
  validateVerificationKey key
  refuse ((ring.keys.lookup (key.purpose, key.keyID)).isSome = true) OperatorError.malformed
  pure {
    keys := ring.keys.insert (key.purpose, key.keyID) key
    identity := by
      intro id other found
      rw [Table.lookup_insert] at found
      by_cases here : id = (key.purpose, key.keyID)
      · rw [if_pos here] at found
        rw [here, Option.some.inj found]
      · rw [if_neg here] at found
        exact ring.identity id other found }

/-- `ResolveKey` -/
def resolveKey (ring : KeyRing) (purpose : KeyPurpose) (keyID : String) : Option VerificationKey :=
  ring.keys.lookup (purpose, keyID)

theorem resolveKey_keyID {ring : KeyRing} {purpose : KeyPurpose} {keyID : String}
    {key : VerificationKey} (found : ring.resolveKey purpose keyID = some key) : key.keyID = keyID :=
  (congrArg Prod.snd (ring.identity _ key found)).symm

end KeyRing

/-! ## Authenticate -/

structure RequestIdentity where
  operatorID : String
  keyID : String
  requestID : String
  idempotencyKey : String
  nonce : String
  created : Time
  expires : Time
  deriving DecidableEq

/-- `VerifiedRequest`; `verifiedBy` is the verifier that made it. -/
structure VerifiedRequest extends RequestIdentity where
  verifiedBy : Nat
  binding : RequestIdentity
  deriving DecidableEq

/-- `RequestVerifier`: one replica's; the clock is read where it is used. -/
structure RequestVerifier where
  id : Nat
  clockSkew : Duration
  maxLifetime : Duration

/-- `NewRequestVerifier`, with the lifetime its option leaves open filled in. -/
def newRequestVerifier (id : Nat) (clockSkew maxLifetime : Duration) :
    Except OperatorError RequestVerifier := do
  refuse (clockSkew < 0 ∨ maxLifetime < 0) OperatorError.malformed
  let maxLifetime := if maxLifetime = 0 then defaultSignatureLifetime else maxLifetime
  refuse (maxLifetime < Duration.second) OperatorError.malformed
  pure { id := id, clockSkew := clockSkew, maxLifetime := maxLifetime }

/-- `Authenticate` -/
def RequestVerifier.authenticate (verifier : RequestVerifier) (crypto : Crypto) (ring : KeyRing)
    (now : Time) (request : HttpRequest) : Except OperatorError VerifiedRequest := do
  refuse (request.body.length > maximumSignedRequestBody) OperatorError.malformed
  let input ← singleHeader request "Signature-Input"
  let (createdUnix, expiresUnix, keyID) ← parseSignatureInput input
  let key ← present (ring.resolveKey .httpRequest keyID) OperatorError.unknownKey
  mask (validateVerificationKey key) OperatorError.unknownKey
  let created := unix createdUnix
  let expires := unix expiresUnix
  refuse (expires ≤ created ∨ expires - created > verifier.maxLifetime) OperatorError.malformed
  refuse (created > now + verifier.clockSkew) OperatorError.notYetValid
  refuse (expires ≤ now - verifier.clockSkew) OperatorError.expired
  refuse (created < key.notBefore - verifier.clockSkew ∨
    expires > key.notAfter + verifier.clockSkew ∨ now > key.notAfter + verifier.clockSkew)
    OperatorError.keyInactive
  let operatorID ← singleHeader request "X-Operator-Id"
  refuse (operatorID ≠ key.operatorID) OperatorError.tenantMismatch
  let requestID ← singleHeader request "X-Request-Id"
  refuse (identifierPattern requestID = false) OperatorError.malformed
  let idempotencyKey ← singleHeader request "Idempotency-Key"
  refuse (identifierPattern idempotencyKey = false) OperatorError.malformed
  let nonce ← singleHeader request "X-Nonce"
  refuse (validNonce nonce = false) OperatorError.malformed
  let digestHeader ← singleHeader request "Content-Digest"
  let digest ← mask (decodeFixedBase64 "sha-256=:" digestHeader 32) OperatorError.contentDigest
  refuse (digest ≠ crypto.sha256 request.body) OperatorError.contentDigest
  let canonical ← canonicalRequest request input
  let signatureHeader ← singleHeader request "Signature"
  let signature ← mask (decodeFixedBase64 "sig1=:" signatureHeader 64) OperatorError.signatureInvalid
  refuse (crypto.verify key.publicKey canonical signature = false) OperatorError.signatureInvalid
  let identity : RequestIdentity :=
    { operatorID := key.operatorID, keyID := key.keyID, requestID := requestID
      idempotencyKey := idempotencyKey, nonce := nonce, created := created, expires := expires }
  pure { identity with verifiedBy := verifier.id, binding := identity }

/-! ## What an accepted request is -/

section Accepted

variable {request other : HttpRequest} {name value : String}

theorem singleHeader_clean (single : singleHeader request name = .ok value) :
    '\n' ∉ value.toList := by
  unfold singleHeader at single
  split at single
  next found same =>
    split at single
    next => cases single
    next clean =>
      obtain rfl := Except.ok.inj single
      intro member
      apply clean
      exact .inr (List.any_eq_true.mpr ⟨'\n', member, by decide⟩)
  next => cases single

/-- A line is a label and a value; equal lines with one label have one value. -/
theorem label_inj {label left right : String} (same : label ++ left = label ++ right) :
    left = right := by
  have same := congrArg String.toList same
  rw [String.toList_append, String.toList_append] at same
  exact String.toList_injective (List.append_cancel_left same)

/-- No value spans lines. -/
structure CanonicalFields.Clean (fields : CanonicalFields) : Prop where
  method : '\n' ∉ fields.method.toList
  authority : '\n' ∉ fields.authority.toList
  path : '\n' ∉ fields.path.toList
  digest : '\n' ∉ fields.digest.toList
  contentType : '\n' ∉ fields.contentType.toList
  operatorID : '\n' ∉ fields.operatorID.toList
  requestID : '\n' ∉ fields.requestID.toList
  nonce : '\n' ∉ fields.nonce.toList
  idempotencyKey : '\n' ∉ fields.idempotencyKey.toList

theorem all_clean {holds : Char → Bool} {text : String} (all : text.toList.all holds = true)
    (excluded : holds '\n' = false) : '\n' ∉ text.toList := by
  intro member
  have here := List.all_eq_true.mp all '\n' member
  rw [excluded] at here
  cases here

theorem matchesPattern_clean {first rest : Char → Bool} {least most : Nat} {text : String}
    (matched : matchesPattern first rest least most text = true) (head : first '\n' = false)
    (tail : rest '\n' = false) : '\n' ∉ text.toList := by
  unfold matchesPattern at matched
  split at matched
  next => cases matched
  next c cs same =>
    simp only [Bool.and_eq_true] at matched
    rw [same]
    intro member
    rcases List.mem_cons.mp member with rfl | later
    · rw [head] at matched
      cases matched.1.1.1
    · have here := List.all_eq_true.mp matched.1.1.2 '\n' later
      rw [tail] at here
      cases here

/-- The path that is signed: an empty one stands for the root. -/
def HttpRequest.path (request : HttpRequest) : String :=
  if request.escapedPath = "" then "/" else request.escapedPath

/-- The lines are about the request. -/
structure CanonicalFields.Of (fields : CanonicalFields) (request : HttpRequest) : Prop where
  query : request.rawQuery = "" ∧ request.forceQuery = false
  method : fields.method = request.method
  authority : fields.authority = toLower request.host
  path : fields.path = request.path
  digest : singleHeader request "Content-Digest" = .ok fields.digest
  contentType : singleHeader request "Content-Type" = .ok fields.contentType
  operatorID : singleHeader request "X-Operator-Id" = .ok fields.operatorID
  requestID : singleHeader request "X-Request-Id" = .ok fields.requestID
  nonce : singleHeader request "X-Nonce" = .ok fields.nonce
  idempotencyKey : singleHeader request "Idempotency-Key" = .ok fields.idempotencyKey

theorem canonicalRequest_ok {input text : String} (accepted : canonicalRequest request input = .ok text) :
    ∃ fields : CanonicalFields, fields.Clean ∧ text = "\n".intercalate (fields.lines input) ∧
      fields.Of request := by
  simp only [canonicalRequest, bind_ok, refuse_ok, exists_unit, pure_ok, not_or, not_not,
    Bool.not_eq_false, Bool.not_eq_true] at accepted
  obtain ⟨query, ⟨_, method⟩, authority, ⟨_, path⟩, contentType, type, _, digest, body, operatorID, operator,
    requestID, id, nonce, nonceHeader, idempotencyKey, key, same⟩ := accepted
  refine ⟨_, ?_, same.symm, ⟨query, rfl, rfl, rfl, body, type, operator, id, nonceHeader, key⟩⟩
  constructor
  case method => exact all_clean method (by decide)
  case authority => exact matchesPattern_clean authority (by decide) (by decide)
  case path =>
    intro member
    have here := List.any_eq_false.mp path '\n' member
    exact here (by decide)
  case digest => exact singleHeader_clean body
  case contentType => exact singleHeader_clean type
  case operatorID => exact singleHeader_clean operator
  case requestID => exact singleHeader_clean id
  case nonce => exact singleHeader_clean nonceHeader
  case idempotencyKey => exact singleHeader_clean key

theorem line_clean {label : String} (labelled : '\n' ∉ label.toList) (clean : '\n' ∉ value.toList) :
    '\n' ∉ (label ++ value).toList := by
  rw [String.toList_append, List.mem_append]
  rintro (left | right)
  · exact labelled left
  · exact clean right

theorem trimSignatureLabel_clean (clean : '\n' ∉ value.toList) :
    '\n' ∉ (trimSignatureLabel value).toList := by
  unfold trimSignatureLabel
  split
  next rest dropped =>
    obtain ⟨label, same, _⟩ := List.dropPrefix?_eq_some_iff.mp dropped
    rw [String.toList_ofList]
    intro member
    apply clean
    rw [same]
    exact List.mem_append_right label member
  next => exact clean

theorem CanonicalFields.Clean.lines {fields : CanonicalFields} (clean : fields.Clean) {input : String}
    (cleanInput : '\n' ∉ input.toList) :
    ∀ line ∈ (fields.lines input).map String.toList, '\n' ∉ line := by
  intro line member
  obtain ⟨text, listed, rfl⟩ := List.mem_map.mp member
  simp only [CanonicalFields.lines, List.mem_cons, List.not_mem_nil, or_false] at listed
  rcases listed with rfl | rfl | rfl | rfl | rfl | rfl | rfl | rfl | rfl | rfl
  · exact line_clean (by decide) clean.method
  · exact line_clean (by decide) clean.authority
  · exact line_clean (by decide) clean.path
  · exact line_clean (by decide) clean.digest
  · exact line_clean (by decide) clean.contentType
  · exact line_clean (by decide) clean.operatorID
  · exact line_clean (by decide) clean.requestID
  · exact line_clean (by decide) clean.nonce
  · exact line_clean (by decide) clean.idempotencyKey
  · exact line_clean (by decide) (trimSignatureLabel_clean cleanInput)

theorem trimSignatureLabel_inj {input input' : String} {rest rest' : List Char}
    (labelled : input.toList.dropPrefix? "sig1=".toList = some rest)
    (labelled' : input'.toList.dropPrefix? "sig1=".toList = some rest')
    (same : trimSignatureLabel input = trimSignatureLabel input') : input = input' := by
  rw [trimSignatureLabel, trimSignatureLabel, labelled, labelled'] at same
  have same : rest = rest' := String.ofList_injective same
  obtain ⟨label, whole, equal⟩ := List.dropPrefix?_eq_some_iff.mp labelled
  obtain ⟨label', whole', equal'⟩ := List.dropPrefix?_eq_some_iff.mp labelled'
  apply String.toList_injective
  rw [whole, whole', same, eq_of_beq equal, eq_of_beq equal']

/-- The text that the signature of a request covers. -/
def signedText (request : HttpRequest) : Except OperatorError String := do
  let input ← singleHeader request "Signature-Input"
  canonicalRequest request input

/-- What `Authenticate` has checked of a request it lets through. -/
structure Authenticated (verifier : RequestVerifier) (now : Time) (request : HttpRequest)
    (verified : VerifiedRequest) : Prop where
  signed : ∃ input text createdUnix expiresUnix, singleHeader request "Signature-Input" = .ok input ∧
    parseSignatureInput input = .ok (createdUnix, expiresUnix, verified.keyID) ∧
    verified.created = unix createdUnix ∧ verified.expires = unix expiresUnix ∧
    canonicalRequest request input = .ok text
  operatorID : singleHeader request "X-Operator-Id" = .ok verified.operatorID
  nonce : singleHeader request "X-Nonce" = .ok verified.nonce
  identifiers : identifierPattern verified.operatorID = true ∧ identifierPattern verified.keyID = true ∧
    identifierPattern verified.requestID = true ∧ identifierPattern verified.idempotencyKey = true ∧
    validNonce verified.nonce = true
  window : verified.created < verified.expires ∧
    verified.expires - verified.created ≤ verifier.maxLifetime
  started : verified.created ≤ now + verifier.clockSkew
  running : now - verifier.clockSkew < verified.expires
  bound : verified.verifiedBy = verifier.id ∧ verified.binding = verified.toRequestIdentity

theorem validateVerificationKey_ok {key : VerificationKey}
    (valid : validateVerificationKey key = .ok ()) :
    identifierPattern key.keyID = true ∧ identifierPattern key.operatorID = true := by
  simp only [validateVerificationKey, bind_ok, refuse_ok, exists_unit, not_or, Bool.not_eq_false] at valid
  exact valid.1

theorem authenticate_ok {verifier : RequestVerifier} {crypto : Crypto} {ring : KeyRing} {now : Time}
    {verified : VerifiedRequest}
    (accepted : verifier.authenticate crypto ring now request = .ok verified) :
    Authenticated verifier now request verified := by
  simp only [RequestVerifier.authenticate, bind_ok, refuse_ok, exists_unit, pure_ok, Prod.exists,
    present_ok, mask_ok, not_or, not_not, gt_iff_lt, Bool.not_eq_false] at accepted
  obtain ⟨_, input, signed, createdUnix, expiresUnix, keyID, parsed, key, resolved, valid,
    ⟨ordered, short⟩, started, running, _, operatorID, operator, rfl, requestID, _, requestValid,
    idempotencyKey, _, keyValid, nonce, nonceHeader, nonceValid, _, _, _, _, _, text, canonical,
    _, _, _, _, _, rfl⟩ := accepted
  have keyID := KeyRing.resolveKey_keyID resolved
  subst keyID
  have identifiers := validateVerificationKey_ok valid
  constructor
  case signed => exact ⟨input, text, createdUnix, expiresUnix, signed, parsed, rfl, rfl, canonical⟩
  case operatorID => exact operator
  case nonce => exact nonceHeader
  case identifiers => exact ⟨identifiers.2, identifiers.1, requestValid, keyValid, nonceValid⟩
  case window => exact ⟨Int.not_le.mp ordered, Int.not_lt.mp short⟩
  case started => exact Int.not_lt.mp started
  case running => exact Int.not_le.mp running
  case bound => exact ⟨rfl, rfl⟩

theorem parseSignatureInput_labelled {input : String} {parameters : Nat × Nat × String}
    (parsed : parseSignatureInput input = .ok parameters) :
    ∃ rest, input.toList.dropPrefix? "sig1=".toList = some rest := by
  have parsed := present_ok.mp parsed
  obtain ⟨rest, dropped, _⟩ := Option.bind_eq_some_iff.mp parsed
  exact ⟨rest, dropped⟩

end Accepted

end SlotsGame.Operator
