/-
# SlotsGame.Operator.Exchange -- the two signatures of one exchange

A client signs its request under its own key, and believes a response that the
operator signed.  The canonical text of a response is its status, the digest of
its body and the identifier of the request that it answers; `signResponse` signs it, and
`ResponseVerifier.verify` checks the window, the key's operator, all three, and the
signature.
-/
import SlotsGame.Operator.Signature

namespace SlotsGame.Operator

open SlotsGame.Rgs SlotsGame.Text SlotsGame.Theory

set_option autoImplicit false

/-! ## Signing a request -/

structure SigningKey where
  keyID : String
  operatorID : String
  purpose : KeyPurpose
  privateKey : List UInt8
  notBefore : Time
  notAfter : Time

/-- `validateSigningKey` -/
def validateSigningKey (key : SigningKey) : Except OperatorError Unit := do
  refuse (identifierPattern key.keyID = false ∨ identifierPattern key.operatorID = false)
    OperatorError.malformed
  refuse (key.purpose ≠ .httpRequest ∧ key.purpose ≠ .httpResponse ∧ key.purpose ≠ .accessToken)
    OperatorError.malformed
  refuse (key.privateKey.length ≠ 64) OperatorError.malformed
  refuse (key.notBefore = 0 ∨ key.notAfter = 0 ∨ key.notAfter ≤ key.notBefore) OperatorError.malformed

structure RequestSignatureParams where
  requestID : String
  idempotencyKey : String
  nonce : String
  created : Time
  expires : Time

/-- `Truncate(time.Second)` -/
def truncateSecond (instant : Time) : Time := instant / Duration.second * Duration.second

/-- `Unix` -/
def unixSeconds (instant : Time) : Int := instant / Duration.second - unixToInternal

/-- `Header.Set` -/
def HttpRequest.set (request : HttpRequest) (name value : String) : HttpRequest :=
  { request with header := fun other => if other = name then [value] else request.header other }

/-- `makeContentDigest` -/
def makeContentDigest (crypto : Crypto) (body : List UInt8) : String :=
  "sha-256=:" ++ String.ofList (stdEncoding.encode (crypto.sha256 body)) ++ ":"

/-- `formatSignatureInput` -/
def formatSignatureInput (created expires : Int) (keyID : String) : String :=
  "sig1=" ++ fixedSignatureComponentSet ++ ";created=" ++ toString created ++ ";expires=" ++
    toString expires ++ ";keyid=\"" ++ keyID ++ "\";alg=\"ed25519\""

/-- `SignRequest`; `sign` is `ed25519.Sign`. -/
def signRequest (crypto : Crypto) (sign : List UInt8 → String → List UInt8) (request : HttpRequest)
    (body : List UInt8) (key : SigningKey) (params : RequestSignatureParams) :
    Except OperatorError HttpRequest := do
  refuse (body.length > maximumSignedRequestBody) OperatorError.malformed
  validateSigningKey key
  refuse (key.purpose ≠ .httpRequest) OperatorError.malformed
  refuse (identifierPattern params.requestID = false ∨
    identifierPattern params.idempotencyKey = false ∨ validNonce params.nonce = false)
    OperatorError.malformed
  let created := truncateSecond params.created
  let expires := truncateSecond params.expires
  refuse (created = 0 ∨ expires = 0 ∨ expires ≤ created ∨
    expires - created > defaultSignatureLifetime) OperatorError.malformed
  refuse (created < key.notBefore ∨ expires > key.notAfter) OperatorError.keyInactive
  let input := formatSignatureInput (unixSeconds created) (unixSeconds expires) key.keyID
  let labelled :=
    ((((((request.set "Content-Type" "application/json").set "X-Operator-Id" key.operatorID).set
      "X-Request-Id" params.requestID).set "Idempotency-Key" params.idempotencyKey).set
      "X-Nonce" params.nonce).set "Content-Digest" (makeContentDigest crypto body)).set
      "Signature-Input" input
  let canonical ← canonicalRequest labelled input
  let signature := String.ofList (stdEncoding.encode (sign key.privateKey canonical))
  return labelled.set "Signature" ("sig1=:" ++ signature ++ ":")

/-! ## The text of a response -/

/-- A response as it arrives: its body is read until it ends or breaks off. -/
structure HttpResponse where
  statusCode : Int
  header : String → List String
  body : List UInt8
  brokenOff : Bool := false

/-- `singleHeader` of a response. -/
def HttpResponse.singleHeader (response : HttpResponse) (name : String) :
    Except OperatorError String :=
  match response.header name with
  | [value] => if value = "" ∨ value.toList.any lineBreak = true then .error .malformed else .ok value
  | _ => .error .malformed

/-- `fixedResponseComponentSet` -/
def fixedResponseComponentSet : String :=
  "(\"@status\" \"content-digest\" \"content-type\" \"x-request-id\")"

/-- The parameters of the profile with the given components. -/
def parseInputOf (components value : String) : Except OperatorError (Nat × Nat × String) :=
  let parsed : Option (Nat × Nat × String) := do
    let rest ← value.toList.dropPrefix? "sig1=".toList
    let rest ← rest.dropPrefix? components.toList
    let rest ← rest.dropPrefix? ";created=".toList
    let created ← parseSeconds (rest.takeWhile Char.isDigit)
    let rest ← (rest.dropWhile Char.isDigit).dropPrefix? ";expires=".toList
    let expires ← parseSeconds (rest.takeWhile Char.isDigit)
    let rest ← (rest.dropWhile Char.isDigit).dropPrefix? ";keyid=\"".toList
    let keyID := String.ofList (rest.takeWhile identifierChar)
    if identifierPattern keyID = true ∧
        rest.dropWhile identifierChar = "\";alg=\"ed25519\"".toList then
      some (created, expires, keyID)
    else none
  present parsed .malformed

/-- Requests and responses are read by one profile. -/
theorem parseSignatureInput_eq (value : String) :
    parseSignatureInput value = parseInputOf fixedSignatureComponentSet value := rfl

def parseResponseSignatureInput (value : String) : Except OperatorError (Nat × Nat × String) :=
  parseInputOf fixedResponseComponentSet value

def canonicalResponse (response : HttpResponse) (signatureInput : String) :
    Except OperatorError String := do
  refuse (response.statusCode < 100 ∨ response.statusCode > 599) OperatorError.malformed
  let contentType ← mask (response.singleHeader "Content-Type") OperatorError.malformed
  refuse (contentType ≠ "application/json") OperatorError.malformed
  let digest ← response.singleHeader "Content-Digest"
  let requestID ← response.singleHeader "X-Request-Id"
  return "\n".intercalate
    [ "\"@status\": " ++ toString response.statusCode, "\"content-digest\": " ++ digest,
      "\"content-type\": " ++ contentType, "\"x-request-id\": " ++ requestID,
      "\"@signature-params\": " ++ trimSignatureLabel signatureInput ]

/-! ## Signing a response -/

structure ResponseSignatureParams where
  requestID : String
  created : Time
  expires : Time

/-- The profile with the given components, written out. -/
def formatInputOf (components : String) (created expires : Int) (keyID : String) : String :=
  "sig1=" ++ components ++ ";created=" ++ toString created ++ ";expires=" ++ toString expires ++
    ";keyid=\"" ++ keyID ++ "\";alg=\"ed25519\""

theorem formatSignatureInput_eq (created expires : Int) (keyID : String) :
    formatSignatureInput created expires keyID =
      formatInputOf fixedSignatureComponentSet created expires keyID := rfl

def formatResponseSignatureInput (created expires : Int) (keyID : String) : String :=
  formatInputOf fixedResponseComponentSet created expires keyID

/-- `Header.Set` of a response. -/
def HttpResponse.set (response : HttpResponse) (name value : String) : HttpResponse :=
  { response with header := fun other => if other = name then [value] else response.header other }

/-- `SignResponse` -/
def signResponse (crypto : Crypto) (sign : List UInt8 → String → List UInt8)
    (response : HttpResponse) (body : List UInt8) (key : SigningKey)
    (params : ResponseSignatureParams) : Except OperatorError HttpResponse := do
  refuse (body.length > maximumSignedRequestBody ∨ identifierPattern params.requestID = false)
    OperatorError.malformed
  validateSigningKey key
  refuse (key.purpose ≠ .httpResponse) OperatorError.malformed
  let created := truncateSecond params.created
  let expires := truncateSecond params.expires
  refuse (created = 0 ∨ expires ≤ created ∨ expires - created > defaultSignatureLifetime ∨
    created < key.notBefore ∨ expires > key.notAfter) OperatorError.malformed
  let input := formatResponseSignatureInput (unixSeconds created) (unixSeconds expires) key.keyID
  let labelled :=
    (((response.set "Content-Type" "application/json").set "Content-Digest"
      (makeContentDigest crypto body)).set "X-Request-Id" params.requestID).set
      "Signature-Input" input
  let canonical ← canonicalResponse labelled input
  let signature := String.ofList (stdEncoding.encode (sign key.privateKey canonical))
  return labelled.set "Signature" ("sig1=:" ++ signature ++ ":")

/-! ## Believing a response -/

/-- `ResponseVerifier`; `keys` is any `KeyResolver`. -/
structure ResponseVerifier where
  keys : KeyPurpose → String → Except OperatorError (Option VerificationKey)
  clockSkew : Duration
  maxLifetime : Duration

/-- `NewResponseVerifier`, with the lifetime its option leaves open filled in. -/
def newResponseVerifier (keys : KeyPurpose → String → Except OperatorError (Option VerificationKey))
    (clockSkew maxLifetime : Duration) : Except OperatorError ResponseVerifier := do
  refuse (clockSkew < 0 ∨ maxLifetime < 0) OperatorError.malformed
  let maxLifetime := if maxLifetime = 0 then defaultSignatureLifetime else maxLifetime
  return { keys := keys, clockSkew := clockSkew, maxLifetime := maxLifetime }

/-- `Verify`, of the bytes of the body that were read. -/
def ResponseVerifier.verify (verifier : ResponseVerifier) (crypto : Crypto) (now : Time)
    (response : HttpResponse) (body : List UInt8) (expectedOperatorID expectedRequestID : String) :
    Except OperatorError Unit := do
  refuse (body.length > maximumSignedRequestBody ∨ identifierPattern expectedOperatorID = false ∨
    identifierPattern expectedRequestID = false) OperatorError.malformed
  let input ← response.singleHeader "Signature-Input"
  let (createdUnix, expiresUnix, keyID) ← parseResponseSignatureInput input
  let resolved ← verifier.keys .httpResponse keyID
  let key ← present resolved OperatorError.unknownKey
  mask (validateVerificationKey key) OperatorError.unknownKey
  refuse (key.operatorID ≠ expectedOperatorID) OperatorError.tenantMismatch
  let created := unix createdUnix
  let expires := unix expiresUnix
  refuse (expires ≤ created ∨ expires - created > verifier.maxLifetime) OperatorError.malformed
  refuse (created > now + verifier.clockSkew) OperatorError.notYetValid
  refuse (expires ≤ now - verifier.clockSkew) OperatorError.expired
  refuse (created < key.notBefore - verifier.clockSkew ∨
    expires > key.notAfter + verifier.clockSkew) OperatorError.keyInactive
  let requestID ← mask (response.singleHeader "X-Request-Id") OperatorError.signatureInvalid
  refuse (requestID ≠ expectedRequestID) OperatorError.signatureInvalid
  let digestHeader ← response.singleHeader "Content-Digest"
  let digest ← mask (decodeFixedBase64 "sha-256=:" digestHeader 32) OperatorError.contentDigest
  refuse (digest ≠ crypto.sha256 body) OperatorError.contentDigest
  let canonical ← canonicalResponse response input
  let signatureHeader ← response.singleHeader "Signature"
  let signature ← mask (decodeFixedBase64 "sig1=:" signatureHeader 64) OperatorError.signatureInvalid
  refuse (crypto.verify key.publicKey canonical signature = false) OperatorError.signatureInvalid

end SlotsGame.Operator
