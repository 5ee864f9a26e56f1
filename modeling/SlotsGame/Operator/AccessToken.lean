/-
# SlotsGame.Operator.AccessToken -- compact access tokens

A token is a header and the claims of a session, each an object of JSON in Base64, under
the signature of both.  `issueAt` bounds the fields that it writes, and `verify` the objects
that it reads; what lies between them is the encoding, which may lengthen a text and
replaces what is none (`issued_decoded`).
-/
import SlotsGame.Operator.Agreement
import SlotsGame.Theory.Json

namespace SlotsGame.Operator

open SlotsGame.Rgs SlotsGame.Text SlotsGame.Theory SlotsGame.Theory.Json

set_option autoImplicit false

/-! ## Claims -/

/-- `AccessTokenType` -/
def accessTokenType : String := "RGS-ACCESS"

/-- `AccessTokenAlgorithm` -/
def accessTokenAlgorithm : String := "EdDSA"

/-- `AccessTokenVersion` -/
def accessTokenVersion : Int := 3

/-- `DefaultAccessTokenLifetime` -/
def defaultAccessTokenLifetime : Duration := 15 * Duration.minute

/-- `MaximumCompactTokenBytes` -/
def maximumCompactTokenBytes : Nat := 8192

structure AccessTokenSubject where
  operatorID : String
  playerID : String
  walletSessionID : String
  sessionID : String
  gameID : String
  gameDefinitionVersion : String
  gameDefinitionHash : String
  currency : String
  currencyExponent : Int
  jurisdiction : String
  transportGeneration : Nat

/-- The issuer and the audience are strings of bytes, which need not be texts. -/
structure AccessTokenClaims where
  issuer : List UInt8 := []
  audience : List UInt8 := []
  operatorID : String := ""
  playerID : String := ""
  walletSessionID : String := ""
  sessionID : String := ""
  gameID : String := ""
  gameDefinitionVersion : String := ""
  gameDefinitionHash : String := ""
  currency : String := ""
  currencyExponent : Int := 0
  jurisdiction : String := ""
  issuedAt : Int := 0
  expiresAt : Int := 0
  tokenID : String := ""
  transportGeneration : Nat := 0

structure CompactTokenHeader where
  algorithm : String := ""
  type : String := ""
  keyID : String := ""
  version : Int := 0

/-- `validTextClaim`: what cannot be read counts as a visible character. -/
def validTextClaim (value : List UInt8) (max : Nat) : Bool :=
  decide (value ≠ []) && decide (value.length ≤ max) &&
    (replaced value).all fun c => decide (c.toNat > 0x20) && decide (c.toNat ≠ 0x7f)

/-- `validateAccessSubject` -/
def validateAccessSubject (subject : AccessTokenSubject) : Except OperatorError Unit := do
  refuse (identifierPattern subject.operatorID = false ∨ identifierPattern subject.playerID = false ∨
      identifierPattern subject.walletSessionID = false ∨
      identifierPattern subject.sessionID = false ∨ identifierPattern subject.gameID = false ∨
      identifierPattern subject.gameDefinitionVersion = false ∨
      digestPattern subject.gameDefinitionHash = false ∨
      currencyPattern subject.currency = false ∨ subject.currencyExponent < 0 ∨
      subject.currencyExponent > 6 ∨ jurisdictionPattern subject.jurisdiction = false)
    OperatorError.malformed
  refuse (subject.transportGeneration = 0 ∨ subject.transportGeneration > maxUnix)
    OperatorError.malformed

def AccessTokenClaims.subject (claims : AccessTokenClaims) : AccessTokenSubject :=
  { operatorID := claims.operatorID, playerID := claims.playerID
    walletSessionID := claims.walletSessionID, sessionID := claims.sessionID
    gameID := claims.gameID, gameDefinitionVersion := claims.gameDefinitionVersion
    gameDefinitionHash := claims.gameDefinitionHash, currency := claims.currency
    currencyExponent := claims.currencyExponent, jurisdiction := claims.jurisdiction
    transportGeneration := claims.transportGeneration }

/-- `validateAccessClaims` -/
def validateAccessClaims (claims : AccessTokenClaims) : Except OperatorError Unit := do
  refuse (validTextClaim claims.issuer 256 = false ∨ validTextClaim claims.audience 256 = false ∨
      identifierPattern claims.tokenID = false ∨ claims.issuedAt < 0 ∨ claims.expiresAt < 0)
    OperatorError.malformed
  validateAccessSubject claims.subject

/-! ## The objects of a token -/

/-- A text, as a string of bytes. -/
def textScalar (text : String) : Scalar := .string (encodeUtf8 text.toList)

def CompactTokenHeader.members (header : CompactTokenHeader) : List (String × Scalar) :=
  [("alg", textScalar header.algorithm), ("typ", textScalar header.type),
    ("kid", textScalar header.keyID), ("v", .integer header.version)]

def AccessTokenClaims.members (claims : AccessTokenClaims) : List (String × Scalar) :=
  [("iss", .string claims.issuer), ("aud", .string claims.audience),
    ("operator_id", textScalar claims.operatorID), ("player_id", textScalar claims.playerID),
    ("wallet_session_id", textScalar claims.walletSessionID),
    ("session_id", textScalar claims.sessionID), ("game_id", textScalar claims.gameID),
    ("game_definition_version", textScalar claims.gameDefinitionVersion),
    ("game_definition_hash", textScalar claims.gameDefinitionHash),
    ("currency", textScalar claims.currency),
    ("currency_exponent", .integer claims.currencyExponent),
    ("jurisdiction", textScalar claims.jurisdiction), ("iat", .integer claims.issuedAt),
    ("exp", .integer claims.expiresAt), ("jti", textScalar claims.tokenID),
    ("transport_generation", .integer claims.transportGeneration)]

/-- A field that holds a text. -/
def textField {α : Type} (name : String) (set : String → α → α) : Json.Field α :=
  { name := name, set := setString fun text => set (String.ofList text) }

def headerFields : List (Json.Field CompactTokenHeader) :=
  [textField "alg" fun text header => { header with algorithm := text },
    textField "typ" fun text header => { header with type := text },
    textField "kid" fun text header => { header with keyID := text },
    { name := "v", set := setInt64 fun value header => { header with version := value } }]

def claimFields : List (Json.Field AccessTokenClaims) :=
  [{ name := "iss", set := setString fun text claims => { claims with issuer := encodeUtf8 text } },
    { name := "aud", set := setString fun text claims => { claims with audience := encodeUtf8 text } },
    textField "operator_id" fun text claims => { claims with operatorID := text },
    textField "player_id" fun text claims => { claims with playerID := text },
    textField "wallet_session_id" fun text claims => { claims with walletSessionID := text },
    textField "session_id" fun text claims => { claims with sessionID := text },
    textField "game_id" fun text claims => { claims with gameID := text },
    textField "game_definition_version" fun text claims =>
      { claims with gameDefinitionVersion := text },
    textField "game_definition_hash" fun text claims => { claims with gameDefinitionHash := text },
    textField "currency" fun text claims => { claims with currency := text },
    { name := "currency_exponent"
      set := setInt64 fun value claims => { claims with currencyExponent := value } },
    textField "jurisdiction" fun text claims => { claims with jurisdiction := text },
    { name := "iat", set := setInt64 fun value claims => { claims with issuedAt := value } },
    { name := "exp", set := setInt64 fun value claims => { claims with expiresAt := value } },
    textField "jti" fun text claims => { claims with tokenID := text },
    { name := "transport_generation"
      set := setUint64 fun value claims => { claims with transportGeneration := value } }]

/-- `decodeStrictFlatObject` -/
def decodeStrictFlatObject {α : Type} (fields : List (Json.Field α)) (encoded : List UInt8)
    (target : α) : Except OperatorError α :=
  present (decodeStrict fields encoded target) .malformed

/-! ## Issuing -/

structure AccessTokenIssuer where
  key : SigningKey
  issuer : List UInt8
  audience : List UInt8
  maxLifetime : Duration

/-- The lifetime that options without one stand for. -/
def optionalLifetime (maxLifetime : Duration) : Duration :=
  if maxLifetime = 0 then defaultAccessTokenLifetime else maxLifetime

/-- `NewAccessTokenIssuer` -/
def newAccessTokenIssuer (key : SigningKey) (issuer audience : List UInt8)
    (maxLifetime : Duration) : Except OperatorError AccessTokenIssuer := do
  validateSigningKey key
  refuse (key.purpose ≠ .accessToken) OperatorError.malformed
  refuse (validTextClaim issuer 256 = false ∨ validTextClaim audience 256 = false ∨ maxLifetime < 0)
    OperatorError.malformed
  refuse (optionalLifetime maxLifetime < Duration.second) OperatorError.malformed
  return { key := key, issuer := issuer, audience := audience
           maxLifetime := optionalLifetime maxLifetime }

/-- `newAccessTokenID`, out of sixteen random bytes. -/
def newAccessTokenID (raw : Vector UInt8 16) : String :=
  "at_" ++ String.ofList (rawURLEncoding.encode raw.toList)

/-- `time.Unix(seconds, 0)` -/
def unixTime (seconds : Int) : Time := (seconds + unixToInternal) * Duration.second

def tokenHeader (key : SigningKey) : CompactTokenHeader :=
  { algorithm := accessTokenAlgorithm, type := accessTokenType, keyID := key.keyID
    version := accessTokenVersion }

/-- An object of a token. -/
def encodePart (members : List (String × Scalar)) : List Char :=
  rawURLEncoding.encode (marshalObject members)

namespace AccessTokenIssuer

variable (issuer : AccessTokenIssuer)

/-- The claims of a subject, at the times of a token. -/
def claims (raw : Vector UInt8 16) (subject : AccessTokenSubject) (issuedAt expiresAt : Time) :
    AccessTokenClaims :=
  { issuer := issuer.issuer, audience := issuer.audience, operatorID := subject.operatorID
    playerID := subject.playerID, walletSessionID := subject.walletSessionID
    sessionID := subject.sessionID, gameID := subject.gameID
    gameDefinitionVersion := subject.gameDefinitionVersion
    gameDefinitionHash := subject.gameDefinitionHash, currency := subject.currency
    currencyExponent := subject.currencyExponent, jurisdiction := subject.jurisdiction
    issuedAt := unixSeconds issuedAt, expiresAt := unixSeconds expiresAt
    tokenID := newAccessTokenID raw, transportGeneration := subject.transportGeneration }

/-- The three parts of a token. -/
def parts (scheme : Scheme) (claims : AccessTokenClaims) : List (List Char) :=
  let headerPart := encodePart (tokenHeader issuer.key).members
  let claimsPart := encodePart claims.members
  let signingInput := String.ofList (headerPart ++ '.' :: claimsPart)
  [headerPart, claimsPart, rawURLEncoding.encode (scheme.sign issuer.key.privateKey signingInput)]

/-- `IssueAt`; `raw` are the random bytes of the token's identifier. -/
def issueAt (scheme : Scheme) (raw : Vector UInt8 16) (subject : AccessTokenSubject)
    (lifetime : Duration) (authoritativeNow : Time) :
    Except OperatorError (String × AccessTokenClaims) := do
  validateAccessSubject subject
  refuse (subject.operatorID ≠ issuer.key.operatorID) OperatorError.tenantMismatch
  refuse (lifetime < Duration.second ∨ lifetime > issuer.maxLifetime) OperatorError.malformed
  refuse (authoritativeNow = 0) OperatorError.malformed
  let issuedAt := truncateSecond authoritativeNow
  let expiresAt := truncateSecond (issuedAt + lifetime)
  refuse (issuedAt < issuer.key.notBefore) OperatorError.notYetValid
  refuse (expiresAt > issuer.key.notAfter) OperatorError.keyInactive
  let claims := issuer.claims raw subject issuedAt expiresAt
  return (String.ofList (['.'].intercalate (issuer.parts scheme claims)), claims)

end AccessTokenIssuer

/-! ## Verifying -/

structure AccessTokenVerifier where
  keys : KeyPurpose → String → Except OperatorError (Option VerificationKey)
  expectedIssuer : List UInt8
  expectedAudience : List UInt8
  clockSkew : Duration
  maxLifetime : Duration

/-- `NewAccessTokenVerifier` -/
def newAccessTokenVerifier (keys : KeyPurpose → String → Except OperatorError (Option VerificationKey))
    (expectedIssuer expectedAudience : List UInt8) (clockSkew maxLifetime : Duration) :
    Except OperatorError AccessTokenVerifier := do
  refuse (validTextClaim expectedIssuer 256 = false ∨ validTextClaim expectedAudience 256 = false)
    OperatorError.malformed
  refuse (clockSkew < 0 ∨ maxLifetime < 0) OperatorError.malformed
  refuse (optionalLifetime maxLifetime < Duration.second) OperatorError.malformed
  return { keys := keys, expectedIssuer := expectedIssuer, expectedAudience := expectedAudience
           clockSkew := clockSkew, maxLifetime := optionalLifetime maxLifetime }

/-- `decodeRawURLPart` -/
def decodeRawURLPart (value : List Char) (maxDecodedBytes : Nat) :
    Except OperatorError (List UInt8) := do
  refuse (value = [] ∨ '=' ∈ value ∨ (encodeUtf8 value).length > maxDecodedBytes * 2)
    OperatorError.malformed
  let decoded ← present (rawURLEncoding.decodeCanonical (String.ofList value)) .malformed
  refuse (decoded.length > maxDecodedBytes) OperatorError.malformed
  return decoded

namespace AccessTokenVerifier

variable (verifier : AccessTokenVerifier)

/-- The header of a token, and the key that it names. -/
def resolveHeader (headerPart : List Char) : Except OperatorError VerificationKey := do
  let headerJSON ← decodeRawURLPart headerPart 1024
  let header ← decodeStrictFlatObject headerFields headerJSON {}
  refuse (header.algorithm ≠ accessTokenAlgorithm ∨ header.type ≠ accessTokenType ∨
      header.version ≠ accessTokenVersion ∨ identifierPattern header.keyID = false)
    OperatorError.malformed
  let found ← verifier.keys .accessToken header.keyID
  let key ← present found .unknownKey
  mask (validateVerificationKey key) .unknownKey
  return key

/-- The claims of a token that its key has signed, against the tenant and the clock. -/
def checkClaims (key : VerificationKey) (claims : AccessTokenClaims) (expectedOperatorID : String)
    (now : Time) : Except OperatorError Unit := do
  validateAccessClaims claims
  refuse (claims.operatorID ≠ key.operatorID ∨ claims.operatorID ≠ expectedOperatorID)
    OperatorError.tenantMismatch
  refuse (claims.issuer ≠ verifier.expectedIssuer) OperatorError.issuerMismatch
  refuse (claims.audience ≠ verifier.expectedAudience) OperatorError.audienceMismatch
  let issuedAt := unixTime claims.issuedAt
  let expiresAt := unixTime claims.expiresAt
  refuse (expiresAt ≤ issuedAt ∨ expiresAt - issuedAt > verifier.maxLifetime)
    OperatorError.malformed
  refuse (issuedAt > now + verifier.clockSkew) OperatorError.notYetValid
  refuse (expiresAt ≤ now - verifier.clockSkew) OperatorError.expired
  refuse (issuedAt < key.notBefore - verifier.clockSkew ∨
      expiresAt > key.notAfter + verifier.clockSkew ∨ now > key.notAfter + verifier.clockSkew)
    OperatorError.keyInactive

/-- `Verify` -/
def verify (crypto : Crypto) (now : Time) (token expectedOperatorID : String) :
    Except OperatorError AccessTokenClaims := do
  refuse (token = "" ∨ (encodeUtf8 token.toList).length > maximumCompactTokenBytes ∨
    identifierPattern expectedOperatorID = false) OperatorError.malformed
  match token.toList.splitOn '.' with
  | [headerPart, claimsPart, signaturePart] => do
      let key ← verifier.resolveHeader headerPart
      let signature ← mask (decodeRawURLPart signaturePart 128) .signatureInvalid
      let signingInput := String.ofList (headerPart ++ '.' :: claimsPart)
      refuse (signature.length ≠ 64 ∨ crypto.verify key.publicKey signingInput signature = false)
        OperatorError.signatureInvalid
      let claimsJSON ← decodeRawURLPart claimsPart 4096
      let claims ← decodeStrictFlatObject claimFields claimsJSON {}
      verifier.checkClaims key claims expectedOperatorID now
      return claims
  | _ => throw OperatorError.malformed

end AccessTokenVerifier

/-! ## The parts of a token -/

namespace Base64

theorem rawURLEncoding_encode (bytes : List UInt8) :
    rawURLEncoding.encode bytes = (sextets bytes).map rawURLEncoding.digit := by
  obtain ⟨count, same⟩ := @encode_eq rawURLEncoding bytes
  rw [same]
  exact List.append_nil _

/-- The letters of a part: none is a dot or a padding, and each takes one byte. -/
theorem rawURLEncoding_letters : ∀ value < 64, rawURLEncoding.digit value ≠ '.' ∧
    rawURLEncoding.digit value ≠ '=' ∧ (rawURLEncoding.digit value).utf8Size = 1 ∧
    identifierChar (rawURLEncoding.digit value) = true := by
  decide +kernel

theorem mem_rawURLEncoding {bytes : List UInt8} {c : Char}
    (member : c ∈ rawURLEncoding.encode bytes) :
    c ≠ '.' ∧ c ≠ '=' ∧ c.utf8Size = 1 ∧ identifierChar c = true := by
  rw [rawURLEncoding_encode] at member
  obtain ⟨value, there, rfl⟩ := List.mem_map.mp member
  exact rawURLEncoding_letters value (sextets_lt bytes value there)

/-- Three bytes are four letters. -/
theorem length_rawURLEncoding (bytes : List UInt8) :
    (rawURLEncoding.encode bytes).length = (4 * bytes.length + 2) / 3 := by
  rw [rawURLEncoding_encode, List.length_map]
  induction bytes using sextets.induct with
  | case1 first second third rest ih =>
      simp only [sextets, List.length_cons]
      omega
  | case2 first second => simp [sextets]
  | case3 first => simp [sextets]
  | case4 => rfl

end Base64

theorem Base64.length_encoded (bytes : List UInt8) :
    (encodeUtf8 (rawURLEncoding.encode bytes)).length = (4 * bytes.length + 2) / 3 := by
  rw [encodeUtf8_ascii fun c member => (mem_rawURLEncoding member).2.2.1, length_rawURLEncoding]

/-- A part is read back if it is not too long. -/
theorem decodeRawURLPart_encode {bytes decoded : List UInt8} {maxDecodedBytes : Nat} :
    decodeRawURLPart (rawURLEncoding.encode bytes) maxDecodedBytes = .ok decoded ↔
      decoded = bytes ∧ bytes ≠ [] ∧ bytes.length ≤ maxDecodedBytes := by
  have length := Base64.length_rawURLEncoding bytes
  have filled : bytes ≠ [] → rawURLEncoding.encode bytes ≠ [] := by
    intro some none
    have least := List.length_pos_of_ne_nil some
    rw [none, List.length_nil] at length
    omega
  have padding : '=' ∉ rawURLEncoding.encode bytes := fun member =>
    (Base64.mem_rawURLEncoding member).2.1 rfl
  simp only [decodeRawURLPart, bind_ok, refuse_ok, exists_unit, present_ok, pure_ok, not_or, not_lt,
    Base64.rawURLEncoding_sound.decodeCanonical_encode, Option.some.injEq, gt_iff_lt,
    Base64.length_encoded]
  constructor
  · rintro ⟨⟨some, _, _⟩, _, rfl, short, rfl⟩
    refine ⟨rfl, ?_, short⟩
    rintro rfl
    exact some rfl
  · rintro ⟨rfl, some, short⟩
    refine ⟨⟨filled some, padding, ?_⟩, _, rfl, short, rfl⟩
    have least : 0 < decoded.length := List.length_pos_of_ne_nil some
    omega

theorem marshalObject_filled (members : List (String × Scalar)) : marshalObject members ≠ [] := by
  intro empty
  have same := congrArg replaced empty
  rw [marshalObject, replaced_encode] at same
  cases same

/-! ## What is issued is decoded -/

theorem replaced_text (text : String) :
    String.ofList (replaced (encodeUtf8 text.toList)) = text := by
  rw [replaced_encode, String.ofList_toList]

/-- The header is read as it was written. -/
theorem header_decoded {header : CompactTokenHeader} (least : -2 ^ 63 ≤ header.version)
    (most : header.version < 2 ^ 63) :
    decodeStrictFlatObject headerFields (marshalObject header.members) {} = .ok header := by
  have number := parseInt64_decimal least most
  have algorithm := replaced_text header.algorithm
  have type := replaced_text header.type
  have keyID := replaced_text header.keyID
  unfold decodeStrictFlatObject
  rw [decodeStrict_record (by decide) rfl, present_ok]
  simp [headerFields, CompactTokenHeader.members, textField, textScalar, Scalar.read, setString,
    setInt64, number, algorithm, type, keyID]

/-- The claims, with what is no text in them replaced. -/
def AccessTokenClaims.asText (claims : AccessTokenClaims) : AccessTokenClaims :=
  { claims with
    issuer := encodeUtf8 (replaced claims.issuer)
    audience := encodeUtf8 (replaced claims.audience) }

/-- The numbers of the claims are numbers of the source. -/
structure AccessTokenClaims.Representable (claims : AccessTokenClaims) : Prop where
  exponent : -2 ^ 63 ≤ claims.currencyExponent ∧ claims.currencyExponent < 2 ^ 63
  issuedAt : -2 ^ 63 ≤ claims.issuedAt ∧ claims.issuedAt < 2 ^ 63
  expiresAt : -2 ^ 63 ≤ claims.expiresAt ∧ claims.expiresAt < 2 ^ 63
  generation : claims.transportGeneration < 2 ^ 64

/-- The claims are read as they were written, but for what is no text. -/
theorem issued_decoded {claims : AccessTokenClaims} (fits : claims.Representable) :
    decodeStrictFlatObject claimFields (marshalObject claims.members) {} = .ok claims.asText := by
  have exponent := parseInt64_decimal fits.exponent.1 fits.exponent.2
  have issuedAt := parseInt64_decimal fits.issuedAt.1 fits.issuedAt.2
  have expiresAt := parseInt64_decimal fits.expiresAt.1 fits.expiresAt.2
  have generation := parseUint64_decimal fits.generation
  unfold decodeStrictFlatObject
  rw [decodeStrict_record (by decide) rfl, present_ok]
  simp only [claimFields, AccessTokenClaims.members, textField, textScalar, List.map_cons,
    List.map_nil, List.zip_cons_cons, List.zip_nil_right, List.foldlM_cons, List.foldlM_nil,
    Scalar.read, setString, setInt64, setUint64, replaced_text, exponent, issuedAt, expiresAt,
    generation, Option.map_some, Option.bind_eq_bind, Option.bind_some, Option.pure_def]
  rfl

/-! ## Lengths -/

theorem identifierChar_small {c : Char} (letter : identifierChar c = true) : c.toNat < 128 := by
  simp only [identifierChar, Char.isAlphanum, Text.isAlpha_eq, Text.isUpper_eq, Text.isLower_eq,
    Char.isDigit, Bool.or_eq_true, Bool.and_eq_true, decide_eq_true_eq, beq_iff_eq, ge_iff_le,
    UInt32.le_iff_toNat_le] at letter
  show c.val.toNat < 128
  rcases letter with ((((((⟨_, most⟩ | ⟨_, most⟩) | ⟨_, most⟩) | rfl) | rfl) | rfl) | rfl)
  · exact Nat.lt_of_le_of_lt most (by decide)
  · exact Nat.lt_of_le_of_lt most (by decide)
  · exact Nat.lt_of_le_of_lt most (by decide)
  all_goals decide

/-- The letters of identifiers are written as they are. -/
theorem identifierChar_plain {c : Char} (letter : identifierChar c = true) : Plain c := by
  have all : ∀ code < 128, identifierChar (Char.ofNat code) = true →
      shorthand (Char.ofNat code) = none ∧ numbered (Char.ofNat code) = false ∧
        (Char.ofNat code).utf8Size = 1 := by
    decide +kernel
  have plain := all c.toNat (identifierChar_small letter)
  rw [Char.ofNat_toNat] at plain
  exact plain letter

/-- A text of letters that stand for themselves. -/
def PlainText (text : String) : Prop := ∀ c ∈ text.toList, identifierChar c = true

instance (text : String) : Decidable (PlainText text) :=
  List.decidableBAll (fun c => identifierChar c = true) text.toList

theorem PlainText.length {text : String} (plain : PlainText text) :
    (textScalar text).length = text.length + 2 := by
  have quoted := quotedLength_plain fun c member => identifierChar_plain (plain c member)
  rw [String.length_toList] at quoted
  exact quoted

theorem matchesPattern_plain {first rest : Char → Bool} {least most : Nat} {text : String}
    (matched : matchesPattern first rest least most text = true)
    (letters : ∀ c, first c = true ∨ rest c = true → identifierChar c = true) :
    PlainText text ∧ least < text.length ∧ text.length ≤ most + 1 := by
  unfold matchesPattern at matched
  split at matched
  next => cases matched
  next c cs same =>
    simp only [Bool.and_eq_true, decide_eq_true_eq] at matched
    obtain ⟨⟨⟨head, tail⟩, short⟩, long⟩ := matched
    have length : text.length = cs.length + 1 := by
      rw [← String.length_toList, same, List.length_cons]
    refine ⟨?_, by omega, by omega⟩
    intro other member
    rw [same] at member
    rcases List.mem_cons.mp member with rfl | later
    · exact letters other (.inl head)
    · exact letters other (.inr (List.all_eq_true.mp tail other later))

theorem upperAlphanum_identifier {c : Char} (upper : upperAlphanum c = true) :
    identifierChar c = true := by
  simp only [upperAlphanum, Bool.or_eq_true] at upper
  simp only [identifierChar, Char.isAlphanum, Text.isAlpha_eq, Bool.or_eq_true]
  tauto

theorem lowerHexChar_identifier {c : Char} (hex : lowerHexChar c = true) :
    identifierChar c = true := by
  simp only [lowerHexChar, Bool.or_eq_true, Bool.and_eq_true, decide_eq_true_eq] at hex
  rcases hex with digit | ⟨least, most⟩
  · simp [identifierChar, Char.isAlphanum, digit]
  · have upper : c ≤ 'z' := Char.le_trans most (by decide)
    simp only [identifierChar, Char.isAlphanum, Text.isAlpha_eq, Text.isLower_eq, Bool.or_eq_true,
      Bool.and_eq_true, decide_eq_true_eq]
    exact .inl (.inl (.inl (.inl (.inl (.inr ⟨least, upper⟩)))))

/-- The texts of a subject that is accepted. -/
structure AccessTokenSubject.Sized (subject : AccessTokenSubject) : Prop where
  operatorID : PlainText subject.operatorID
  playerID : PlainText subject.playerID
  walletSessionID : PlainText subject.walletSessionID
  sessionID : PlainText subject.sessionID
  gameID : PlainText subject.gameID
  gameDefinitionVersion : PlainText subject.gameDefinitionVersion
  gameDefinitionHash : PlainText subject.gameDefinitionHash ∧ subject.gameDefinitionHash.length = 64
  currency : PlainText subject.currency ∧ subject.currency.length = 3
  jurisdiction : PlainText subject.jurisdiction
  exponent : 0 ≤ subject.currencyExponent ∧ subject.currencyExponent ≤ 6
  generation : subject.transportGeneration ≤ maxUnix

theorem identifier_plain {text : String} (valid : identifierPattern text = true) :
    PlainText text ∧ text.length ≤ 128 := by
  obtain ⟨plain, _, most⟩ := matchesPattern_plain valid (by
    rintro c (alphanum | letter)
    · simp [identifierChar, alphanum]
    · exact letter)
  exact ⟨plain, most⟩

theorem validateAccessSubject_sized {subject : AccessTokenSubject}
    (valid : validateAccessSubject subject = .ok ()) : subject.Sized := by
  simp only [validateAccessSubject, bind_ok, refuse_ok, exists_unit, not_or, not_lt,
    Bool.not_eq_false, gt_iff_lt] at valid
  obtain ⟨⟨operator, player, wallet, session, game, version, hash, currency, least, most,
    jurisdiction⟩, _, generation⟩ := valid
  obtain ⟨hashPlain, hashLeast, hashMost⟩ := matchesPattern_plain hash (by
    rintro c (hex | hex) <;> exact lowerHexChar_identifier hex)
  obtain ⟨currencyPlain, currencyLeast, currencyMost⟩ := matchesPattern_plain currency (by
    rintro c (upper | upper) <;> simp [identifierChar, Char.isAlphanum, Text.isAlpha_eq, upper])
  obtain ⟨jurisdictionPlain, _, _⟩ := matchesPattern_plain jurisdiction (by
    rintro c (upper | upper)
    · exact upperAlphanum_identifier upper
    · simp only [Bool.or_eq_true, beq_iff_eq] at upper
      rcases upper with upper | rfl
      · exact upperAlphanum_identifier upper
      · decide)
  exact
    { operatorID := (identifier_plain operator).1, playerID := (identifier_plain player).1
      walletSessionID := (identifier_plain wallet).1, sessionID := (identifier_plain session).1
      gameID := (identifier_plain game).1, gameDefinitionVersion := (identifier_plain version).1
      gameDefinitionHash := ⟨hashPlain, by omega⟩, currency := ⟨currencyPlain, by omega⟩
      jurisdiction := jurisdictionPlain, exponent := ⟨least, most⟩, generation := generation }

/-- The bytes of the claims of a token: of each text of the issuer as many as its encoding
takes, and of every other text its own. -/
def encodedClaimsLength (issuer audience : List UInt8) (subject : AccessTokenSubject)
    (issuedAt expiresAt : Int) : Nat :=
  347 + quotedLength issuer + quotedLength audience + subject.operatorID.length +
    subject.playerID.length + subject.walletSessionID.length + subject.sessionID.length +
    subject.gameID.length + subject.gameDefinitionVersion.length + subject.jurisdiction.length +
    (decimal issuedAt).length + (decimal expiresAt).length +
    (decimal subject.transportGeneration).length

theorem decimal_exponent {exponent : Int} (least : 0 ≤ exponent) (most : exponent ≤ 6) :
    (decimal exponent).length = 1 := by
  obtain ⟨digit, rfl⟩ := Int.eq_ofNat_of_zero_le least
  have small : digit < 10 := by omega
  have all : ∀ digit < 10, (Nat.toDigits 10 digit).length = 1 := by decide
  rw [decimal_ofNat]
  exact all digit small

theorem tokenID_sized (raw : Vector UInt8 16) :
    PlainText (newAccessTokenID raw) ∧ (newAccessTokenID raw).length = 25 ∧
      identifierPattern (newAccessTokenID raw) = true := by
  have text : (newAccessTokenID raw).toList = "at_".toList ++ rawURLEncoding.encode raw.toList := by
    simp [newAccessTokenID, String.toList_append]
  have plain : PlainText (newAccessTokenID raw) := by
    intro c member
    rw [text, List.mem_append] at member
    rcases member with label | letter
    · exact (by decide : PlainText "at_") c label
    · exact (Base64.mem_rawURLEncoding letter).2.2.2
  have size : (rawURLEncoding.encode raw.toList).length = 22 := by
    rw [Base64.length_rawURLEncoding, Vector.length_toList]
  have length : (newAccessTokenID raw).length = 25 := by
    rw [← String.length_toList, text, List.length_append, size]
    rfl
  refine ⟨plain, length, ?_⟩
  have later : ∀ c ∈ 't' :: '_' :: rawURLEncoding.encode raw.toList, identifierChar c = true :=
    fun c member => plain c (by rw [text]; exact List.mem_cons_of_mem 'a' member)
  have short : (newAccessTokenID raw).toList.length ≤ 128 := by
    rw [String.length_toList, length]
    decide
  rw [text] at short
  unfold identifierPattern matchesPattern
  rw [text]
  show (_ && _ && _ && _) = true
  simp only [Bool.and_eq_true, decide_eq_true_eq]
  exact ⟨⟨⟨by decide, List.all_eq_true.mpr later⟩, Nat.zero_le _⟩, Nat.le_of_succ_le_succ short⟩

theorem fieldLength_plain {name : String} (plain : PlainText name) (field : Scalar) :
    fieldLength (name, field) = name.length + field.length + 4 := by
  have quoted := plain.length
  unfold fieldLength
  simp only [textScalar, Scalar.length] at quoted
  rw [quoted]
  show name.length + 2 + field.length + 2 = name.length + field.length + 4
  omega

/-- The lengths of fields whose names stand for themselves. -/
theorem fieldLengths {members : List (String × Scalar)} (sizes : List Nat)
    (plain : ∀ name ∈ members.map Prod.fst, PlainText name)
    (sized : (members.map Prod.fst).map String.length = sizes) :
    members.map fieldLength =
      List.zipWith (fun size field => size + Scalar.length field + 4) sizes
        (members.map Prod.snd) := by
  subst sized
  induction members with
  | nil => rfl
  | cons field rest ih =>
      have here := fieldLength_plain (plain field.1 List.mem_cons_self) field.2
      have later := ih fun name member => plain name (List.mem_cons_of_mem _ member)
      rw [List.map_cons, later]
      exact congrArg (· :: _) here

theorem length_claims {issuer : AccessTokenIssuer} {raw : Vector UInt8 16}
    {subject : AccessTokenSubject} {issuedAt expiresAt : Time} (sized : subject.Sized) :
    (marshalObject (issuer.claims raw subject issuedAt expiresAt).members).length =
      encodedClaimsLength issuer.issuer issuer.audience subject (unixSeconds issuedAt)
        (unixSeconds expiresAt) := by
  obtain ⟨hash, hashLength⟩ := sized.gameDefinitionHash
  obtain ⟨currency, currencyLength⟩ := sized.currency
  obtain ⟨tokenID, tokenLength, _⟩ := tokenID_sized raw
  have exponent := decimal_exponent sized.exponent.1 sized.exponent.2
  have names : (issuer.claims raw subject issuedAt expiresAt).members.map Prod.fst =
      ["iss", "aud", "operator_id", "player_id", "wallet_session_id", "session_id", "game_id",
        "game_definition_version", "game_definition_hash", "currency", "currency_exponent",
        "jurisdiction", "iat", "exp", "jti", "transport_generation"] := rfl
  have lengths := @fieldLengths (issuer.claims raw subject issuedAt expiresAt).members
    [3, 3, 11, 9, 17, 10, 7, 23, 20, 8, 17, 12, 3, 3, 3, 20]
    (by rw [names]; decide) (by rw [names]; decide)
  rw [length_marshalObject (by rintro ⟨⟩), lengths]
  simp only [AccessTokenClaims.members, AccessTokenIssuer.claims, List.map_cons, List.map_nil,
    List.zipWith_cons_cons, List.zipWith_nil_right, List.sum_cons, List.sum_nil,
    sized.operatorID.length, sized.playerID.length, sized.walletSessionID.length,
    sized.sessionID.length, sized.gameID.length, sized.gameDefinitionVersion.length, hash.length,
    hashLength, currency.length, currencyLength, tokenID.length, tokenLength,
    sized.jurisdiction.length, Scalar.length_string, Scalar.length_integer, exponent]
  unfold encodedClaimsLength
  omega

theorem length_header {key : SigningKey} (valid : identifierPattern key.keyID = true) :
    (marshalObject (tokenHeader key).members).length ≤ 177 := by
  obtain ⟨plain, most⟩ := identifier_plain valid
  have algorithm : PlainText accessTokenAlgorithm := by decide
  have type : PlainText accessTokenType := by decide
  have algorithmLength : accessTokenAlgorithm.length = 5 := by decide
  have typeLength : accessTokenType.length = 10 := by decide
  have version : (decimal accessTokenVersion).length = 1 := by decide
  have names : (tokenHeader key).members.map Prod.fst = ["alg", "typ", "kid", "v"] := rfl
  have lengths := @fieldLengths (tokenHeader key).members [3, 3, 3, 1]
    (by rw [names]; decide) (by rw [names]; decide)
  rw [length_marshalObject (by rintro ⟨⟩), lengths]
  simp only [CompactTokenHeader.members, tokenHeader, List.map_cons, List.map_nil,
    List.zipWith_cons_cons, List.zipWith_nil_right, List.sum_cons, List.sum_nil, algorithm.length,
    algorithmLength, type.length, typeLength, plain.length, Scalar.length_integer, version]
  omega

/-! ## What is issued is verified -/

/-- The verifier is set up for the issuer: it expects its names, finds its key, and admits
lifetimes as long. -/
structure AccessTokenVerifier.Matches (verifier : AccessTokenVerifier) (scheme : Scheme)
    (issuer : AccessTokenIssuer) : Prop where
  key : verifier.keys .accessToken issuer.key.keyID = .ok (some (issuer.key.verification scheme))
  expectedIssuer : verifier.expectedIssuer = issuer.issuer
  expectedAudience : verifier.expectedAudience = issuer.audience
  lifetime : issuer.maxLifetime ≤ verifier.maxLifetime

variable {scheme : Scheme} {issuer : AccessTokenIssuer} {verifier : AccessTokenVerifier}
variable {raw : Vector UInt8 16} {subject : AccessTokenSubject} {lifetime : Duration}
variable {authoritativeNow : Time} {token : String} {claims : AccessTokenClaims}

theorem issueAt_ok :
    issuer.issueAt scheme raw subject lifetime authoritativeNow = .ok (token, claims) ↔
      validateAccessSubject subject = .ok () ∧ subject.operatorID = issuer.key.operatorID ∧
      (Duration.second ≤ lifetime ∧ lifetime ≤ issuer.maxLifetime) ∧ authoritativeNow ≠ 0 ∧
      issuer.key.notBefore ≤ truncateSecond authoritativeNow ∧
      truncateSecond (truncateSecond authoritativeNow + lifetime) ≤ issuer.key.notAfter ∧
      claims = issuer.claims raw subject (truncateSecond authoritativeNow)
        (truncateSecond (truncateSecond authoritativeNow + lifetime)) ∧
      token = String.ofList (['.'].intercalate (issuer.parts scheme claims)) := by
  simp only [AccessTokenIssuer.issueAt, bind_ok, refuse_ok, exists_unit, pure_ok, Prod.mk.injEq,
    not_or, not_lt, not_not, gt_iff_lt, ne_eq]
  constructor
  · rintro ⟨valid, operator, limits, zero, before, after, rfl, rfl⟩
    exact ⟨valid, operator, limits, zero, before, after, rfl, rfl⟩
  · rintro ⟨valid, operator, limits, zero, before, after, rfl, rfl⟩
    exact ⟨valid, operator, limits, zero, before, after, rfl, rfl⟩

/-- A part of a token has no dot in it. -/
theorem part_clean : ∀ part ∈ issuer.parts scheme claims, '.' ∉ part := by
  have clean (bytes : List UInt8) : '.' ∉ rawURLEncoding.encode bytes := fun dot =>
    (Base64.mem_rawURLEncoding dot).1 rfl
  unfold AccessTokenIssuer.parts
  exact List.forall_mem_cons.mpr ⟨clean _, List.forall_mem_cons.mpr ⟨clean _,
    List.forall_mem_cons.mpr ⟨clean _, fun part none => absurd none List.not_mem_nil⟩⟩⟩

/-- A token is split into the parts that it was made of. -/
theorem token_parts :
    (['.'].intercalate (issuer.parts scheme claims)).splitOn '.' = issuer.parts scheme claims :=
  List.splitOn_intercalate '.' part_clean (by rintro ⟨⟩)

theorem length_token (sound : scheme.Sound) (key : identifierPattern issuer.key.keyID = true)
    (fits : (marshalObject claims.members).length ≤ 4096) :
    (encodeUtf8 (['.'].intercalate (issuer.parts scheme claims))).length ≤
      maximumCompactTokenBytes := by
  have header := length_header key
  have dotted (first second third : List Char) :
      (encodeUtf8 (['.'].intercalate [first, second, third])).length =
        (encodeUtf8 first).length + (encodeUtf8 second).length + (encodeUtf8 third).length + 2 := by
    have whole : ['.'].intercalate [first, second, third] =
        first ++ (['.'] ++ (second ++ (['.'] ++ third))) := by
      simp [List.intercalate, List.intersperse]
    have dot : (encodeUtf8 ['.']).length = 1 := by decide
    rw [whole]
    simp only [encodeUtf8_append, List.length_append, dot]
    omega
  unfold AccessTokenIssuer.parts encodePart maximumCompactTokenBytes
  simp only [dotted, Base64.length_encoded, sound.signature]
  omega

theorem resolveHeader_issued (sound : scheme.Sound) (valid : validateSigningKey issuer.key = .ok ())
    (matching : verifier.Matches scheme issuer) :
    verifier.resolveHeader (encodePart (tokenHeader issuer.key).members) =
      .ok (issuer.key.verification scheme) := by
  obtain ⟨keyID, _, verified⟩ := validateSigningKey_ok sound valid
  have length := length_header keyID
  simp only [AccessTokenVerifier.resolveHeader, bind_ok, refuse_ok, exists_unit, present_ok, mask_ok,
    pure_ok, not_or, not_not, Bool.not_eq_false]
  refine ⟨_, decodeRawURLPart_encode.mpr ⟨rfl, marshalObject_filled _, by omega⟩, _,
    header_decoded (show -2 ^ 63 ≤ accessTokenVersion by decide)
      (show accessTokenVersion < 2 ^ 63 by decide), ⟨rfl, rfl, rfl, keyID⟩, _, matching.key, _, rfl,
    verified, rfl⟩

/-- A token is verified by reading its claims and checking what was read. -/
theorem verify_issued (sound : scheme.Sound) (valid : validateSigningKey issuer.key = .ok ())
    (matching : verifier.Matches scheme issuer) {operatorID : String}
    (expected : identifierPattern operatorID = true) {now : Time} {result : AccessTokenClaims} :
    verifier.verify scheme.toCrypto now
        (String.ofList (['.'].intercalate (issuer.parts scheme claims))) operatorID = .ok result ↔
      (marshalObject claims.members).length ≤ 4096 ∧
      decodeStrictFlatObject claimFields (marshalObject claims.members) {} = .ok result ∧
      verifier.checkClaims (issuer.key.verification scheme) result operatorID now = .ok () := by
  obtain ⟨keyID, _, _⟩ := validateSigningKey_ok sound valid
  have filled : String.ofList (['.'].intercalate (issuer.parts scheme claims)) ≠ "" := by
    intro empty
    have same := congrArg (fun text => text.toList.splitOn '.') empty
    simp only [String.toList_ofList, token_parts] at same
    have one : ("".toList.splitOn '.').length = 1 := by decide
    rw [← same] at one
    cases one
  have signed : decodeRawURLPart (rawURLEncoding.encode (scheme.sign issuer.key.privateKey
      (String.ofList (encodePart (tokenHeader issuer.key).members ++ '.' ::
        encodePart claims.members)))) 128 = .ok (scheme.sign issuer.key.privateKey
      (String.ofList (encodePart (tokenHeader issuer.key).members ++ '.' ::
        encodePart claims.members))) := by
    have size := sound.signature issuer.key.privateKey
      (String.ofList (encodePart (tokenHeader issuer.key).members ++ '.' :: encodePart claims.members))
    refine decodeRawURLPart_encode.mpr ⟨rfl, ?_, by omega⟩
    intro empty
    rw [empty] at size
    cases size
  have header := resolveHeader_issued sound valid matching
  unfold AccessTokenVerifier.verify
  rw [String.toList_ofList, token_parts]
  simp only [AccessTokenIssuer.parts, bind_ok, refuse_ok, exists_unit, mask_ok, pure_ok, not_or,
    not_not, not_lt, gt_iff_lt, header, Bool.not_eq_false, Except.ok.injEq, exists_eq_left', signed,
    sound.signature, true_and]
  constructor
  · rintro ⟨_, _, claimsJSON, read, decoded, decodes, checked, rfl⟩
    obtain ⟨rfl, _, fits⟩ := decodeRawURLPart_encode.mp read
    exact ⟨fits, decodes, checked⟩
  · rintro ⟨fits, decodes, checked⟩
    exact ⟨⟨filled, length_token sound keyID fits, expected⟩, sound.verifies _ _, _,
      decodeRawURLPart_encode.mpr ⟨rfl, marshalObject_filled _, fits⟩, result, decodes, checked, rfl⟩

/-! ## The window of a token -/

theorem unixSeconds_whole (instant : Time) :
    unixSeconds (truncateSecond instant) = unixSeconds instant :=
  unixSeconds_truncate instant

theorem unixTime_unixSeconds (instant : Time) :
    unixTime (unixSeconds instant) = truncateSecond instant := by
  rw [unixTime, unixSeconds, truncateSecond, Int.sub_add_cancel]

theorem truncateSecond_whole (instant : Time) :
    truncateSecond (truncateSecond instant) = truncateSecond instant := by
  have cancelled : instant / Duration.second * Duration.second / Duration.second =
      instant / Duration.second := Int.mul_ediv_cancel _ (by decide)
  rw [truncateSecond, truncateSecond, cancelled]

theorem floor_window {instant lifetime second : Int} (positive : 0 < second)
    (least : second ≤ lifetime) :
    instant / second * second < (instant / second * second + lifetime) / second * second ∧
      (instant / second * second + lifetime) / second * second - instant / second * second ≤
        lifetime := by
  have split : (instant / second * second + lifetime) / second =
      instant / second + lifetime / second := by
    rw [Int.add_comm, Int.add_mul_ediv_right _ _ (Int.ne_of_gt positive), Int.add_comm]
  have whole : 1 ≤ lifetime / second := by
    rw [Int.le_ediv_iff_mul_le positive, Int.one_mul]
    exact least
  have below : lifetime / second * second ≤ lifetime :=
    Int.ediv_mul_le lifetime (Int.ne_of_gt positive)
  have above : 1 * second ≤ lifetime / second * second :=
    Int.mul_le_mul_of_nonneg_right whole (Int.le_of_lt positive)
  rw [split, Int.add_mul]
  omega

/-- A token lives for at least a second, and no longer than it was asked for. -/
theorem lifetime_whole (instant : Time) {lifetime : Duration} (least : Duration.second ≤ lifetime) :
    truncateSecond instant < truncateSecond (truncateSecond instant + lifetime) ∧
      truncateSecond (truncateSecond instant + lifetime) - truncateSecond instant ≤ lifetime :=
  floor_window (by decide) least

/-- What is within the window of its key at its issue passes the checks of its verifier. -/
theorem window_checks {issued expires now skew starts ends lifetime longest : Int}
    (skewed : 0 ≤ skew) (lives : issued < expires) (short : expires - issued ≤ lifetime)
    (limit : lifetime ≤ longest) (started : starts ≤ issued) (ended : expires ≤ ends)
    (after : issued ≤ now) (before : now < expires) :
    ¬ (expires ≤ issued ∨ expires - issued > longest) ∧ ¬ issued > now + skew ∧
      ¬ expires ≤ now - skew ∧
      ¬ (issued < starts - skew ∨ expires > ends + skew ∨ now > ends + skew) := by
  omega

theorem newAccessTokenIssuer_ok {key : SigningKey} {name audience : List UInt8}
    {maxLifetime : Duration} :
    newAccessTokenIssuer key name audience maxLifetime = .ok issuer ↔
      validateSigningKey key = .ok () ∧ key.purpose = .accessToken ∧
      (validTextClaim name 256 = true ∧ validTextClaim audience 256 = true ∧ 0 ≤ maxLifetime) ∧
      Duration.second ≤ optionalLifetime maxLifetime ∧
      issuer = { key := key, issuer := name, audience := audience
                 maxLifetime := optionalLifetime maxLifetime } := by
  simp only [newAccessTokenIssuer, bind_ok, refuse_ok, exists_unit, pure_ok, not_or, not_not,
    not_lt, Bool.not_eq_false, ne_eq, @eq_comm _ issuer]

theorem newAccessTokenVerifier_ok
    {keys : KeyPurpose → String → Except OperatorError (Option VerificationKey)}
    {name audience : List UInt8} {clockSkew maxLifetime : Duration} :
    newAccessTokenVerifier keys name audience clockSkew maxLifetime = .ok verifier ↔
      (validTextClaim name 256 = true ∧ validTextClaim audience 256 = true) ∧
      (0 ≤ clockSkew ∧ 0 ≤ maxLifetime) ∧ Duration.second ≤ optionalLifetime maxLifetime ∧
      verifier = { keys := keys, expectedIssuer := name, expectedAudience := audience
                   clockSkew := clockSkew, maxLifetime := optionalLifetime maxLifetime } := by
  simp only [newAccessTokenVerifier, bind_ok, refuse_ok, exists_unit, pure_ok, not_or, not_lt,
    Bool.not_eq_false, @eq_comm _ verifier]

/-- Within its window, a token passes every check but that of the epoch. -/
theorem checkClaims_issued (matching : verifier.Matches scheme issuer)
    (skewed : 0 ≤ verifier.clockSkew) (name : validTextClaim issuer.issuer 256 = true)
    (audience : validTextClaim issuer.audience 256 = true)
    (issued : issuer.issueAt scheme raw subject lifetime authoritativeNow = .ok (token, claims))
    {now : Time} (after : unixTime claims.issuedAt ≤ now) (before : now < unixTime claims.expiresAt)
    (epoch : 0 ≤ claims.issuedAt) :
    verifier.checkClaims (issuer.key.verification scheme) claims subject.operatorID now =
      .ok () := by
  obtain ⟨valid, operator, ⟨least, most⟩, _, starts, ends, rfl, _⟩ := issueAt_ok.mp issued
  obtain ⟨lives, short⟩ := lifetime_whole authoritativeNow least
  have issuedAt : unixTime (unixSeconds (truncateSecond authoritativeNow)) =
      truncateSecond authoritativeNow := by
    rw [unixTime_unixSeconds, truncateSecond_whole]
  have expiresAt : unixTime (unixSeconds (truncateSecond (truncateSecond authoritativeNow +
      lifetime))) = truncateSecond (truncateSecond authoritativeNow + lifetime) := by
    rw [unixTime_unixSeconds, truncateSecond_whole]
  have later := unixSeconds_mono (Int.le_of_lt lives)
  simp only [AccessTokenIssuer.claims] at after before epoch
  rw [issuedAt] at after
  rw [expiresAt] at before
  have longer := matching.lifetime
  have window := window_checks skewed lives short (Int.le_trans most longer) starts ends after before
  unfold AccessTokenVerifier.checkClaims validateAccessClaims
  simp only [bind_ok, exists_unit, refuse_ok, AccessTokenIssuer.claims, name, audience,
    (tokenID_sized raw).2.2, matching.expectedIssuer, matching.expectedAudience, issuedAt, expiresAt,
    SigningKey.verification]
  refine ⟨⟨?_, valid⟩, ?_, not_not.mpr rfl, not_not.mpr rfl, window⟩
  · rintro (unread | unread | unread | early | early)
    · cases unread
    · cases unread
    · cases unread
    · exact absurd epoch (Int.not_le.mpr early)
    · exact absurd (Int.le_trans epoch later) (Int.not_le.mpr early)
  · refine refuse_ok.mpr ?_
    rintro (other | other)
    · exact other operator
    · exact other rfl

/-- When the verifier accepts what was issued, at any time of a token's window: the names of
the issuer are texts, the token was issued since 1970, and its claims take no more than
4096 bytes.  What it accepts are the claims that were issued. -/
theorem access_token_round_trip (sound : scheme.Sound) {key : SigningKey}
    {name audience : List UInt8} {issuerLifetime : Duration}
    (issues : newAccessTokenIssuer key name audience issuerLifetime = .ok issuer)
    {keys : KeyPurpose → String → Except OperatorError (Option VerificationKey)}
    {clockSkew verifierLifetime : Duration}
    (verifies : newAccessTokenVerifier keys name audience clockSkew verifierLifetime = .ok verifier)
    (found : keys .accessToken key.keyID = .ok (some (key.verification scheme)))
    (longer : issuer.maxLifetime ≤ verifier.maxLifetime)
    (issued : issuer.issueAt scheme raw subject lifetime authoritativeNow = .ok (token, claims))
    (representable : Representable (truncateSecond authoritativeNow + lifetime))
    {now : Time} (after : unixTime claims.issuedAt ≤ now) (before : now < unixTime claims.expiresAt) :
    verifier.verify scheme.toCrypto now token subject.operatorID = .ok claims ↔
      ValidUtf8 name ∧ ValidUtf8 audience ∧ 0 ≤ unixSeconds authoritativeNow ∧
        encodedClaimsLength name audience subject (unixSeconds authoritativeNow)
          (unixSeconds (truncateSecond authoritativeNow + lifetime)) ≤ 4096 := by
  obtain ⟨signing, _, ⟨nameText, audienceText, _⟩, _, rfl⟩ := newAccessTokenIssuer_ok.mp issues
  obtain ⟨_, ⟨skewed, _⟩, _, rfl⟩ := newAccessTokenVerifier_ok.mp verifies
  have matching : AccessTokenVerifier.Matches _ scheme _ := ⟨found, rfl, rfl, longer⟩
  obtain ⟨valid, operator, ⟨least, most⟩, _, starts, ends, made, rfl⟩ := issueAt_ok.mp issued
  obtain ⟨_, operatorID, _⟩ := validateSigningKey_ok sound signing
  have expected : identifierPattern subject.operatorID = true := by rwa [operator]
  have sized := validateAccessSubject_sized valid
  have length : (marshalObject claims.members).length =
      encodedClaimsLength name audience subject (unixSeconds authoritativeNow)
        (unixSeconds (truncateSecond authoritativeNow + lifetime)) := by
    rw [made, length_claims sized, unixSeconds_whole, unixSeconds_whole]
  have issuedAt : claims.issuedAt = unixSeconds authoritativeNow := by
    rw [made]
    exact unixSeconds_whole authoritativeNow
  have fits (epoch : 0 ≤ claims.issuedAt) : claims.Representable := by
    have later := unixSeconds_mono (Int.le_of_lt (lifetime_whole authoritativeNow least).1)
    have bounded : claims.expiresAt ≤ maxUnix := by
      rw [made]
      exact Int.le_trans (Int.le_of_eq (unixSeconds_whole _)) representable
    have ordered : claims.issuedAt ≤ claims.expiresAt := by
      rw [made]
      exact later
    have exponent := sized.exponent
    have generation := sized.generation
    have same : claims.currencyExponent = subject.currencyExponent ∧
        claims.transportGeneration = subject.transportGeneration := by
      rw [made]
      exact ⟨rfl, rfl⟩
    unfold maxUnix at bounded generation
    exact ⟨by omega, by omega, by omega, by omega⟩
  rw [verify_issued sound signing matching expected, length, ← issuedAt]
  constructor
  · rintro ⟨short, decoded, checked⟩
    have epoch : 0 ≤ claims.issuedAt := by
      simp only [AccessTokenVerifier.checkClaims, validateAccessClaims, bind_ok, refuse_ok,
        exists_unit, not_or, not_lt] at checked
      exact checked.1.1.2.2.2.1
    rw [issued_decoded (fits epoch)] at decoded
    have same : claims.asText = claims := Except.ok.inj decoded
    have names : claims.issuer = name ∧ claims.audience = audience := by
      rw [made]
      exact ⟨rfl, rfl⟩
    refine ⟨?_, ?_, epoch, short⟩
    · rw [← names.1]
      exact encode_replaced.mp (congrArg AccessTokenClaims.issuer same)
    · rw [← names.2]
      exact encode_replaced.mp (congrArg AccessTokenClaims.audience same)
  · rintro ⟨nameValid, audienceValid, epoch, short⟩
    have same : claims.asText = claims := by
      rw [made]
      unfold AccessTokenClaims.asText AccessTokenIssuer.claims
      simp only [encode_replaced.mpr nameValid, encode_replaced.mpr audienceValid]
    refine ⟨short, ?_, checkClaims_issued matching skewed nameText audienceText issued after before
      epoch⟩
    rw [issued_decoded (fits epoch), same]

/-- A key of access tokens, active since 1960. -/
def demoTokenKey : SigningKey := { demoSigningKey with purpose := .accessToken }

def demoSubject : AccessTokenSubject where
  operatorID := "op"
  playerID := "player-1"
  walletSessionID := "wallet-1"
  sessionID := "session-1"
  gameID := "slots"
  gameDefinitionVersion := "v1"
  gameDefinitionHash := String.ofList (List.replicate 64 'a')
  currency := "EUR"
  currencyExponent := 2
  jurisdiction := "MT"
  transportGeneration := 1

/-- The issuer of a name, with its options left open. -/
def demoIssuer (name : List UInt8) : AccessTokenIssuer :=
  { key := demoTokenKey, issuer := name, audience := encodeUtf8 "games".toList
    maxLifetime := defaultAccessTokenLifetime }

/-- The verifier for the issuer of a name. -/
def demoTokenVerifier (name : List UInt8) : AccessTokenVerifier :=
  { keys := fun _ _ => .ok (some (demoTokenKey.verification demoScheme)), expectedIssuer := name
    expectedAudience := encodeUtf8 "games".toList, clockSkew := 0
    maxLifetime := defaultAccessTokenLifetime }

/-- A token of 2023. -/
def demoIssue (name : List UInt8) : Except OperatorError (String × AccessTokenClaims) :=
  (demoIssuer name).issueAt demoScheme (Vector.replicate 16 0) demoSubject Duration.minute
    (unix 1700000000)

theorem demoIssuer_built : newAccessTokenIssuer demoTokenKey (encodeUtf8 "rgs".toList)
    (encodeUtf8 "games".toList) 0 = .ok (demoIssuer (encodeUtf8 "rgs".toList)) := by
  rfl

theorem demoTokenVerifier_built : newAccessTokenVerifier
    (fun _ _ => .ok (some (demoTokenKey.verification demoScheme))) (encodeUtf8 "rgs".toList)
    (encodeUtf8 "games".toList) 0 0 = .ok (demoTokenVerifier (encodeUtf8 "rgs".toList)) := by
  rfl

theorem demoToken_accepted :
    ∃ token claims, demoIssue (encodeUtf8 "rgs".toList) = .ok (token, claims) ∧
      (demoTokenVerifier (encodeUtf8 "rgs".toList)).verify demoScheme.toCrypto
        (unix 1700000001) token "op" = .ok claims := by
  have issues : (demoIssue (encodeUtf8 "rgs".toList)).toOption.isSome = true := by decide +kernel
  obtain ⟨⟨token, claims⟩, issued⟩ := Option.isSome_iff_exists.mp issues
  have made : demoIssue (encodeUtf8 "rgs".toList) = .ok (token, claims) := by
    rw [ok_get issues]
    exact congrArg Except.ok (Option.get_of_eq_some issues issued)
  obtain ⟨_, _, _, _, _, _, rfl, _⟩ := issueAt_ok.mp made
  have representable : Representable (truncateSecond (unix 1700000000) + Duration.minute) := by
    unfold Representable
    decide +kernel
  refine ⟨token, _, made, (access_token_round_trip demoScheme_sound demoIssuer_built
    demoTokenVerifier_built rfl (Int.le_refl _) made representable ?_ ?_).mpr
      ⟨encodeUtf8_valid _, encodeUtf8_valid _, ?_, ?_⟩⟩
  · show unixTime (unixSeconds (truncateSecond (unix 1700000000))) ≤ unix 1700000001
    decide +kernel
  · show unix 1700000001 <
      unixTime (unixSeconds (truncateSecond (truncateSecond (unix 1700000000) + Duration.minute)))
    decide +kernel
  · decide +kernel
  · decide +kernel

/-- The name of an issuer that is no text: its tokens are issued, and none is accepted. -/
theorem unreadable_issuer_refused :
    ∃ token claims,
      newAccessTokenIssuer demoTokenKey [0xff] (encodeUtf8 "games".toList) 0 =
        .ok (demoIssuer [0xff]) ∧
      newAccessTokenVerifier (fun _ _ => .ok (some (demoTokenKey.verification demoScheme))) [0xff]
        (encodeUtf8 "games".toList) 0 0 = .ok (demoTokenVerifier [0xff]) ∧
      demoScheme.Sound ∧ demoIssue [0xff] = .ok (token, claims) ∧
      unixTime claims.issuedAt ≤ unix 1700000001 ∧ unix 1700000001 < unixTime claims.expiresAt ∧
      ∀ accepted, (demoTokenVerifier [0xff]).verify demoScheme.toCrypto (unix 1700000001) token "op" ≠
        .ok accepted := by
  have issues : (demoIssue [0xff]).toOption.isSome = true := by decide +kernel
  obtain ⟨⟨token, claims⟩, issued⟩ := Option.isSome_iff_exists.mp issues
  have made : demoIssue [0xff] = .ok (token, claims) := by
    rw [ok_get issues]
    exact congrArg Except.ok (Option.get_of_eq_some issues issued)
  obtain ⟨_, _, _, _, _, _, rfl, rfl⟩ := issueAt_ok.mp made
  refine ⟨_, _, rfl, rfl, demoScheme_sound, made, ?_, ?_, ?_⟩
  · show unixTime (unixSeconds (truncateSecond (unix 1700000000))) ≤ unix 1700000001
    decide +kernel
  · show unix 1700000001 <
      unixTime (unixSeconds (truncateSecond (truncateSecond (unix 1700000000) + Duration.minute)))
    decide +kernel
  · intro accepted verified
    have signing : validateSigningKey (demoIssuer [0xff]).key = .ok () := rfl
    have matching : (demoTokenVerifier [0xff]).Matches demoScheme (demoIssuer [0xff]) :=
      ⟨rfl, rfl, rfl, Int.le_refl _⟩
    obtain ⟨_, decoded, checked⟩ :=
      (verify_issued demoScheme_sound signing matching (by decide)).mp verified
    rw [issued_decoded ⟨by decide +kernel, by decide +kernel, by decide +kernel, by decide⟩] at decoded
    obtain rfl := Except.ok.inj decoded
    simp only [AccessTokenVerifier.checkClaims, bind_ok, refuse_ok, exists_unit, not_not] at checked
    have same : encodeUtf8 (replaced [0xff]) = [0xff] := checked.2.2.1
    exact absurd same (by decide)

end SlotsGame.Operator
