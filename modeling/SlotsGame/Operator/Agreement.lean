/-
# SlotsGame.Operator.Agreement -- what is accepted was signed

A history holds the requests and the responses that were signed.  Unless a signature was
forged, a verifier accepts a text only if it is the canonical text of one of them, and
the text is read back: the accepted message has the components of the signed one, and its
body the signed digest (`authenticated_agrees`, `believed_agrees`).
-/
import SlotsGame.Operator.Binding

namespace SlotsGame.Operator

open SlotsGame.Rgs SlotsGame.Text SlotsGame.Theory

set_option autoImplicit false

variable {scheme : Scheme}

/-! ## Histories -/

/-- The messages that were signed. -/
structure History (scheme : Scheme) where
  requests : Set (SignedRequest scheme)
  responses : Set (SignedResponse scheme)

/-- The text was signed under the key. -/
inductive History.Signed (history : History scheme) (publicKey : List UInt8) (text : String) : Prop
  | request (message : SignedRequest scheme) (held : message ∈ history.requests)
      (own : scheme.publicKey message.key.privateKey = publicKey)
      (canonical : canonicalRequest message.signed message.input = .ok text)
  | response (message : SignedResponse scheme) (held : message ∈ history.responses)
      (own : scheme.publicKey message.key.privateKey = publicKey)
      (canonical : canonicalResponse message.signed message.input = .ok text)

/-- The signature in the header is not a forgery: if it verifies, the text was signed. -/
def History.Unforged (history : History scheme) (publicKey : List UInt8) (text header : String) :
    Prop :=
  ∀ signature, decodeFixedBase64 "sig1=:" header 64 = .ok signature →
    scheme.verify publicKey text signature = true → history.Signed publicKey text

/-- The content behind two equal digests. -/
def SameContent (crypto : Crypto) (left right : List UInt8) : Prop :=
  crypto.sha256 left = crypto.sha256 right ∧
    ∀ bodies : Set (List UInt8), bodies.InjOn crypto.sha256 → left ∈ bodies → right ∈ bodies →
      left = right

theorem SameContent.of_digest {crypto : Crypto} {left right : List UInt8}
    (same : crypto.sha256 left = crypto.sha256 right) : SameContent crypto left right :=
  ⟨same, fun _ injective leftHeld rightHeld => injective leftHeld rightHeld same⟩

/-- The digest in a header is that of the signed body. -/
theorem sameContent (sound : scheme.Sound) {body signed : List UInt8}
    (decoded : decodeFixedBase64 "sha-256=:" (makeContentDigest scheme.toCrypto signed) 32 =
      .ok (scheme.sha256 body)) : SameContent scheme.toCrypto body signed := by
  have written := decodeFixedBase64_encode "sha-256=:" (sound.digest signed)
  rw [makeContentDigest, written] at decoded
  exact .of_digest (Except.ok.inj decoded).symm

theorem labelled_format (components : String) (created expires : Int) (keyID : String) :
    ∃ rest, (formatInputOf components created expires keyID).toList.dropPrefix? "sig1=".toList =
      some rest := by
  simp only [formatInputOf, String.toList_append, List.append_assoc]
  exact ⟨_, dropPrefix?_append _ _⟩

/-! ## Requests -/

/-- What `Authenticate` has read of a request it lets through. -/
structure Examined (scheme : Scheme) (ring : KeyRing) (request : HttpRequest)
    (verified : VerifiedRequest) : Prop where
  signature : ∃ key input text header signature, ring.resolveKey .httpRequest verified.keyID = some key ∧
    singleHeader request "Signature-Input" = .ok input ∧ canonicalRequest request input = .ok text ∧
    singleHeader request "Signature" = .ok header ∧
    decodeFixedBase64 "sig1=:" header 64 = .ok signature ∧
    scheme.verify key.publicKey text signature = true
  digest : ∃ header, singleHeader request "Content-Digest" = .ok header ∧
    decodeFixedBase64 "sha-256=:" header 32 = .ok (scheme.sha256 request.body)
  operatorID : singleHeader request "X-Operator-Id" = .ok verified.operatorID
  requestID : singleHeader request "X-Request-Id" = .ok verified.requestID
  idempotencyKey : singleHeader request "Idempotency-Key" = .ok verified.idempotencyKey
  nonce : singleHeader request "X-Nonce" = .ok verified.nonce

theorem examined {verifier : RequestVerifier} {ring : KeyRing} {now : Time} {request : HttpRequest}
    {verified : VerifiedRequest}
    (accepted : verifier.authenticate scheme.toCrypto ring now request = .ok verified) :
    Examined scheme ring request verified := by
  simp only [RequestVerifier.authenticate, bind_ok, refuse_ok, exists_unit, pure_ok, Prod.exists,
    present_ok, mask_ok, not_or, not_not, gt_iff_lt, Bool.not_eq_false] at accepted
  obtain ⟨_, input, inputHeader, _, _, keyID, _, key, resolved, _, _, _, _, _, operatorID, operator, rfl,
    requestID, request, _, idempotencyKey, idempotency, _, nonce, nonceHeader, _, digestHeader, digest,
    _, decoded, rfl, text, canonical, header, signatureHeader, signature, signatureDecoded, verifies,
    rfl⟩ := accepted
  have keyID := KeyRing.resolveKey_keyID resolved
  subst keyID
  exact ⟨⟨key, input, text, header, signature, resolved, inputHeader, canonical, signatureHeader,
    signatureDecoded, verifies⟩, ⟨digestHeader, digest, decoded⟩, operator, request, idempotency,
    nonceHeader⟩

/-- An accepted request agrees with a signed one. -/
structure RequestAgrees (request : HttpRequest) (verified : VerifiedRequest)
    (message : SignedRequest scheme) : Prop where
  components : request.Agrees message.signed
  body : SameContent scheme.toCrypto request.body message.body
  operatorID : verified.operatorID = message.key.operatorID
  keyID : verified.keyID = message.key.keyID
  requestID : verified.requestID = message.params.requestID
  idempotencyKey : verified.idempotencyKey = message.params.idempotencyKey
  nonce : verified.nonce = message.params.nonce
  times : verified.created = message.created ∧ verified.expires = message.expires

/-- A header of an accepted request has the value that was signed. -/
theorem agreed_header {request signed : HttpRequest} {name value written : String}
    (agrees : request.Agrees signed) (covered : name ∈ signedRequestHeaders)
    (single : singleHeader request name = .ok value) (held : signed.header name = [written]) :
    value = written := by
  rw [agrees.headers name covered] at single
  have same := singleHeader_value single
  rw [held] at same
  exact (List.cons.inj same).1.symm

/-- An accepted request agrees with one that was signed. -/
theorem authenticated_agrees (sound : scheme.Sound) (history : History scheme)
    {verifier : RequestVerifier} {ring : KeyRing} {now : Time} {request : HttpRequest}
    {verified : VerifiedRequest}
    (accepted : verifier.authenticate scheme.toCrypto ring now request = .ok verified)
    (unforged : ∀ key text header, ring.resolveKey .httpRequest verified.keyID = some key →
      signedText request = .ok text → singleHeader request "Signature" = .ok header →
      history.Unforged key.publicKey text header) :
    ∃ message ∈ history.requests, RequestAgrees request verified message := by
  have examined := examined accepted
  obtain ⟨key, input, text, header, signature, resolved, inputHeader, canonical, signatureHeader,
    decoded, verifies⟩ := examined.signature
  have signed : signedText request = .ok text := by
    rw [signedText, inputHeader]
    exact canonical
  cases unforged key text header resolved signed signatureHeader signature decoded verifies with
  | response message _ _ other => exact absurd other (canonical_apart canonical)
  | request message held _ other =>
      obtain ⟨agrees, labels⟩ := canonicalRequest_inj canonical other
      have written := message.written
      -- The parameters are those of the signed input.
      obtain ⟨input', _, createdUnix, expiresUnix, inputHeader', parsed, createdTime, expiresTime, _⟩ :=
        (authenticate_ok accepted).signed
      rw [inputHeader] at inputHeader'
      obtain rfl := Except.ok.inj inputHeader'
      obtain ⟨rest, labelled⟩ := parseSignatureInput_labelled parsed
      obtain ⟨rest', labelled'⟩ := labelled_format fixedSignatureComponentSet
        (unixSeconds message.created) (unixSeconds message.expires) message.key.keyID
      obtain rfl := trimSignatureLabel_inj labelled labelled' labels
      obtain ⟨created, expires, keyID⟩ := message.parameters sound parsed
      obtain ⟨digestHeader, digest, digested⟩ := examined.digest
      refine ⟨message, held, ⟨agrees, ?_, ?_, keyID, ?_, ?_, ?_, ?_, ?_⟩⟩
      · rw [agreed_header agrees (by decide) digest written.digest] at digested
        exact sameContent sound digested
      · exact agreed_header agrees (by decide) examined.operatorID written.operatorID
      · exact agreed_header agrees (by decide) examined.requestID written.requestID
      · exact agreed_header agrees (by decide) examined.idempotencyKey written.idempotencyKey
      · exact agreed_header agrees (by decide) examined.nonce written.nonce
      · exact createdTime.trans (unix_unixSeconds created)
      · exact expiresTime.trans (unix_unixSeconds expires)

/-! ## Responses -/

/-- The parameters that a response carries. -/
def HttpResponse.parameters (response : HttpResponse) : Except OperatorError (Nat × Nat × String) := do
  let input ← response.singleHeader "Signature-Input"
  parseResponseSignatureInput input

/-- The text that the signature of a response covers. -/
def signedResponseText (response : HttpResponse) : Except OperatorError String := do
  let input ← response.singleHeader "Signature-Input"
  canonicalResponse response input

/-- What `Verify` has read of a response it believes. -/
structure Believed (scheme : Scheme) (verifier : ResponseVerifier) (response : HttpResponse)
    (body : List UInt8) (operatorID requestID keyID : String) (created expires : Time) : Prop where
  signature : ∃ key input text header signature createdUnix expiresUnix,
    verifier.keys .httpResponse keyID = .ok (some key) ∧ key.operatorID = operatorID ∧
    response.singleHeader "Signature-Input" = .ok input ∧
    parseResponseSignatureInput input = .ok (createdUnix, expiresUnix, keyID) ∧
    created = unix createdUnix ∧ expires = unix expiresUnix ∧
    canonicalResponse response input = .ok text ∧
    response.singleHeader "Signature" = .ok header ∧
    decodeFixedBase64 "sig1=:" header 64 = .ok signature ∧
    scheme.verify key.publicKey text signature = true
  digest : ∃ header, response.singleHeader "Content-Digest" = .ok header ∧
    decodeFixedBase64 "sha-256=:" header 32 = .ok (scheme.sha256 body)
  requestID : response.singleHeader "X-Request-Id" = .ok requestID

theorem believed {verifier : ResponseVerifier} {now : Time} {response : HttpResponse}
    {body : List UInt8} {operatorID requestID : String}
    (accepted : verifier.verify scheme.toCrypto now response body operatorID requestID = .ok ()) :
    ∃ keyID created expires,
      Believed scheme verifier response body operatorID requestID keyID created expires := by
  simp only [ResponseVerifier.verify, bind_ok, refuse_ok, exists_unit, present_ok, mask_ok,
    Prod.exists, not_not, Bool.not_eq_false] at accepted
  obtain ⟨_, input, inputHeader, createdUnix, expiresUnix, keyID, parsed, _, resolved, key, rfl, _, owned,
    _, _, _, _, _, answers, rfl, digestHeader, digest, _, decoded, rfl, text, canonical, header,
    signatureHeader, signature, signatureDecoded, verifies⟩ := accepted
  exact ⟨keyID, unix createdUnix, unix expiresUnix, ⟨key, input, text, header, signature, createdUnix,
    expiresUnix, resolved, owned, inputHeader, parsed, rfl, rfl, canonical, signatureHeader,
    signatureDecoded, verifies⟩, ⟨digestHeader, digest, decoded⟩, answers⟩

/-- A believed response agrees with a signed one. -/
structure ResponseAgrees (response : HttpResponse) (body : List UInt8)
    (operatorID requestID keyID : String) (created expires : Time)
    (message : SignedResponse scheme) : Prop where
  components : response.Agrees message.signed
  body : SameContent scheme.toCrypto body message.body
  operatorID : operatorID = message.key.operatorID
  keyID : keyID = message.key.keyID
  requestID : requestID = message.params.requestID
  times : created = message.created ∧ expires = message.expires

/-- The verifier holds a signer's key as that signer's. -/
def History.Provisioned (history : History scheme)
    (keys : KeyPurpose → String → Except OperatorError (Option VerificationKey)) : Prop :=
  ∀ message ∈ history.responses, ∀ key, keys .httpResponse message.key.keyID = .ok (some key) →
    key.publicKey = scheme.publicKey message.key.privateKey → key.operatorID = message.key.operatorID

/-- A believed response agrees with one that was signed. -/
theorem believed_agrees (sound : scheme.Sound) (history : History scheme)
    {verifier : ResponseVerifier} {response : HttpResponse} {body : List UInt8}
    {operatorID requestID keyID : String} {created expires : Time}
    (accepted : Believed scheme verifier response body operatorID requestID keyID created expires)
    (unforged : ∀ key text header, verifier.keys .httpResponse keyID = .ok (some key) →
      signedResponseText response = .ok text → response.singleHeader "Signature" = .ok header →
      history.Unforged key.publicKey text header)
    (provisioned : history.Provisioned verifier.keys) :
    ∃ message ∈ history.responses,
      ResponseAgrees response body operatorID requestID keyID created expires message := by
  obtain ⟨key, input, text, header, signature, createdUnix, expiresUnix, resolved, owned, inputHeader,
    parsed, createdTime, expiresTime, canonical, signatureHeader, decoded, verifies⟩ :=
    accepted.signature
  have signed : signedResponseText response = .ok text := by
    rw [signedResponseText, inputHeader]
    exact canonical
  cases unforged key text header resolved signed signatureHeader signature decoded verifies with
  | request message _ _ other => exact absurd canonical (canonical_apart other)
  | response message held own other =>
      obtain ⟨agrees, labels⟩ := canonicalResponse_inj canonical other
      have written := message.written
      obtain ⟨rest, labelled⟩ : ∃ rest, input.toList.dropPrefix? "sig1=".toList = some rest := by
        have parsed := present_ok.mp parsed
        obtain ⟨rest, dropped, _⟩ := Option.bind_eq_some_iff.mp parsed
        exact ⟨rest, dropped⟩
      obtain ⟨rest', labelled'⟩ := labelled_format fixedResponseComponentSet
        (unixSeconds message.created) (unixSeconds message.expires) message.key.keyID
      obtain rfl := trimSignatureLabel_inj labelled labelled' labels
      obtain ⟨createdSame, expiresSame, rfl⟩ := message.parameters sound parsed
      have agreed {name value written : String} (covered : name ∈ signedResponseHeaders)
          (single : response.singleHeader name = .ok value)
          (held : message.signed.header name = [written]) : value = written := by
        rw [agrees.headers name covered] at single
        have same := responseHeader_value single
        rw [held] at same
        exact (List.cons.inj same).1.symm
      obtain ⟨digestHeader, digest, digested⟩ := accepted.digest
      refine ⟨message, held, ⟨agrees, ?_, ?_, rfl, ?_, ?_, ?_⟩⟩
      · rw [agreed (by decide) digest written.digest] at digested
        exact sameContent sound digested
      · rw [← owned]
        exact provisioned message held key resolved own.symm
      · exact agreed (by decide) accepted.requestID written.requestID
      · exact createdTime.trans (unix_unixSeconds createdSame)
      · exact expiresTime.trans (unix_unixSeconds expiresSame)

/-! ## Signed messages bind their content -/

/-- What signing gives: the texts are injective and apart, a verifier accepts what was
signed after the epoch, and what it accepts was signed. -/
structure MessagesBind (scheme : Scheme) : Prop where
  requestText : ∀ {request other : HttpRequest} {input input' text : String},
    canonicalRequest request input = .ok text → canonicalRequest other input' = .ok text →
      request.Agrees other ∧ trimSignatureLabel input = trimSignatureLabel input'
  responseText : ∀ {response other : HttpResponse} {input input' text : String},
    canonicalResponse response input = .ok text → canonicalResponse other input' = .ok text →
      response.Agrees other ∧ trimSignatureLabel input = trimSignatureLabel input'
  apart : ∀ {request : HttpRequest} {response : HttpResponse} {input input' text : String},
    canonicalRequest request input = .ok text → canonicalResponse response input' ≠ .ok text
  requestAccepted : ∀ (message : SignedRequest scheme) {id : Nat} {clockSkew maxLifetime : Duration}
    {verifier : RequestVerifier} {ring : KeyRing} {now : Time},
    newRequestVerifier id clockSkew maxLifetime = .ok verifier →
    ring.resolveKey .httpRequest message.key.keyID = some (message.key.verification scheme) →
    Within verifier.clockSkew verifier.maxLifetime now message.created message.expires →
    Representable message.expires →
      ((∃ verified, verifier.authenticate scheme.toCrypto ring now message.delivered = .ok verified) ↔
        0 ≤ unixSeconds message.created)
  responseAccepted : ∀ (message : SignedResponse scheme)
    {keys : KeyPurpose → String → Except OperatorError (Option VerificationKey)}
    {clockSkew maxLifetime : Duration} {verifier : ResponseVerifier} {now : Time},
    newResponseVerifier keys clockSkew maxLifetime = .ok verifier →
    keys .httpResponse message.key.keyID = .ok (some (message.key.verification scheme)) →
    Within verifier.clockSkew verifier.maxLifetime now message.created message.expires →
    Representable message.expires →
      (verifier.verify scheme.toCrypto now message.signed message.body message.key.operatorID
          message.params.requestID = .ok () ↔
        0 ≤ unixSeconds message.created)
  requestAgrees : ∀ (history : History scheme) {verifier : RequestVerifier} {ring : KeyRing} {now : Time}
    {request : HttpRequest} {verified : VerifiedRequest},
    verifier.authenticate scheme.toCrypto ring now request = .ok verified →
    (∀ key text header, ring.resolveKey .httpRequest verified.keyID = some key →
      signedText request = .ok text → singleHeader request "Signature" = .ok header →
      history.Unforged key.publicKey text header) →
      ∃ message ∈ history.requests, RequestAgrees request verified message
  responseAgrees : ∀ (history : History scheme) {verifier : ResponseVerifier} {now : Time}
    {response : HttpResponse} {body : List UInt8} {operatorID requestID : String},
    verifier.verify scheme.toCrypto now response body operatorID requestID = .ok () →
    (∀ createdUnix expiresUnix keyID key text header,
      response.parameters = .ok (createdUnix, expiresUnix, keyID) →
      verifier.keys .httpResponse keyID = .ok (some key) →
      signedResponseText response = .ok text → response.singleHeader "Signature" = .ok header →
      history.Unforged key.publicKey text header) →
    history.Provisioned verifier.keys →
      ∃ message ∈ history.responses, ∃ createdUnix expiresUnix keyID,
        response.parameters = .ok (createdUnix, expiresUnix, keyID) ∧
        ResponseAgrees response body operatorID requestID keyID (unix createdUnix) (unix expiresUnix)
          message

/-- Signed messages bind their content. -/
theorem signed_messages_bind {scheme : Scheme} (sound : scheme.Sound) : MessagesBind scheme where
  requestText := canonicalRequest_inj
  responseText := canonicalResponse_inj
  apart := canonical_apart
  requestAccepted := by
    intro message id clockSkew maxLifetime verifier ring now built resolved within representable
    exact message.accepted_iff sound (SignedRequest.newRequestVerifier_skew built) resolved within
      representable
  responseAccepted := by
    intro message keys clockSkew maxLifetime verifier now built resolved within representable
    have resolver : verifier.keys = keys := by
      simp only [newResponseVerifier, bind_ok, refuse_ok, exists_unit, pure_ok] at built
      obtain ⟨_, rfl⟩ := built
      rfl
    rw [← resolver] at resolved
    exact message.accepted_iff sound (SignedResponse.newResponseVerifier_skew built) resolved within
      representable
  requestAgrees := by
    intro history verifier ring now request verified accepted unforged
    exact authenticated_agrees sound history accepted unforged
  responseAgrees := by
    intro history verifier now response body operatorID requestID accepted unforged provisioned
    obtain ⟨keyID, created, expires, accepted⟩ := believed accepted
    obtain ⟨_, input, _, _, _, createdUnix, expiresUnix, _, _, inputHeader, parsed, rfl, rfl, _⟩ :=
      accepted.signature
    have parameters : response.parameters = .ok (createdUnix, expiresUnix, keyID) := by
      rw [HttpResponse.parameters, inputHeader]
      exact parsed
    obtain ⟨message, held, agrees⟩ := believed_agrees sound history accepted
      (fun key text header => unforged createdUnix expiresUnix keyID key text header parameters)
      provisioned
    exact ⟨message, held, createdUnix, expiresUnix, keyID, parameters, agrees⟩

/-! ## One exchange -/

/-- A scheme whose signatures and digests are constant. -/
def demoScheme : Scheme where
  sha256 _ := List.replicate 32 0
  verify _ _ _ := true
  sign _ _ := List.replicate 64 0
  publicKey _ := List.replicate 32 1

theorem demoScheme_sound : demoScheme.Sound where
  digest _ := rfl
  key _ := rfl
  signature _ _ := rfl
  verifies _ _ := rfl

/-- A key that has been active since 1960. -/
def demoSigningKey : SigningKey :=
  { keyID := "key-1", operatorID := "op", purpose := .httpRequest, privateKey := List.replicate 64 2
    notBefore := 61820064000 * Duration.second, notAfter := unix 5000000000 }

def unsignedRequest : HttpRequest :=
  { method := "POST", host := "RGS.example", escapedPath := "", rawQuery := "", forceQuery := false
    header := fun _ => [], body := [] }

def demoParams (created expires : Time) : RequestSignatureParams :=
  { requestID := "req-1", idempotencyKey := "idem-1", nonce := "AAAAAAAAAAAAAAAAAAAAAA"
    created := created, expires := expires }

def demoSign (created expires : Time) : Except OperatorError HttpRequest :=
  signRequest demoScheme.toCrypto demoScheme.sign unsignedRequest [123, 125] demoSigningKey
    (demoParams created expires)

def demoSignerRing : KeyRing where
  keys := AList.insert (.httpRequest, "key-1") (demoSigningKey.verification demoScheme) ∅
  identity := by
    intro id key found
    rw [Table.lookup_insert] at found
    by_cases here : id = (.httpRequest, "key-1")
    · rw [if_pos here] at found
      rw [here, ← Option.some.inj found]
      rfl
    · rw [if_neg here] at found
      cases found

/-- The verifier with its options left open. -/
def demoRequestVerifier : RequestVerifier :=
  { id := 0, clockSkew := 0, maxLifetime := defaultSignatureLifetime }

/-- The request was signed for the last minute of 1969, and is refused in it. -/
theorem signed_before_epoch_refused :
    ∃ signed, demoSign (unix 0 - Duration.minute) (unix 0) = .ok signed ∧
      demoScheme.Sound ∧ newRequestVerifier 0 0 0 = .ok demoRequestVerifier ∧
      demoSignerRing.resolveKey .httpRequest "key-1" = some (demoSigningKey.verification demoScheme) ∧
      Within demoRequestVerifier.clockSkew demoRequestVerifier.maxLifetime
        (unix 0 - Duration.second) (unix 0 - Duration.minute) (unix 0) ∧
      demoRequestVerifier.authenticate demoScheme.toCrypto demoSignerRing (unix 0 - Duration.second)
        { signed with body := [123, 125] } = .error .malformed := by
  have run : (demoSign (unix 0 - Duration.minute) (unix 0)).toOption.map (fun signed =>
      demoRequestVerifier.authenticate demoScheme.toCrypto demoSignerRing (unix 0 - Duration.second)
        { signed with body := [123, 125] }) = some (.error .malformed) := by decide +kernel
  cases signed : demoSign (unix 0 - Duration.minute) (unix 0) with
  | error => rw [signed] at run; cases run
  | ok request =>
      rw [signed] at run
      refine ⟨request, rfl, demoScheme_sound, rfl, rfl, ?_, Option.some.inj run⟩
      unfold Within
      decide +kernel

theorem demoSign_ok : (demoSign (unix 1700000000) (unix 1700000060)).toOption.isSome = true := by
  decide +kernel

theorem ok_get {ε α : Type} {tried : Except ε α} (succeeds : tried.toOption.isSome = true) :
    tried = .ok (tried.toOption.get succeeds) := by
  cases tried with
  | error => cases succeeds
  | ok a => rfl

/-- The request, signed in 2023. -/
def demoMessage : SignedRequest demoScheme where
  request := unsignedRequest
  body := [123, 125]
  key := demoSigningKey
  params := demoParams (unix 1700000000) (unix 1700000060)
  signed := (demoSign (unix 1700000000) (unix 1700000060)).toOption.get demoSign_ok
  issued := ok_get demoSign_ok

theorem demoSignerRing_key {keyID : String} {key : VerificationKey}
    (found : demoSignerRing.resolveKey .httpRequest keyID = some key) :
    key = demoSigningKey.verification demoScheme := by
  rw [KeyRing.resolveKey, demoSignerRing, Table.lookup_insert] at found
  split at found
  next => exact (Option.some.inj found).symm
  next => cases found

theorem demoMessage_bound :
    ∃ verified, demoRequestVerifier.authenticate demoScheme.toCrypto demoSignerRing (unix 1700000001)
        demoMessage.delivered = .ok verified ∧
      RequestAgrees demoMessage.delivered verified demoMessage := by
  have within : Within demoRequestVerifier.clockSkew demoRequestVerifier.maxLifetime
      (unix 1700000001) demoMessage.created demoMessage.expires := by
    unfold Within
    decide +kernel
  have representable : Representable demoMessage.expires := by
    unfold Representable
    decide +kernel
  have built : newRequestVerifier 0 0 0 = .ok demoRequestVerifier := rfl
  have resolved : demoSignerRing.resolveKey .httpRequest demoMessage.key.keyID =
      some (demoMessage.key.verification demoScheme) := rfl
  have epoch : 0 ≤ unixSeconds demoMessage.created := by decide +kernel
  have binds := signed_messages_bind demoScheme_sound
  obtain ⟨verified, accepted⟩ :=
    (binds.requestAccepted demoMessage built resolved within representable).mpr epoch
  let history : History demoScheme := { requests := {demoMessage}, responses := ∅ }
  have unforged : ∀ key text header,
      demoSignerRing.resolveKey .httpRequest verified.keyID = some key →
      signedText demoMessage.delivered = .ok text →
      singleHeader demoMessage.delivered "Signature" = .ok header →
      history.Unforged key.publicKey text header := by
    intro key text header found signed _ signature _ _
    rw [demoSignerRing_key found]
    obtain ⟨input, inputHeader, canonical⟩ := bind_ok.mp signed
    have same := singleHeader_value inputHeader
    rw [show demoMessage.delivered.header "Signature-Input" = [demoMessage.input] from
      demoMessage.written.input] at same
    obtain rfl := (List.cons.inj same).1
    exact .request demoMessage rfl rfl canonical
  obtain ⟨message, held, agrees⟩ := binds.requestAgrees history accepted unforged
  obtain rfl := held
  exact ⟨verified, accepted, agrees⟩

end SlotsGame.Operator
