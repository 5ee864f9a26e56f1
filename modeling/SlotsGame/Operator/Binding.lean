/-
# SlotsGame.Operator.Binding -- a signature binds what it is about

The canonical texts of requests and of responses are lines, so each is read back to its
components, whatever these hold (`canonicalRequest_inj`, `canonicalResponse_inj`), and the
two kinds are apart by their first labels.  What a signer produces, a verifier with the
matching key accepts within its window, if the signature was created at or after the Unix
epoch: the profile of the parameters has no sign.  What a verifier accepts agrees with a
message that was signed, unless a signature was forged.
-/
import SlotsGame.Operator.Encoding
import SlotsGame.Rgs.Digests

namespace SlotsGame.Operator

open SlotsGame.Rgs SlotsGame.Text SlotsGame.Theory

set_option autoImplicit false

/-! ## Texts of lines -/

/-- A text of lines: each but the last ends with a line break. -/
theorem toList_lines (lines : List String) (last : String) :
    ("\n".intercalate (lines ++ [last])).toList =
      (lines.map String.toList).flatMap (fun line => line ++ ['\n']) ++ last.toList := by
  rw [String.toList_intercalate, List.map_append]
  induction lines with
  | nil => exact List.intercalate_singleton
  | cons line rest ih =>
      have filled : rest.map String.toList ++ [last].map String.toList ≠ [] := by simp
      rw [List.map_cons, List.cons_append, List.intercalate_cons_of_ne_nil filled, ih]
      simp only [List.flatMap_cons, List.append_assoc]
      rfl

/-- Equally many lines are told from a last one, whatever that holds. -/
theorem lines_inj {left right : List String} {last last' : String}
    (count : left.length = right.length) (clean : ∀ line ∈ left, '\n' ∉ line.toList)
    (clean' : ∀ line ∈ right, '\n' ∉ line.toList)
    (same : "\n".intercalate (left ++ [last]) = "\n".intercalate (right ++ [last'])) :
    left = right ∧ last = last' := by
  have same := congrArg String.toList same
  rw [toList_lines, toList_lines] at same
  have valid {lines : List String} (clean : ∀ line ∈ lines, '\n' ∉ line.toList) :
      ∀ content ∈ lines.map String.toList, content ∈ {content : List Char | '\n' ∉ content} := by
    intro content member
    obtain ⟨line, held, rfl⟩ := List.mem_map.mp member
    exact clean line held
  obtain ⟨lines, lasts⟩ := (SelfDelimiting.terminated '\n').frames
    (by rw [List.length_map, List.length_map, count]) (valid clean) (valid clean') same
  exact ⟨List.map_injective_iff.mpr (fun _ _ => String.toList_injective) lines,
    String.toList_injective lasts⟩

/-! ## Requests -/

/-- The headers that a request's signature covers. -/
def signedRequestHeaders : List String :=
  ["Content-Digest", "Content-Type", "X-Operator-Id", "X-Request-Id", "X-Nonce", "Idempotency-Key"]

/-- Two requests have the same signed components. -/
structure HttpRequest.Agrees (request other : HttpRequest) : Prop where
  method : request.method = other.method
  authority : toLower request.host = toLower other.host
  path : request.path = other.path
  query : request.rawQuery = other.rawQuery ∧ request.forceQuery = other.forceQuery
  headers : ∀ name ∈ signedRequestHeaders, singleHeader request name = singleHeader other name

theorem CanonicalFields.Of.agrees {fields : CanonicalFields} {request other : HttpRequest}
    (left : fields.Of request) (right : fields.Of other) : request.Agrees other where
  method := left.method.symm.trans right.method
  authority := left.authority.symm.trans right.authority
  path := left.path.symm.trans right.path
  query := ⟨left.query.1.trans right.query.1.symm, left.query.2.trans right.query.2.symm⟩
  headers := by
    intro name member
    simp only [signedRequestHeaders, List.mem_cons, List.not_mem_nil, or_false] at member
    rcases member with rfl | rfl | rfl | rfl | rfl | rfl
    · exact left.digest.trans right.digest.symm
    · exact left.contentType.trans right.contentType.symm
    · exact left.operatorID.trans right.operatorID.symm
    · exact left.requestID.trans right.requestID.symm
    · exact left.nonce.trans right.nonce.symm
    · exact left.idempotencyKey.trans right.idempotencyKey.symm

/-- The lines before the parameters of the signature. -/
def CanonicalFields.front (fields : CanonicalFields) : List String :=
  (fields.lines "").take 9

theorem CanonicalFields.lines_eq (fields : CanonicalFields) (input : String) :
    fields.lines input = fields.front ++ ["\"@signature-params\": " ++ trimSignatureLabel input] := rfl

theorem CanonicalFields.Clean.front {fields : CanonicalFields} (clean : fields.Clean) :
    ∀ line ∈ fields.front, '\n' ∉ line.toList := by
  intro line member
  have empty : '\n' ∉ "".toList := by decide
  exact clean.lines empty line.toList (List.mem_map_of_mem (List.mem_of_mem_take member))

/-- The lines determine the fields. -/
theorem CanonicalFields.front_inj {fields other : CanonicalFields}
    (same : fields.front = other.front) : fields = other := by
  simp only [CanonicalFields.front, CanonicalFields.lines, List.take_succ_cons, List.take_zero,
    List.cons.injEq] at same
  obtain ⟨method, authority, path, digest, contentType, operatorID, requestID, nonce, key, _⟩ := same
  cases fields
  cases other
  simp only [CanonicalFields.mk.injEq]
  exact ⟨label_inj method, label_inj authority, label_inj path, label_inj digest,
    label_inj contentType, label_inj operatorID, label_inj requestID, label_inj nonce, label_inj key⟩

/-- The canonical text of a request determines its components and the parameters of the
signature, whatever those hold. -/
theorem canonicalRequest_inj {request other : HttpRequest} {input input' text : String}
    (first : canonicalRequest request input = .ok text)
    (second : canonicalRequest other input' = .ok text) :
    request.Agrees other ∧ trimSignatureLabel input = trimSignatureLabel input' := by
  obtain ⟨fields, clean, rfl, described⟩ := canonicalRequest_ok first
  obtain ⟨fields', clean', same, described'⟩ := canonicalRequest_ok second
  rw [fields.lines_eq, fields'.lines_eq] at same
  have count : fields.front.length = fields'.front.length := rfl
  obtain ⟨fronts, parameters⟩ := lines_inj count clean.front clean'.front same
  obtain rfl := CanonicalFields.front_inj fronts
  exact ⟨described.agrees described', label_inj parameters⟩

/-! ## Responses -/

/-- What the lines of a response are about. -/
structure ResponseFields where
  statusCode : Int
  digest : String
  contentType : String
  requestID : String

def ResponseFields.front (fields : ResponseFields) : List String :=
  [ "\"@status\": " ++ toString fields.statusCode, "\"content-digest\": " ++ fields.digest,
    "\"content-type\": " ++ fields.contentType, "\"x-request-id\": " ++ fields.requestID ]

/-- The lines are about the response. -/
structure ResponseFields.Of (fields : ResponseFields) (response : HttpResponse) : Prop where
  statusCode : fields.statusCode = response.statusCode
  status : 100 ≤ response.statusCode ∧ response.statusCode ≤ 599
  digest : response.singleHeader "Content-Digest" = .ok fields.digest
  contentType : response.singleHeader "Content-Type" = .ok fields.contentType
  requestID : response.singleHeader "X-Request-Id" = .ok fields.requestID

theorem canonicalResponse_ok {response : HttpResponse} {input text : String}
    (accepted : canonicalResponse response input = .ok text) :
    ∃ fields : ResponseFields, fields.Of response ∧
      text = "\n".intercalate (fields.front ++ ["\"@signature-params\": " ++ trimSignatureLabel input]) := by
  simp only [canonicalResponse, bind_ok, refuse_ok, exists_unit, pure_ok, mask_ok, not_or, not_lt,
    gt_iff_lt] at accepted
  obtain ⟨status, contentType, type, _, digest, body, requestID, answers, same⟩ := accepted
  exact ⟨{ statusCode := response.statusCode, digest := digest, contentType := contentType
           requestID := requestID }, ⟨rfl, status, body, type, answers⟩, same.symm⟩

/-- The headers that a response's signature covers. -/
def signedResponseHeaders : List String := ["Content-Digest", "Content-Type", "X-Request-Id"]

/-- Two responses have the same signed components. -/
structure HttpResponse.Agrees (response other : HttpResponse) : Prop where
  statusCode : response.statusCode = other.statusCode
  headers : ∀ name ∈ signedResponseHeaders, response.singleHeader name = other.singleHeader name

theorem ResponseFields.Of.agrees {fields : ResponseFields} {response other : HttpResponse}
    (left : fields.Of response) (right : fields.Of other) : response.Agrees other where
  statusCode := left.statusCode.symm.trans right.statusCode
  headers := by
    intro name member
    simp only [signedResponseHeaders, List.mem_cons, List.not_mem_nil, or_false] at member
    rcases member with rfl | rfl | rfl
    · exact left.digest.trans right.digest.symm
    · exact left.contentType.trans right.contentType.symm
    · exact left.requestID.trans right.requestID.symm

theorem responseHeader_clean {response : HttpResponse} {name value : String}
    (single : response.singleHeader name = .ok value) : '\n' ∉ value.toList := by
  unfold HttpResponse.singleHeader at single
  split at single
  next =>
    split at single
    next => cases single
    next clean =>
      obtain rfl := Except.ok.inj single
      intro member
      exact clean (.inr (List.any_eq_true.mpr ⟨'\n', member, by decide⟩))
  next => cases single

theorem Unbroken.clean {text : String} (unbroken : Unbroken text) : '\n' ∉ text.toList := by
  intro member
  exact absurd (unbroken '\n' member) (by decide)

theorem ResponseFields.Of.front_clean {fields : ResponseFields} {response : HttpResponse}
    (described : fields.Of response) : ∀ line ∈ fields.front, '\n' ∉ line.toList := by
  intro line member
  simp only [ResponseFields.front, List.mem_cons, List.not_mem_nil, or_false] at member
  rcases member with rfl | rfl | rfl | rfl
  · exact line_clean (by decide) (Unbroken.seconds _).clean
  · exact line_clean (by decide) (responseHeader_clean described.digest)
  · exact line_clean (by decide) (responseHeader_clean described.contentType)
  · exact line_clean (by decide) (responseHeader_clean described.requestID)

theorem ResponseFields.front_inj {fields other : ResponseFields}
    (same : fields.front = other.front) : fields = other := by
  simp only [ResponseFields.front, List.cons.injEq] at same
  obtain ⟨status, digest, contentType, requestID, _⟩ := same
  cases fields
  cases other
  simp only [ResponseFields.mk.injEq]
  exact ⟨toString_int_inj (label_inj status), label_inj digest, label_inj contentType,
    label_inj requestID⟩

/-- The canonical text of a response determines its components and the parameters of the
signature, whatever those hold. -/
theorem canonicalResponse_inj {response other : HttpResponse} {input input' text : String}
    (first : canonicalResponse response input = .ok text)
    (second : canonicalResponse other input' = .ok text) :
    response.Agrees other ∧ trimSignatureLabel input = trimSignatureLabel input' := by
  obtain ⟨fields, described, rfl⟩ := canonicalResponse_ok first
  obtain ⟨fields', described', same⟩ := canonicalResponse_ok second
  have count : fields.front.length = fields'.front.length := rfl
  obtain ⟨fronts, parameters⟩ := lines_inj count described.front_clean described'.front_clean same
  obtain rfl := ResponseFields.front_inj fronts
  exact ⟨described.agrees described', label_inj parameters⟩

/-- A request is told from a response by the first label. -/
theorem canonical_apart {request : HttpRequest} {response : HttpResponse} {input input' text : String}
    (first : canonicalRequest request input = .ok text) :
    canonicalResponse response input' ≠ .ok text := by
  intro second
  obtain ⟨fields, _, rfl, _⟩ := canonicalRequest_ok first
  obtain ⟨fields', _, same⟩ := canonicalResponse_ok second
  have same := congrArg String.toList same
  rw [fields.lines_eq, toList_lines, toList_lines] at same
  simp only [CanonicalFields.front, CanonicalFields.lines, List.take_succ_cons, List.map_cons,
    List.flatMap_cons, String.toList_append, ResponseFields.front, List.append_assoc] at same
  -- The labels differ in their third letter.
  have third := (List.cons.inj (List.cons.inj (List.cons.inj same).2).2).1
  exact absurd third (by decide)

/-! ## Signatures -/

/-- Ed25519 and SHA-256, on the signer's side and on the verifier's. -/
structure Scheme extends Crypto where
  sign : List UInt8 → String → List UInt8
  publicKey : List UInt8 → List UInt8

/-- Their sizes, and that a signature verifies under the key that made it. -/
structure Scheme.Sound (scheme : Scheme) : Prop where
  digest : ∀ body, (scheme.sha256 body).length = 32
  key : ∀ privateKey, (scheme.publicKey privateKey).length = 32
  signature : ∀ privateKey text, (scheme.sign privateKey text).length = 64
  verifies : ∀ privateKey text,
    scheme.verify (scheme.publicKey privateKey) text (scheme.sign privateKey text) = true

/-- The half of a key that its verifier holds. -/
def SigningKey.verification (key : SigningKey) (scheme : Scheme) : VerificationKey :=
  { keyID := key.keyID, operatorID := key.operatorID, purpose := key.purpose
    publicKey := scheme.publicKey key.privateKey, notBefore := key.notBefore
    notAfter := key.notAfter }

/-- `now` is within the window of a signature, as its verifier takes it. -/
def Within (clockSkew maxLifetime : Duration) (now created expires : Time) : Prop :=
  expires - created ≤ maxLifetime ∧ created ≤ now + clockSkew ∧ now - clockSkew < expires

/-- The seconds fit the integers of the source, as those of every `time.Time` do. -/
def Representable (instant : Time) : Prop := unixSeconds instant ≤ maxUnix

theorem validateSigningKey_ok {key : SigningKey} {scheme : Scheme} (sound : scheme.Sound)
    (valid : validateSigningKey key = .ok ()) :
    identifierPattern key.keyID = true ∧ identifierPattern key.operatorID = true ∧
      validateVerificationKey (key.verification scheme) = .ok () := by
  simp only [validateSigningKey, bind_ok, refuse_ok, exists_unit, not_or, Bool.not_eq_false] at valid
  obtain ⟨identifiers, purpose, _, window⟩ := valid
  refine ⟨identifiers.1, identifiers.2, ?_⟩
  simp only [validateVerificationKey, bind_ok, refuse_ok, exists_unit, not_or, Bool.not_eq_false]
  exact ⟨identifiers, purpose, not_not.mpr (sound.key _), window⟩

theorem unixSeconds_truncate (instant : Time) :
    unixSeconds (truncateSecond instant) = instant / Duration.second - unixToInternal := by
  have cancelled : instant / Duration.second * Duration.second / Duration.second =
      instant / Duration.second := Int.mul_ediv_cancel _ (by decide)
  rw [unixSeconds, truncateSecond, cancelled]

/-- A whole second is read back from its Unix time. -/
theorem unix_unixSeconds {instant : Time} {seconds : Nat}
    (same : unixSeconds (truncateSecond instant) = seconds) : unix seconds = truncateSecond instant := by
  rw [unixSeconds_truncate] at same
  rw [unix, truncateSecond, ← same, Int.sub_add_cancel]

theorem unixSeconds_mono {earlier later : Time} (ordered : earlier ≤ later) :
    unixSeconds earlier ≤ unixSeconds later :=
  Int.sub_le_sub_right (Int.ediv_le_ediv (by decide) ordered) unixToInternal

/-! ## Headers and times -/

/-- Every header that is signed is read as it was written. -/
theorem singleHeader_value {request : HttpRequest} {name value : String}
    (single : singleHeader request name = .ok value) : request.header name = [value] := by
  unfold singleHeader at single
  split at single
  next written same =>
    split at single
    next => cases single
    next => rw [same, Except.ok.inj single]
  next => cases single

theorem singleHeader_single {request : HttpRequest} {name value : String}
    (held : request.header name = [value]) (filled : value ≠ "") (unbroken : Unbroken value) :
    singleHeader request name = .ok value := by
  have clean : ¬ (value = "" ∨ value.toList.any lineBreak = true) := by
    rintro (empty | broken)
    · exact filled empty
    · obtain ⟨c, member, broken⟩ := List.any_eq_true.mp broken
      rw [unbroken c member] at broken
      cases broken
  unfold singleHeader
  rw [held]
  exact if_neg clean

/-- A header that the canonical text quotes, and that was written. -/
theorem singleHeader_of {request : HttpRequest} {name quoted value : String}
    (single : singleHeader request name = .ok quoted) (held : request.header name = [value]) :
    singleHeader request name = .ok value := by
  have same := singleHeader_value single
  rw [held] at same
  rw [single, (List.cons.inj same).1]

/-- The signature, as its header holds it. -/
theorem signature_single (request : HttpRequest) {signature : List UInt8}
    (held : request.header "Signature" =
      ["sig1=:" ++ String.ofList (stdEncoding.encode signature) ++ ":"]) :
    singleHeader request "Signature" =
      .ok ("sig1=:" ++ String.ofList (stdEncoding.encode signature) ++ ":") := by
  have label : Unbroken "sig1=:" := by decide
  have colon : Unbroken ":" := by decide
  refine singleHeader_single held ?_ ((label.append (.encode _)).append colon)
  intro empty
  have letters := congrArg String.length empty
  rw [String.length_append, String.length_append] at letters
  have one : ":".length = 1 := rfl
  have none : "".length = 0 := rfl
  omega

/-- The times of a signature after the epoch, as its profile carries them. -/
theorem written_times {created expires : Time} (ordered : created < expires)
    (representable : Representable expires) (epoch : 0 ≤ unixSeconds created) :
    ∃ createdUnix expiresUnix : Nat,
      (unixSeconds created = createdUnix ∧ createdUnix ≤ maxUnix) ∧
        (unixSeconds expires = expiresUnix ∧ expiresUnix ≤ maxUnix) := by
  have later := unixSeconds_mono (Int.le_of_lt ordered)
  obtain ⟨createdUnix, createdSame⟩ := Int.eq_ofNat_of_zero_le epoch
  obtain ⟨expiresUnix, expiresSame⟩ := Int.eq_ofNat_of_zero_le (Int.le_trans epoch later)
  unfold Representable at representable
  exact ⟨createdUnix, expiresUnix, ⟨createdSame, by omega⟩, ⟨expiresSame, by omega⟩⟩

/-- A key that was active for the signature is active for its verifier. -/
theorem active_within {notBefore notAfter created expires now skew : Int} (skewed : 0 ≤ skew)
    (started : notBefore ≤ created) (ends : expires ≤ notAfter) (running : now - skew < expires) :
    ¬ created < notBefore - skew ∧ ¬ notAfter + skew < expires ∧ ¬ notAfter + skew < now := by
  omega

/-! ## A signed request -/

/-- A request that `SignRequest` has signed. -/
structure SignedRequest (scheme : Scheme) where
  request : HttpRequest
  body : List UInt8
  key : SigningKey
  params : RequestSignatureParams
  signed : HttpRequest
  issued : signRequest scheme.toCrypto scheme.sign request body key params = .ok signed

namespace SignedRequest

variable {scheme : Scheme} (message : SignedRequest scheme)

def created : Time := truncateSecond message.params.created

def expires : Time := truncateSecond message.params.expires

def input : String :=
  formatSignatureInput (unixSeconds message.created) (unixSeconds message.expires) message.key.keyID

/-- The request with its body, as it arrives. -/
def delivered : HttpRequest := { message.signed with body := message.body }

/-- What `SignRequest` has checked and written. -/
structure Written : Prop where
  size : message.body.length ≤ maximumSignedRequestBody
  key : validateSigningKey message.key = .ok ()
  purpose : message.key.purpose = .httpRequest
  identifiers : identifierPattern message.params.requestID = true ∧
    identifierPattern message.params.idempotencyKey = true ∧ validNonce message.params.nonce = true
  window : message.created < message.expires ∧
    message.expires - message.created ≤ defaultSignatureLifetime
  active : message.key.notBefore ≤ message.created ∧ message.expires ≤ message.key.notAfter
  operatorID : message.signed.header "X-Operator-Id" = [message.key.operatorID]
  requestID : message.signed.header "X-Request-Id" = [message.params.requestID]
  idempotencyKey : message.signed.header "Idempotency-Key" = [message.params.idempotencyKey]
  nonce : message.signed.header "X-Nonce" = [message.params.nonce]
  digest : message.signed.header "Content-Digest" = [makeContentDigest scheme.toCrypto message.body]
  input : message.signed.header "Signature-Input" = [message.input]
  text : ∃ text, canonicalRequest message.signed message.input = .ok text ∧
    message.signed.header "Signature" =
      ["sig1=:" ++ String.ofList (stdEncoding.encode (scheme.sign message.key.privateKey text)) ++ ":"]

/-- The signature is not among the components. -/
theorem canonicalRequest_set (request : HttpRequest) (value input : String) :
    canonicalRequest (request.set "Signature" value) input = canonicalRequest request input := rfl

theorem written : message.Written := by
  have issued := message.issued
  simp only [signRequest, bind_ok, refuse_ok, exists_unit, pure_ok, not_or, not_not,
    Bool.not_eq_false, gt_iff_lt, not_lt, not_le] at issued
  obtain ⟨size, valid, purpose, identifiers, ⟨_, _, ordered, short⟩, active, text, canonical, same⟩ :=
    issued
  constructor
  case size => exact size
  case key => exact valid
  case purpose => exact purpose
  case identifiers => exact identifiers
  case window => exact ⟨ordered, short⟩
  case active => exact active
  case text =>
    refine ⟨text, ?_, ?_⟩
    · rw [← same, canonicalRequest_set]
      exact canonical
    · rw [← same]
      rfl
  all_goals
    rw [← same]
    rfl

theorem newRequestVerifier_skew {id : Nat} {clockSkew maxLifetime : Duration}
    {verifier : RequestVerifier}
    (built : newRequestVerifier id clockSkew maxLifetime = .ok verifier) : 0 ≤ verifier.clockSkew := by
  simp only [newRequestVerifier, bind_ok, refuse_ok, exists_unit, pure_ok, not_or, not_lt] at built
  obtain ⟨⟨skewed, _⟩, _, rfl⟩ := built
  exact skewed

/-- Without the sign of an instant before the epoch, the verifier accepts what was signed. -/
theorem accepted (sound : scheme.Sound) {verifier : RequestVerifier} (skewed : 0 ≤ verifier.clockSkew)
    {ring : KeyRing} {now : Time}
    (resolved : ring.resolveKey .httpRequest message.key.keyID =
      some (message.key.verification scheme))
    (within : Within verifier.clockSkew verifier.maxLifetime now message.created message.expires)
    (representable : Representable message.expires) (epoch : 0 ≤ unixSeconds message.created) :
    ∃ verified, verifier.authenticate scheme.toCrypto ring now message.delivered = .ok verified := by
  have written := message.written
  obtain ⟨keyID, operatorID, valid⟩ := validateSigningKey_ok sound written.key
  obtain ⟨text, canonical, signatureHeader⟩ := written.text
  obtain ⟨fields, _, _, described⟩ := canonicalRequest_ok canonical
  obtain ⟨createdUnix, expiresUnix, createdWritten, expiresWritten⟩ :=
    written_times written.window.1 representable epoch
  have parsed : parseSignatureInput message.input =
      .ok (createdUnix, expiresUnix, message.key.keyID) := by
    rw [parseSignatureInput_eq, input, formatSignatureInput_eq]
    exact (parseInputOf_format fixedSignatureComponentSet keyID).mpr
      ⟨createdWritten, expiresWritten, rfl⟩
  have createdTime : unix createdUnix = message.created := unix_unixSeconds createdWritten.1
  have expiresTime : unix expiresUnix = message.expires := unix_unixSeconds expiresWritten.1
  -- The headers as the verifier reads them.
  have listed : Unbroken fixedSignatureComponentSet := by decide +kernel
  have inputHeader : singleHeader message.delivered "Signature-Input" = .ok message.input := by
    refine singleHeader_single written.input ?_ (.format listed keyID _ _)
    intro empty
    rw [empty] at parsed
    cases parsed
  have signatureSingle := signature_single message.delivered signatureHeader
  have operator := singleHeader_of described.operatorID written.operatorID
  have request := singleHeader_of described.requestID written.requestID
  have key := singleHeader_of described.idempotencyKey written.idempotencyKey
  have nonce := singleHeader_of described.nonce written.nonce
  have digest := singleHeader_of described.digest written.digest
  have digested : decodeFixedBase64 "sha-256=:" (makeContentDigest scheme.toCrypto message.body) 32 =
      .ok (scheme.sha256 message.body) := decodeFixedBase64_encode _ (sound.digest _)
  have active := active_within skewed written.active.1 written.active.2 within.2.2
  simp only [RequestVerifier.authenticate, bind_ok, refuse_ok, exists_unit, pure_ok, Prod.exists,
    present_ok, mask_ok, not_or, not_not, gt_iff_lt, Bool.not_eq_false]
  refine ⟨_, Nat.not_lt.mpr written.size, message.input, inputHeader, createdUnix, expiresUnix,
    message.key.keyID, parsed, message.key.verification scheme, resolved, valid, ?_, ?_, ?_, ?_,
    message.key.operatorID, operator, rfl, message.params.requestID, request, written.identifiers.1,
    message.params.idempotencyKey, key, written.identifiers.2.1, message.params.nonce, nonce,
    written.identifiers.2.2, _, digest, _, digested, rfl, text, canonical, _, signatureSingle, _,
    decodeFixedBase64_encode _ (sound.signature _ _), sound.verifies _ _, rfl⟩
  · rw [createdTime, expiresTime]
    exact ⟨Int.not_le.mpr written.window.1, Int.not_lt.mpr within.1⟩
  · rw [createdTime]
    exact Int.not_lt.mpr within.2.1
  · rw [expiresTime]
    exact Int.not_le.mpr within.2.2
  · rw [createdTime, expiresTime]
    exact active

/-- The parameters of an accepted signature are those that the input was written with. -/
theorem parameters (sound : scheme.Sound) {createdUnix expiresUnix : Nat} {keyID : String}
    (parsed : parseSignatureInput message.input = .ok (createdUnix, expiresUnix, keyID)) :
    unixSeconds message.created = createdUnix ∧ unixSeconds message.expires = expiresUnix ∧
      keyID = message.key.keyID := by
  have valid := (validateSigningKey_ok sound message.written.key).1
  rw [parseSignatureInput_eq, input, formatSignatureInput_eq] at parsed
  obtain ⟨⟨created, _⟩, ⟨expires, _⟩, same⟩ :=
    (parseInputOf_format fixedSignatureComponentSet valid).mp parsed
  exact ⟨created, expires, same⟩

/-- Within its window a signed request is accepted, if it was not signed before the epoch. -/
theorem accepted_iff (sound : scheme.Sound) {verifier : RequestVerifier}
    (skewed : 0 ≤ verifier.clockSkew) {ring : KeyRing} {now : Time}
    (resolved : ring.resolveKey .httpRequest message.key.keyID =
      some (message.key.verification scheme))
    (within : Within verifier.clockSkew verifier.maxLifetime now message.created message.expires)
    (representable : Representable message.expires) :
    (∃ verified, verifier.authenticate scheme.toCrypto ring now message.delivered = .ok verified) ↔
      0 ≤ unixSeconds message.created := by
  constructor
  · rintro ⟨verified, authenticated⟩
    obtain ⟨input, text, createdUnix, expiresUnix, header, parsed, _⟩ :=
      (authenticate_ok authenticated).signed
    have same := singleHeader_value header
    rw [show message.delivered.header "Signature-Input" = [message.input] from
      message.written.input] at same
    obtain rfl := (List.cons.inj same).1
    rw [(message.parameters sound parsed).1]
    exact Int.natCast_nonneg createdUnix
  · exact message.accepted sound skewed resolved within representable

end SignedRequest

/-! ## A signed response -/

/-- The headers of a response are read as those of a request. -/
def HttpResponse.headed (response : HttpResponse) : HttpRequest :=
  { method := "", host := "", escapedPath := "", rawQuery := "", forceQuery := false
    header := response.header, body := response.body }

theorem singleHeader_headed (response : HttpResponse) (name : String) :
    response.singleHeader name = singleHeader response.headed name := rfl

theorem responseHeader_value {response : HttpResponse} {name value : String}
    (single : response.singleHeader name = .ok value) : response.header name = [value] := by
  rw [singleHeader_headed] at single
  exact singleHeader_value single

theorem responseHeader_of {response : HttpResponse} {name quoted value : String}
    (single : response.singleHeader name = .ok quoted) (held : response.header name = [value]) :
    response.singleHeader name = .ok value := by
  rw [singleHeader_headed] at single ⊢
  exact singleHeader_of single held

/-- A response that `SignResponse` has signed. -/
structure SignedResponse (scheme : Scheme) where
  response : HttpResponse
  body : List UInt8
  key : SigningKey
  params : ResponseSignatureParams
  signed : HttpResponse
  issued : signResponse scheme.toCrypto scheme.sign response body key params = .ok signed

namespace SignedResponse

variable {scheme : Scheme} (message : SignedResponse scheme)

def created : Time := truncateSecond message.params.created

def expires : Time := truncateSecond message.params.expires

def input : String :=
  formatResponseSignatureInput (unixSeconds message.created) (unixSeconds message.expires)
    message.key.keyID

/-- What `SignResponse` has checked and written. -/
structure Written : Prop where
  size : message.body.length ≤ maximumSignedRequestBody
  identifier : identifierPattern message.params.requestID = true
  key : validateSigningKey message.key = .ok ()
  window : message.created < message.expires ∧
    message.expires - message.created ≤ defaultSignatureLifetime
  active : message.key.notBefore ≤ message.created ∧ message.expires ≤ message.key.notAfter
  requestID : message.signed.header "X-Request-Id" = [message.params.requestID]
  digest : message.signed.header "Content-Digest" = [makeContentDigest scheme.toCrypto message.body]
  input : message.signed.header "Signature-Input" = [message.input]
  text : ∃ text, canonicalResponse message.signed message.input = .ok text ∧
    message.signed.header "Signature" =
      ["sig1=:" ++ String.ofList (stdEncoding.encode (scheme.sign message.key.privateKey text)) ++ ":"]

theorem canonicalResponse_set (response : HttpResponse) (value input : String) :
    canonicalResponse (response.set "Signature" value) input = canonicalResponse response input := rfl

theorem written : message.Written := by
  have issued := message.issued
  simp only [signResponse, bind_ok, refuse_ok, exists_unit, pure_ok, not_or, not_not,
    Bool.not_eq_false, gt_iff_lt, not_lt, not_le] at issued
  obtain ⟨⟨size, identifier⟩, valid, _, ⟨_, ordered, short, active⟩, text, canonical, same⟩ := issued
  constructor
  case size => exact size
  case identifier => exact identifier
  case key => exact valid
  case window => exact ⟨ordered, short⟩
  case active => exact active
  case text =>
    refine ⟨text, ?_, ?_⟩
    · rw [← same, canonicalResponse_set]
      exact canonical
    · rw [← same]
      rfl
  all_goals
    rw [← same]
    rfl

/-- The parameters of an accepted signature are those that the input was written with. -/
theorem parameters (sound : scheme.Sound) {createdUnix expiresUnix : Nat} {keyID : String}
    (parsed : parseResponseSignatureInput message.input = .ok (createdUnix, expiresUnix, keyID)) :
    unixSeconds message.created = createdUnix ∧ unixSeconds message.expires = expiresUnix ∧
      keyID = message.key.keyID := by
  have valid := (validateSigningKey_ok sound message.written.key).1
  rw [parseResponseSignatureInput, input, formatResponseSignatureInput] at parsed
  obtain ⟨⟨created, _⟩, ⟨expires, _⟩, same⟩ :=
    (parseInputOf_format fixedResponseComponentSet valid).mp parsed
  exact ⟨created, expires, same⟩

theorem newResponseVerifier_skew
    {keys : KeyPurpose → String → Except OperatorError (Option VerificationKey)}
    {clockSkew maxLifetime : Duration} {verifier : ResponseVerifier}
    (built : newResponseVerifier keys clockSkew maxLifetime = .ok verifier) :
    0 ≤ verifier.clockSkew := by
  simp only [newResponseVerifier, bind_ok, refuse_ok, exists_unit, pure_ok, not_or, not_lt] at built
  obtain ⟨⟨skewed, _⟩, rfl⟩ := built
  exact skewed

/-- Without the sign of an instant before the epoch, the verifier accepts what was signed. -/
theorem accepted (sound : scheme.Sound) {verifier : ResponseVerifier} (skewed : 0 ≤ verifier.clockSkew)
    {now : Time}
    (resolved : verifier.keys .httpResponse message.key.keyID =
      .ok (some (message.key.verification scheme)))
    (within : Within verifier.clockSkew verifier.maxLifetime now message.created message.expires)
    (representable : Representable message.expires) (epoch : 0 ≤ unixSeconds message.created) :
    verifier.verify scheme.toCrypto now message.signed message.body message.key.operatorID
      message.params.requestID = .ok () := by
  have written := message.written
  obtain ⟨keyID, operatorID, valid⟩ := validateSigningKey_ok sound written.key
  obtain ⟨text, canonical, signatureHeader⟩ := written.text
  obtain ⟨fields, described, _⟩ := canonicalResponse_ok canonical
  obtain ⟨createdUnix, expiresUnix, createdWritten, expiresWritten⟩ :=
    written_times written.window.1 representable epoch
  have parsed : parseResponseSignatureInput message.input =
      .ok (createdUnix, expiresUnix, message.key.keyID) :=
    (parseInputOf_format fixedResponseComponentSet keyID).mpr
      ⟨createdWritten, expiresWritten, rfl⟩
  have createdTime : unix createdUnix = message.created := unix_unixSeconds createdWritten.1
  have expiresTime : unix expiresUnix = message.expires := unix_unixSeconds expiresWritten.1
  have listed : Unbroken fixedResponseComponentSet := by decide +kernel
  have inputHeader : message.signed.singleHeader "Signature-Input" = .ok message.input := by
    have unbroken : Unbroken message.input := .format listed keyID _ _
    rw [singleHeader_headed]
    refine singleHeader_single written.input ?_ unbroken
    intro empty
    rw [empty] at parsed
    cases parsed
  have signatureSingle := signature_single (message.signed.headed) signatureHeader
  have request := responseHeader_of described.requestID written.requestID
  have digest := responseHeader_of described.digest written.digest
  have digested : decodeFixedBase64 "sha-256=:" (makeContentDigest scheme.toCrypto message.body) 32 =
      .ok (scheme.sha256 message.body) := decodeFixedBase64_encode _ (sound.digest _)
  have active := active_within skewed written.active.1 written.active.2 within.2.2
  simp only [ResponseVerifier.verify, bind_ok, refuse_ok, exists_unit, Prod.exists, present_ok,
    mask_ok, not_or, not_not, gt_iff_lt, Bool.not_eq_false]
  refine ⟨⟨Nat.not_lt.mpr written.size, operatorID, written.identifier⟩, message.input, inputHeader,
    createdUnix, expiresUnix, message.key.keyID, parsed, _, resolved, message.key.verification scheme,
    rfl, valid, rfl, ?_, ?_, ?_, ?_, message.params.requestID, request, rfl, _, digest, _, digested,
    rfl, text, canonical, _, signatureSingle, _, decodeFixedBase64_encode _ (sound.signature _ _),
    sound.verifies _ _⟩
  · rw [createdTime, expiresTime]
    exact ⟨Int.not_le.mpr written.window.1, Int.not_lt.mpr within.1⟩
  · rw [createdTime]
    exact Int.not_lt.mpr within.2.1
  · rw [expiresTime]
    exact Int.not_le.mpr within.2.2
  · rw [createdTime, expiresTime]
    exact ⟨active.1, active.2.1⟩

/-- Within its window a signed response is believed, if it was not signed before the epoch. -/
theorem accepted_iff (sound : scheme.Sound) {verifier : ResponseVerifier}
    (skewed : 0 ≤ verifier.clockSkew) {now : Time}
    (resolved : verifier.keys .httpResponse message.key.keyID =
      .ok (some (message.key.verification scheme)))
    (within : Within verifier.clockSkew verifier.maxLifetime now message.created message.expires)
    (representable : Representable message.expires) :
    verifier.verify scheme.toCrypto now message.signed message.body message.key.operatorID
        message.params.requestID = .ok () ↔
      0 ≤ unixSeconds message.created := by
  constructor
  · intro believed
    simp only [ResponseVerifier.verify, bind_ok, exists_unit, Prod.exists] at believed
    obtain ⟨_, input, header, createdUnix, expiresUnix, keyID, parsed, _⟩ := believed
    have same := responseHeader_value header
    rw [message.written.input] at same
    obtain rfl := (List.cons.inj same).1
    rw [(message.parameters sound parsed).1]
    exact Int.natCast_nonneg createdUnix
  · exact message.accepted sound skewed resolved within representable

end SignedResponse

end SlotsGame.Operator
