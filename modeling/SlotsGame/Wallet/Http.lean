/-
# SlotsGame.Wallet.Http -- the adapter of an operator's wallet

The adapter signs a command, hands it to the transport once, and reads back what
became of the money.  A call that stops before the transport was `NotSent`; one
whose answer the operator did not sign is `Unknown`; and only a signed answer can
say more.  Each call returns the requests it handed to the transport beside its
resolution.
-/
import SlotsGame.LocalOperator.Protocol
import SlotsGame.Operator.Exchange

namespace SlotsGame.Wallet

open SlotsGame.Rgs SlotsGame.Theory SlotsGame.Operator
open SlotsGame.LocalOperator (moneyPattern decimalValue maxInt64)

set_option autoImplicit false

/-! ## What goes over the wire -/

structure RoundRequest where
  operationID : String
  fingerprint : String
  operatorID : String
  playerID : String
  walletAccountID : String
  walletSessionRef : String
  sessionID : String
  roundID : String
  gameID : String
  definitionVersion : String
  definitionHash : String
  roundKind : RoundKind
  currency : String
  debitMinor : String
  creditMinor : String
  commandDigest : String

structure LookupRequest where
  operatorID : String
  operationID : String
  fingerprint : String := ""
  commandDigest : String := ""

/-- What is marshalled into a request. -/
inductive Payload
  | round (request : RoundRequest)
  | lookup (request : LookupRequest)

structure WalletResponse where
  status : String := ""
  code : String := ""
  operationID : String := ""
  fingerprint : String := ""
  transactionID : String := ""
  operatorID : String := ""
  currency : String := ""
  debitMinor : String := ""
  creditMinor : String := ""
  balanceMinor : String := ""
  commandDigest : String := ""
  rollbackID : String := ""
  deriving DecidableEq

/-- A value of a JSON object, as far as a field of text tells values apart. -/
inductive JsonValue
  | string (text : String)
  | null
  | other
  deriving DecidableEq

/-! ## The surroundings of a call -/

/-- The adapter's own configuration. -/
structure HTTPWallet where
  operator : String
  signing : SigningKey
  responses : ResponseVerifier

/-- What a call meets on its way: its context, the standard library's JSON, URLs and
signatures, its random bytes, the two readings of the clock, and the transport, which
answers a request or fails it. -/
structure Surroundings where
  codec : Codec
  crypto : Crypto
  sign : List UInt8 → String → List UInt8
  cancelled : Bool
  marshal : Payload → Option (List UInt8)
  newRequest : String → List UInt8 → Option HttpRequest
  random : Option (List UInt8)
  now : Time
  inject : HttpRequest → HttpRequest
  transport : HttpRequest → Option HttpResponse
  verifiedAt : Time
  object : List UInt8 → Option (List (String × JsonValue))

variable (around : Surroundings) (wallet : HTTPWallet)

/-! ## Reading an answer -/

def maxWalletResponseBytes : Nat := 65536

/-- `io.ReadAll` of the body, up to one byte more than the limit. -/
def readBody (response : HttpResponse) : Option (List UInt8) :=
  if maxWalletResponseBytes + 1 ≤ response.body.length then
    some (response.body.take (maxWalletResponseBytes + 1))
  else if response.brokenOff then none
  else some response.body

/-- One rune of `foldName`, as far as it leads to ASCII. -/
def foldRune (c : Char) : Char :=
  if c = Char.ofNat 0x17F then 'S' else if c = Char.ofNat 0x212A then 'K' else c.toUpper

def foldName (name : String) : String := String.ofList (name.toList.map foldRune)

/-- The field of the answer with a folded name. -/
def WalletResponse.set (response : WalletResponse) (name value : String) : Option WalletResponse :=
  match name with
  | "STATUS" => some { response with status := value }
  | "CODE" => some { response with code := value }
  | "OPERATIONID" => some { response with operationID := value }
  | "FINGERPRINT" => some { response with fingerprint := value }
  | "TRANSACTIONID" => some { response with transactionID := value }
  | "OPERATORID" => some { response with operatorID := value }
  | "CURRENCY" => some { response with currency := value }
  | "DEBITMINOR" => some { response with debitMinor := value }
  | "CREDITMINOR" => some { response with creditMinor := value }
  | "BALANCEMINOR" => some { response with balanceMinor := value }
  | "COMMANDDIGEST" => some { response with commandDigest := value }
  | "ROLLBACKID" => some { response with rollbackID := value }
  | _ => none

/-- One field of `Decode`: `null` leaves a field as it is, and another type or an unknown
name is refused. -/
def decodeField (response : WalletResponse) (field : String × JsonValue) :
    Option WalletResponse :=
  match field.2 with
  | .string text => response.set (foldName field.1) text
  | .null => (response.set (foldName field.1) "").map fun _ => response
  | .other => none

/-- `decodeStrictObject`: the body is one object that names no field twice. -/
def decodeStrictObject (encoded : List UInt8) : Option WalletResponse := do
  let fields ← around.object encoded
  if (fields.map Prod.fst).Nodup then fields.foldlM decodeField {} else none

/-! ## One exchange -/

structure HttpExchange where
  response : WalletResponse := {}
  statusCode : Int := 0
  sent : Bool := false
  authenticated : Bool := false
  cause : Option ErrorKind := none

/-- `newCorrelation` -/
def newCorrelation : Option (String × String) :=
  around.random.map fun raw =>
    let encoded := String.ofList (rawURLEncoding.encode raw)
    ("wr_" ++ encoded, encoded)

/-- The request as it is signed, with its identifier. -/
def prepareExchange (path idempotencyKey : String) (payload : Payload) :
    Option (String × HttpRequest) := do
  if around.cancelled then none else
  let body ← around.marshal payload
  let request ← around.newRequest path body
  let (requestID, nonce) ← newCorrelation around
  let params : RequestSignatureParams :=
    { requestID := requestID, idempotencyKey := idempotencyKey, nonce := nonce
      created := around.now, expires := around.now + Duration.minute }
  match signRequest around.crypto around.sign request body wallet.signing params with
  | .ok signed => some (requestID, around.inject signed)
  | .error _ => none

/-- What an answer to the request `requestID` says. -/
def receiveExchange (requestID : String) (response : HttpResponse) : HttpExchange :=
  match readBody response with
  | none => { statusCode := response.statusCode, sent := true, cause := some .storage }
  | some body =>
      if body.length > maxWalletResponseBytes then
        { statusCode := response.statusCode, sent := true, cause := some .storage }
      else
        match wallet.responses.verify around.crypto around.verifiedAt response body wallet.operator
            requestID with
        | .error _ => { statusCode := response.statusCode, sent := true, cause := some .storage }
        | .ok _ =>
            match decodeStrictObject around body with
            | none =>
                { statusCode := response.statusCode, sent := true, authenticated := true
                  cause := some .walletReceiptInvalid }
            | some decoded =>
                { response := decoded, statusCode := response.statusCode, sent := true
                  authenticated := true }

/-- `do`, with the requests that were handed to the transport. -/
def HTTPWallet.exchange (path idempotencyKey : String) (payload : Payload) :
    HttpExchange × List HttpRequest :=
  match prepareExchange around wallet path idempotencyKey payload with
  | none => ({ cause := some .storage }, [])
  | some (requestID, request) =>
      match around.transport request with
      | none => ({ sent := true, cause := some .storage }, [request])
      | some response => (receiveExchange around wallet requestID response, [request])

/-! ## Resolutions -/

def WalletReceipt.zero : WalletReceipt :=
  { operationID := "", fingerprint := "", transactionID := "", operatorID := "", currency := ""
    debitMinor := 0, creditMinor := 0, balanceMinor := 0 }

/-- A resolution without a receipt. -/
def resolved (status : ResolutionStatus) (code : String) (cause : Option ErrorKind) : Resolution :=
  { status := status, receipt := WalletReceipt.zero, code := code, cause := cause }

def resolutionForExchangeFailure (exchange : HttpExchange) : Resolution :=
  resolved
    (if exchange.authenticated then .conflict else if exchange.sent then .unknown else .notSent) ""
    exchange.cause

def protocolConflict : Resolution := resolved .conflict "" (some .walletReceiptInvalid)

/-- `validateCommandBinding` -/
def validateCommandBinding (command : WalletRound) (required : Bool) : Except RgsError Unit :=
  if required = false ∧ command.walletSessionRef = "" ∧ command.commandDigest = "" then .ok ()
  else validateWalletCommand around.codec command

/-- `^[A-Z][A-Z0-9_]{0,127}$` -/
def walletCodePattern (code : String) : Bool :=
  Text.matchesPattern Char.isUpper (fun c => Text.upperAlphanum c || c == '_') 0 127 code

/-- As many whole characters as the budget of bytes holds. -/
def takeBytes : Nat → List Char → List Char
  | _, [] => []
  | budget, c :: rest => if c.utf8Size ≤ budget then c :: takeBytes (budget - c.utf8Size) rest else []

/-- `boundedCode`, without the part of a character that the cut leaves. -/
def boundedCode (code : String) : String := String.ofList (takeBytes 128 code.toList)

def parseMoney (value : String) : Option Int :=
  if moneyPattern value = true ∧ (decimalValue value : Int) ≤ maxInt64 then some (decimalValue value)
  else none

def receiptFromResponse (response : WalletResponse) : Option WalletReceipt := do
  let debit ← parseMoney response.debitMinor
  let credit ← parseMoney response.creditMinor
  let balance ← parseMoney response.balanceMinor
  if response.operationID = "" ∨ response.fingerprint = "" ∨ response.transactionID = "" ∨
      response.operatorID = "" ∨ response.currency = "" then none
  else
    some
      { operationID := response.operationID, fingerprint := response.fingerprint
        transactionID := response.transactionID, operatorID := response.operatorID
        currency := response.currency, debitMinor := debit, creditMinor := credit
        balanceMinor := balance }

/-- `validTerminalRejection` -/
def ValidTerminalRejection (response : WalletResponse) (reference : WalletRound)
    (requireV2Binding : Bool) : Prop :=
  response.status = "REJECTED" ∧ walletCodePattern response.code = true ∧
    response.operationID = reference.operationID ∧ response.operatorID = reference.operatorID ∧
    (reference.fingerprint = "" ∨ response.fingerprint = reference.fingerprint) ∧
    (requireV2Binding = false ∨ response.commandDigest = reference.commandDigest)

instance (response : WalletResponse) (reference : WalletRound) (requireV2Binding : Bool) :
    Decidable (ValidTerminalRejection response reference requireV2Binding) :=
  inferInstanceAs (Decidable (_ ∧ _))

/-- `lookupResponseMatches` -/
def LookupResponseMatches (response : WalletResponse) (reference : WalletRound) : Prop :=
  response.operatorID = reference.operatorID ∧ response.operationID = reference.operationID ∧
    response.fingerprint = reference.fingerprint ∧ response.commandDigest = reference.commandDigest

instance (response : WalletResponse) (reference : WalletRound) :
    Decidable (LookupResponseMatches response reference) :=
  inferInstanceAs (Decidable (_ ∧ _))

/-! ## Submitting a round -/

def roundPayload (command : WalletRound) (requireV2Binding : Bool) : Payload :=
  .round
    { operationID := command.operationID, fingerprint := command.fingerprint
      operatorID := command.operatorID, playerID := command.playerID
      walletAccountID := command.walletAccountID
      walletSessionRef := if requireV2Binding then command.walletSessionRef else ""
      sessionID := command.sessionID, roundID := command.roundID, gameID := command.gameID
      definitionVersion := command.definitionVersion, definitionHash := command.definitionHash
      roundKind := command.roundKind, currency := command.currency
      debitMinor := toString command.debitMinor, creditMinor := toString command.creditMinor
      commandDigest := if requireV2Binding then command.commandDigest else "" }

/-- The resolution of an exchange that answered a submission. -/
def resolveSubmission (command : WalletRound) (requireV2Binding : Bool) (exchange : HttpExchange) :
    Resolution :=
  let response := exchange.response
  if exchange.statusCode = 200 then
    if response.status ≠ "SUCCEEDED" then protocolConflict
    else if requireV2Binding = true ∧ response.commandDigest ≠ command.commandDigest then
      protocolConflict
    else
      match receiptFromResponse response with
      | none => protocolConflict
      | some receipt =>
          if validateWalletReceipt command receipt = .ok () then
            { status := .succeeded, receipt := receipt }
          else protocolConflict
  else if exchange.statusCode = 409 then
    if response.status ≠ "CONFLICT" then protocolConflict
    else resolved .conflict (boundedCode response.code) (some .idempotencyConflict)
  else if exchange.statusCode = 422 then
    if ¬ ValidTerminalRejection response command requireV2Binding then protocolConflict
    else resolved .rejectedFinal (boundedCode response.code) (some .walletRejected)
  else if exchange.statusCode = 202 then
    if response.status ≠ "PENDING" then protocolConflict
    else resolved .pending (boundedCode response.code) (some .walletPending)
  else resolved .unknown (boundedCode response.code) (some .storage)

/-- `submitRound` -/
def HTTPWallet.submitRoundWith (command : WalletRound) (requireV2Binding : Bool) :
    Resolution × List HttpRequest :=
  if command.operatorID ≠ wallet.operator then
    (resolved .notSent "" (some .walletReceiptInvalid), [])
  else
    match validateCommandBinding around command requireV2Binding with
    | .error error => (resolved .notSent "" (some error.kind), [])
    | .ok _ =>
        let (exchange, sent) := wallet.exchange around "/wallet/v1/rounds/apply"
          command.operationID (roundPayload command requireV2Binding)
        if exchange.cause ≠ none then (resolutionForExchangeFailure exchange, sent)
        else (resolveSubmission command requireV2Binding exchange, sent)

def HTTPWallet.submitRound (command : WalletRound) : Resolution × List HttpRequest :=
  wallet.submitRoundWith around command true

/-! ## Looking an operation up -/

def lookupPayload (reference : WalletRound) (requireV2Binding : Bool) : Payload :=
  .lookup
    { operatorID := reference.operatorID, operationID := reference.operationID
      fingerprint := if requireV2Binding then reference.fingerprint else ""
      commandDigest := if requireV2Binding then reference.commandDigest else "" }

/-- The resolution of an exchange that answered a lookup. -/
def resolveLookup (reference : WalletRound) (requireV2Binding : Bool) (exchange : HttpExchange) :
    Resolution :=
  let response := exchange.response
  if exchange.statusCode = 200 then
    if response.status ≠ "SUCCEEDED" then protocolConflict
    else if requireV2Binding = true ∧ response.commandDigest ≠ reference.commandDigest then
      protocolConflict
    else
      match receiptFromResponse response with
      | none => protocolConflict
      | some receipt =>
          if requireV2Binding = true ∧ validateWalletReceipt reference receipt ≠ .ok () then
            protocolConflict
          else { status := .succeeded, receipt := receipt }
  else if exchange.statusCode = 422 then
    if ¬ ValidTerminalRejection response reference requireV2Binding then protocolConflict
    else resolved .rejectedFinal (boundedCode response.code) (some .walletRejected)
  else if exchange.statusCode = 404 then
    if response.status ≠ "NOT_FOUND" ∨
        (requireV2Binding = true ∧ ¬ LookupResponseMatches response reference) then protocolConflict
    else resolved .notFound (boundedCode response.code) none
  else if exchange.statusCode = 202 then
    if response.status ≠ "PENDING" then protocolConflict
    else resolved .pending (boundedCode response.code) (some .walletPending)
  else if exchange.statusCode = 409 then
    if response.status ≠ "CONFLICT" then protocolConflict
    else resolved .conflict (boundedCode response.code) (some .idempotencyConflict)
  else resolved .unknown (boundedCode response.code) (some .storage)

/-- `resolve` -/
def HTTPWallet.resolveWith (reference : WalletRound) (requireV2Binding : Bool) :
    Resolution × List HttpRequest :=
  if reference.operatorID ≠ wallet.operator then
    (resolved .notSent "" (some .walletReceiptInvalid), [])
  else
    match validateCommandBinding around reference requireV2Binding with
    | .error error => (resolved .notSent "" (some error.kind), [])
    | .ok _ =>
        let (exchange, sent) := wallet.exchange around "/wallet/v1/transactions/status"
          reference.operationID (lookupPayload reference requireV2Binding)
        if exchange.cause ≠ none then (resolutionForExchangeFailure exchange, sent)
        else (resolveLookup reference requireV2Binding exchange, sent)

def HTTPWallet.resolve (reference : WalletRound) : Resolution × List HttpRequest :=
  wallet.resolveWith around reference true

end SlotsGame.Wallet
