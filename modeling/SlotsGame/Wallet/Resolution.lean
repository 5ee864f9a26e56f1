/-
# SlotsGame.Wallet.Resolution -- what a resolution rests on

`Answered` is an answer that the operator signed for the one request that was sent,
and `Signed` one that reads as an answer of the protocol.  Only a signed answer that
names the command settles it; without an answer the outcome is unknown
(`resolution_sound`).
-/
import SlotsGame.Wallet.Http

namespace SlotsGame.Wallet

open SlotsGame.Rgs SlotsGame.Theory SlotsGame.Operator

set_option autoImplicit false

variable {around : Surroundings} {wallet : HTTPWallet} {sent : List HttpRequest}
  {statusCode : Int} {command : WalletRound} {requireV2Binding : Bool}

/-! ## An answer -/

/-- One request was sent, and its answer is the operator's. -/
def Answered (around : Surroundings) (wallet : HTTPWallet) (sent : List HttpRequest)
    (statusCode : Int) (body : List UInt8) : Prop :=
  ∃ requestID signed response,
    signed.header "X-Request-Id" = [requestID] ∧ sent = [around.inject signed] ∧
      around.transport (around.inject signed) = some response ∧
      response.statusCode = statusCode ∧ readBody response = some body ∧
      body.length ≤ maxWalletResponseBytes ∧
      wallet.responses.verify around.crypto around.verifiedAt response body wallet.operator
        requestID = .ok ()

/-- The answer is one of the protocol's. -/
def Signed (around : Surroundings) (wallet : HTTPWallet) (sent : List HttpRequest)
    (statusCode : Int) (response : WalletResponse) : Prop :=
  ∃ body, Answered around wallet sent statusCode body ∧
    decodeStrictObject around body = some response

/-! ## One exchange -/

/-- How an exchange ends: before the transport, without a signed answer, with one that
is not of the protocol, or with one that is. -/
inductive Ends (around : Surroundings) (wallet : HTTPWallet) : HttpExchange → List HttpRequest → Prop
  | unsent {exchange : HttpExchange} (failed : exchange.cause ≠ none)
      (unsent : exchange.sent = false) (unsigned : exchange.authenticated = false) :
      Ends around wallet exchange []
  | unsigned {exchange : HttpExchange} (request : HttpRequest) (failed : exchange.cause ≠ none)
      (sent : exchange.sent = true) (unsigned : exchange.authenticated = false) :
      Ends around wallet exchange [request]
  | malformed {exchange : HttpExchange} {sent : List HttpRequest} (body : List UInt8)
      (failed : exchange.cause ≠ none) (signed : exchange.authenticated = true)
      (answered : Answered around wallet sent exchange.statusCode body) :
      Ends around wallet exchange sent
  | answered {exchange : HttpExchange} {sent : List HttpRequest} (read : exchange.cause = none)
      (signed : Signed around wallet sent exchange.statusCode exchange.response) :
      Ends around wallet exchange sent

/-- What a resolution of a command rests on. -/
structure Sound (around : Surroundings) (wallet : HTTPWallet) (command : WalletRound)
    (requireV2Binding : Bool) (resolution : Resolution) (sent : List HttpRequest) : Prop where
  listed : ∀ name, resolution.status ≠ .other name
  succeeded : resolution.status = .succeeded → ∃ response,
    Signed around wallet sent 200 response ∧ response.status = "SUCCEEDED" ∧
      receiptFromResponse response = some resolution.receipt ∧
      (requireV2Binding = true → response.commandDigest = command.commandDigest ∧
        validateWalletReceipt command resolution.receipt = .ok ())
  rejectedFinal : resolution.status = .rejectedFinal → ∃ response,
    Signed around wallet sent 422 response ∧ ValidTerminalRejection response command requireV2Binding
  notFound : resolution.status = .notFound → ∃ response,
    Signed around wallet sent 404 response ∧ response.status = "NOT_FOUND" ∧
      (requireV2Binding = true → LookupResponseMatches response command)
  notSent : resolution.status = .notSent → sent = []
  pending : resolution.status = .pending → ∃ response,
    Signed around wallet sent 202 response ∧ response.status = "PENDING"
  conflict : resolution.status = .conflict → ∃ statusCode body,
    Answered around wallet sent statusCode body
  unanswered : sent ≠ [] → (∀ statusCode body, ¬ Answered around wallet sent statusCode body) →
    resolution.status = .unknown

/-- What the mapping of the status says of a signed answer. -/
structure Settles (command : WalletRound) (requireV2Binding : Bool) (exchange : HttpExchange)
    (resolution : Resolution) : Prop where
  listed : ∀ name, resolution.status ≠ .other name
  succeeded : resolution.status = .succeeded → exchange.statusCode = 200 ∧
    exchange.response.status = "SUCCEEDED" ∧
      receiptFromResponse exchange.response = some resolution.receipt ∧
      (requireV2Binding = true → exchange.response.commandDigest = command.commandDigest ∧
        validateWalletReceipt command resolution.receipt = .ok ())
  rejectedFinal : resolution.status = .rejectedFinal → exchange.statusCode = 422 ∧
    ValidTerminalRejection exchange.response command requireV2Binding
  notFound : resolution.status = .notFound → exchange.statusCode = 404 ∧
    exchange.response.status = "NOT_FOUND" ∧
      (requireV2Binding = true → LookupResponseMatches exchange.response command)
  sent : resolution.status ≠ .notSent
  pending : resolution.status = .pending → exchange.statusCode = 202 ∧
    exchange.response.status = "PENDING"

section Settling

variable {exchange : HttpExchange} {code : String} {cause : Option ErrorKind}

/-- A resolution that leaves the command open settles nothing. -/
theorem Settles.open_ {status : ResolutionStatus}
    (open_ : status = .conflict ∨ status = .unknown) :
    Settles command requireV2Binding exchange (resolved status code cause) := by
  rcases open_ with rfl | rfl
  · constructor <;> simp [resolved]
  · constructor <;> simp [resolved]

theorem Settles.rejected (status : exchange.statusCode = 422)
    (valid : ValidTerminalRejection exchange.response command requireV2Binding) :
    Settles command requireV2Binding exchange (resolved .rejectedFinal code cause) := by
  constructor <;> simp [resolved, status, valid]

theorem Settles.waits (status : exchange.statusCode = 202)
    (named : exchange.response.status = "PENDING") :
    Settles command requireV2Binding exchange (resolved .pending code cause) := by
  constructor <;> simp [resolved, status, named]

end Settling

/-- An exchange and the mapping of its status make a sound resolution. -/
theorem Ends.sound {exchange : HttpExchange} {resolution : Resolution}
    (ends : Ends around wallet exchange sent)
    (settles : Settles command requireV2Binding exchange resolution) :
    Sound around wallet command requireV2Binding
      (if exchange.cause ≠ none then resolutionForExchangeFailure exchange else resolution) sent := by
  cases ends with
  | unsent failed unsent unsigned =>
      rw [if_pos failed]
      constructor <;> simp [resolutionForExchangeFailure, resolved, unsent, unsigned]
  | unsigned request failed sent unsigned =>
      rw [if_pos failed]
      constructor <;> simp [resolutionForExchangeFailure, resolved, sent, unsigned]
  | malformed body failed signed answered =>
      rw [if_pos failed]
      have answer : ∃ statusCode body, Answered around wallet sent statusCode body :=
        ⟨_, _, answered⟩
      constructor <;> simp [resolutionForExchangeFailure, resolved, signed]
      · exact answer
      · exact fun _ => answer
  | answered read signed =>
      rw [if_neg (not_not.mpr read)]
      obtain ⟨body, answered, decodes⟩ := signed
      have at_ {statusCode : Int} (same : exchange.statusCode = statusCode) :
          Signed around wallet sent statusCode exchange.response :=
        ⟨body, same ▸ answered, decodes⟩
      refine
        { listed := settles.listed, succeeded := fun status => ?_, rejectedFinal := fun status => ?_
          notFound := fun status => ?_, notSent := fun status => absurd status settles.sent
          pending := fun status => ?_, conflict := fun _ => ⟨_, body, answered⟩
          unanswered := fun _ none => absurd answered (none _ body) }
      · obtain ⟨ok, rest⟩ := settles.succeeded status
        exact ⟨_, at_ ok, rest⟩
      · obtain ⟨refused, valid⟩ := settles.rejectedFinal status
        exact ⟨_, at_ refused, valid⟩
      · obtain ⟨missing, rest⟩ := settles.notFound status
        exact ⟨_, at_ missing, rest⟩
      · obtain ⟨accepted, named⟩ := settles.pending status
        exact ⟨_, at_ accepted, named⟩

/-- A command that is refused before the transport. -/
theorem Sound.refused (cause : Option ErrorKind) :
    Sound around wallet command requireV2Binding (resolved .notSent "" cause) [] := by
  constructor <;> simp [resolved]

def responseKey : VerificationKey :=
  { keyID := "key-2", operatorID := "op", purpose := .httpResponse
    publicKey := List.replicate 32 1, notBefore := 1, notAfter := unix 5000000000 }

def demoWallet : HTTPWallet where
  operator := "op"
  signing :=
    { keyID := "key-1", operatorID := "op", purpose := .httpRequest
      privateKey := List.replicate 64 1, notBefore := 1, notAfter := unix 5000000000 }
  responses :=
    { keys := fun _ _ => .ok (some responseKey), clockSkew := defaultSignatureClockSkew
      maxLifetime := defaultSignatureLifetime }

end SlotsGame.Wallet
