/-
# SlotsGame.Rgs.Fingerprint -- the digests that bind a round

A digest is SHA-256 over labelled, length-prefixed fields.  The hash and the JSON
encoder are the standard library's, so they are parameters here (`Codec`); what
goes into them is the source's.
-/
import SlotsGame.Rgs.Types

namespace SlotsGame.Rgs

open SlotsGame.Game

set_option autoImplicit false

/-! ## The historical projection of a result -/

structure LegacyPathAward where
  cells : List Position
  multiplier : Int
  baseAmountMinor : Int
  amountMinor : Int

structure LegacyWin where
  id : String
  symbol : Symbol
  ways : Int
  amountMinor : Int
  cells : List Position
  pathAwards : List LegacyPathAward

/-- A result without its paid amounts and its schema version. -/
structure LegacySpinResult where
  result : SpinResult
  wins : List LegacyWin

def makeLegacySpinResultHashProjection (result : SpinResult) : LegacySpinResult :=
  { result := { result with resultSchemaVersion := "", idleDisconnectAt := 0, wins := [] }
    wins := result.wins.map fun win =>
      { id := win.id, symbol := win.symbol, ways := win.ways, amountMinor := win.amountMinor
        cells := win.cells
        pathAwards := win.pathAwards.map fun award =>
          { cells := award.cells, multiplier := award.multiplier
            baseAmountMinor := award.baseAmountMinor, amountMinor := award.amountMinor } } }

/-! ## Digests -/

/-- The standard library's part: SHA-256 in lower-case hexadecimal, and the JSON
of a result.  The transport deadline of a result is left out of its JSON. -/
structure Codec where
  sha256 : List UInt8 → String
  sha256_digest : ∀ bytes, Text.digestPattern (sha256 bytes) = true
  marshalResult : SpinResult → List UInt8
  marshalLegacyResult : LegacySpinResult → List UInt8
  marshal_transport : ∀ (result : SpinResult) (deadline : Time),
    marshalResult { result with idleDisconnectAt := deadline } = marshalResult result

/-- A codec that writes nothing leaves the deadline out. -/
theorem Codec.silent_transport (_result : SpinResult) (_deadline : Time) :
    ([] : List UInt8) = [] := rfl

/-- `binary.BigEndian.PutUint64` -/
def putUint64 (value : Nat) : List UInt8 :=
  (List.range 8).reverse.map fun byte => UInt8.ofNat (value / 256 ^ byte)

def writeFingerprintField (name value : String) : List UInt8 :=
  let name := name.toUTF8.toList
  let value := value.toUTF8.toList
  putUint64 name.length ++ name ++ putUint64 value.length ++ value

/-- The bytes of a list of fields, in order. -/
def writeFingerprintFields (fields : List (String × String)) : List UInt8 :=
  fields.flatMap fun (name, value) => writeFingerprintField name value

variable (codec : Codec)

def fingerprintFor (request : SpinRequest) : String :=
  "rgs-fp-v2:" ++ codec.sha256 (writeFingerprintFields
    [("schema", "rgs-round-fingerprint-v2"), ("operator", request.operatorID),
      ("session", request.sessionID), ("round", request.roundID), ("game", request.gameID),
      ("definition", request.definitionVersion), ("definitionHash", request.definitionHash),
      ("currency", request.currency), ("roundKind", request.roundKind.name),
      ("betMinor", toString request.betMinor), ("startRevision", toString request.startRevision)])

def walletOperationID (request : SpinRequest) : String :=
  "rgs-op-v1:" ++ codec.sha256 (writeFingerprintFields
    [("schema", "rgs-wallet-operation-v1"), ("operator", request.operatorID),
      ("session", request.sessionID), ("round", request.roundID)])

/-- `WalletContractVersionV2` -/
def walletContractVersionV2 : String := "rgs-wallet-contract-v2"

/-- `AtomicHTTPProfileID` -/
def atomicHTTPProfileID : String := "atomic-http-v2"

/-- Every field of the command but the digest itself. -/
def commandDigestFor (command : WalletRound) : String :=
  "rgs-wallet-cmd-v1:" ++ codec.sha256 (writeFingerprintFields
    [("schema", "rgs-wallet-command-v1"), ("walletContractVersion", walletContractVersionV2),
      ("walletProfileId", atomicHTTPProfileID), ("operationId", command.operationID),
      ("fingerprint", command.fingerprint), ("operatorId", command.operatorID),
      ("playerId", command.playerID), ("walletAccountId", command.walletAccountID),
      ("walletSessionRef", command.walletSessionRef), ("rgsSessionId", command.sessionID),
      ("roundId", command.roundID), ("gameId", command.gameID),
      ("definitionVersion", command.definitionVersion),
      ("definitionHash", command.definitionHash), ("roundKind", command.roundKind.name),
      ("currency", command.currency), ("debitMinor", toString command.debitMinor),
      ("creditMinor", toString command.creditMinor)])

def outcomeHashFor (result : SpinResult) : Except RgsError String :=
  if result.resultSchemaVersion = "" then
    .ok (codec.sha256 (codec.marshalLegacyResult (makeLegacySpinResultHashProjection result)))
  else if result.resultSchemaVersion = resultSchemaPaidFactsV1 then
    .ok (codec.sha256 (codec.marshalResult result))
  else .error { kind := .storage, detail := "rgs: unsupported result schema" }

/-- The hash a round is prepared with: without the fields of the receipt. -/
def preparedOutcomeHashFor (result : SpinResult) : Except RgsError String :=
  outcomeHashFor codec { result with walletTransactionID := "", balanceMinor := 0, endRevision := 0 }

def committedResultHashFor (result : SpinResult) : Except RgsError String :=
  outcomeHashFor codec result

/-- The command of a round: who is debited and credited what, under its digest. -/
def walletCommandFor (session : Session) (request : SpinRequest) (fingerprint operationID : String)
    (result : SpinResult) : WalletRound :=
  let command : WalletRound :=
    { operationID := operationID, fingerprint := fingerprint
      operatorID := request.operatorID, playerID := session.playerID
      walletAccountID := session.walletAccountID, walletSessionRef := session.walletSessionID
      sessionID := request.sessionID, roundID := request.roundID, gameID := request.gameID
      definitionVersion := request.definitionVersion, definitionHash := request.definitionHash
      roundKind := request.roundKind, currency := request.currency
      debitMinor := result.chargedBetMinor, creditMinor := result.totalWinMinor }
  { command with commandDigest := commandDigestFor codec command }

end SlotsGame.Rgs
