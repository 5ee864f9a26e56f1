/-
# SlotsGame.Rgs.Validation -- what sessions, requests and commands must satisfy

The checks both repositories and the coordinator share.  Where the source runs
over a Go map of named fields, the names are checked in the order written there;
the order only decides which of several bad fields the message names.
-/
import SlotsGame.Rgs.Fingerprint
import SlotsGame.Theory.Effects

namespace SlotsGame.Rgs

open SlotsGame.Game SlotsGame.Theory FeatureState

set_option autoImplicit false

/-- `MaxClientSequence` -/
def maxClientSequence : Nat := 9007199254740991

/-- `MaxStateRevision` -/
def maxStateRevision : Nat := 9223372036854775807

def validateIdentifiers (fields : List (String × String)) : Except RgsError Unit :=
  fields.forM fun (name, value) =>
    refuse (Text.identifierPattern value = false) (invalidRequest ("invalid " ++ name))

/-! ## Sessions and requests -/

/-- The invariants of a feature state that do not depend on a definition. -/
def validatePersistedFeatureState (state : FeatureState) : Except String Unit := do
  refuse (state.rageLevel < defaultRageLevel ∨ state.rageLevel > maxRageCollected ∨
      state.rageCollected < 0 ∨ state.rageCollected > maxRageCollected ∨
      (state.rageCollected = 0 ∧ state.rageLevel ≠ defaultRageLevel))
    "Rage meter state is invalid"
  if state.active = false then do
    refuse (state.mode ≠ .unset ∧ state.mode ≠ .none) "inactive feature mode is invalid"
    refuse (state.remaining ≠ 0 ∨ state.awarded ≠ 0 ∨ state.betMinor ≠ 0 ∨ state.winMinor ≠ 0)
      "inactive feature state is not canonical"
  else do
    refuse (state.mode ≠ .expansion ∧ state.mode ≠ .overdrive) "active feature mode is invalid"
    refuse (state.remaining < 1 ∨ state.awarded < state.remaining ∨
        state.remaining > maxFeatureSpins ∨ state.awarded > maxFeatureSpins ∨
        state.betMinor ≤ 0 ∨ state.winMinor < 0)
      "active feature counters or bet are invalid"

def validateSession (session : Session) : Except RgsError Unit := do
  validateIdentifiers
    [("operatorId", session.operatorID), ("sessionId", session.sessionID),
      ("playerId", session.playerID), ("walletAccountId", session.walletAccountID),
      ("walletSessionId", session.walletSessionID), ("gameId", session.gameID),
      ("definitionVersion", session.definitionVersion)]
  refuse (Text.digestPattern session.definitionHash = false)
    (invalidRequest "invalid definition hash")
  refuse (Text.currencyPattern session.currency = false)
    (invalidRequest "currency must be a three-letter uppercase code")
  refuse (session.currencyExponent < 0 ∨ session.currencyExponent > 6)
    (invalidRequest "currency exponent must be in [0,6]")
  refuse (Text.jurisdictionPattern session.jurisdiction = false)
    (invalidRequest "invalid jurisdiction")
  refuse (session.status ≠ .active ∧ session.status ≠ .blocked ∧ session.status ≠ .closed ∧
      session.status ≠ .expired)
    (invalidRequest "invalid session status")
  refuse (session.expiresAt = 0) (invalidRequest "session expiry is required")
  refuse (session.idleDisconnect < Duration.second ∨
      session.idleDisconnect > 24 * Duration.hour ∨ session.idleDisconnectAt = 0 ∨
      session.idleDisconnectAt > session.expiresAt ∨ session.transportGeneration = 0 ∨
      session.transportGeneration > maxStateRevision)
    (invalidRequest "invalid idle-disconnect state")
  refuse (session.balanceMinor < 0) (invalidRequest "negative balance")
  refuse (session.sequence > maxClientSequence ∨ session.revision > maxStateRevision)
    (invalidRequest "sequence or revision exceeds the persistent protocol limit")
  refuse (session.pendingRoundID ≠ "" ∧ Text.identifierPattern session.pendingRoundID = false)
    (invalidRequest "invalid pending round id")
  match validatePersistedFeatureState session.feature with
  | .ok () => pure ()
  | .error text => throw (invalidRequest text)

def validateSpinRequest (request : SpinRequest) : Except RgsError Unit := do
  validateIdentifiers
    [("operatorId", request.operatorID), ("sessionId", request.sessionID),
      ("roundId", request.roundID), ("gameId", request.gameID),
      ("definitionVersion", request.definitionVersion)]
  refuse (Text.digestPattern request.definitionHash = false)
    (invalidRequest "invalid definition hash")
  refuse (Text.currencyPattern request.currency = false)
    (invalidRequest "currency must be a three-letter uppercase code")
  refuse (request.betMinor ≤ 0) (invalidRequest "bet must be positive")
  refuse (request.startRevision > maxStateRevision)
    (invalidRequest "starting revision exceeds the persistent protocol limit")
  refuse (request.transportGeneration = 0 ∨ request.transportGeneration > maxStateRevision)
    (invalidRequest "invalid transport generation")
  refuse (request.roundKind ≠ .base ∧ request.roundKind ≠ .freeSpin ∧ request.roundKind ≠ .bonus)
    (invalidRequest "invalid round kind")

def validateRoundKey (key : RoundKey) : Except RgsError Unit :=
  refuse (Text.identifierPattern key.operatorID = false ∨
      Text.identifierPattern key.sessionID = false ∨ Text.identifierPattern key.roundID = false)
    (invalidRequest "invalid round key")

def validateResultDeliveryAcknowledgement (receipt : ResultDeliveryAcknowledgement) :
    Except RgsError Unit :=
  refuse (Text.identifierPattern receipt.operatorID = false ∨
      Text.identifierPattern receipt.sessionID = false ∨
      Text.identifierPattern receipt.roundID = false ∨ receipt.sequence = 0 ∨
      receipt.sequence > maxClientSequence ∨ receipt.transportGeneration = 0 ∨
      receipt.transportGeneration > maxStateRevision ∨
      Text.digestPattern receipt.resultHash = false)
    (invalidRequest "invalid result delivery acknowledgement")

/-! ## The wallet -/

/-- `AtomicHTTPNotFoundConsistencyWindow` -/
def atomicHTTPNotFoundConsistencyWindow : Duration := Duration.second

/-- `MaximumNotFoundConsistencyWindow` -/
def maximumNotFoundConsistencyWindow : Duration := 24 * Duration.hour

def walletRouteBindingPrefix : String := "rgs-wallet-route-v1:"

/-- `strings.HasPrefix` and then a digest. -/
def hasDigestAfter (label text : String) : Bool :=
  label.toList.isPrefixOf text.toList &&
    Text.digestPattern (String.ofList (text.toList.drop label.toList.length))

def validateProfile (profile : Profile) : Except RgsError Unit :=
  let capabilities := profile.capabilities
  refuse (profile.contractVersion = "" ∨ profile.profileID = "" ∨
      hasDigestAfter walletRouteBindingPrefix profile.routeBindingID = false ∨
      capabilities.notFoundConsistencyWindow < 0 ∨
      capabilities.notFoundConsistencyWindow > maximumNotFoundConsistencyWindow ∨
      (capabilities.reapplySameOperationAfterNotFound = true ∧
        (capabilities.lookupByOperation = false ∨
          capabilities.notFoundConsistencyWindow < atomicHTTPNotFoundConsistencyWindow)) ∨
      (capabilities.reapplySameOperationAfterNotFound = false ∧
        capabilities.notFoundConsistencyWindow ≠ 0))
    (invalidRequest "invalid wallet profile")

/-- The one economic contract the coordinator settles under. -/
def SupportedSettlementProfile (profile : Profile) : Prop :=
  let capabilities := profile.capabilities
  validateProfile profile = .ok () ∧ profile.contractVersion = walletContractVersionV2 ∧
    profile.profileID = atomicHTTPProfileID ∧ capabilities.atomicRound = true ∧
    capabilities.lookupByOperation = true ∧
    capabilities.reapplySameOperationAfterNotFound = true ∧
    capabilities.explicitRollback = false ∧ capabilities.requiresWalletSessionRef = true ∧
    capabilities.requiresCommandDigest = true ∧ capabilities.returnsAuthoritativeBalance = true

instance (profile : Profile) : Decidable (SupportedSettlementProfile profile) :=
  inferInstanceAs (Decidable (_ ∧ _))

def validateWalletCommand (codec : Codec) (command : WalletRound) : Except RgsError Unit := do
  [command.operationID, command.operatorID, command.playerID, command.walletAccountID,
      command.walletSessionRef, command.sessionID, command.roundID, command.gameID,
      command.definitionVersion].forM fun value =>
    refuse (Text.identifierPattern value = false)
      (invalidRequest "invalid wallet command identity")
  refuse (hasDigestAfter "rgs-fp-v2:" command.fingerprint = false ∨
      Text.digestPattern command.definitionHash = false ∨
      Text.currencyPattern command.currency = false ∨
      (command.roundKind ≠ .base ∧ command.roundKind ≠ .freeSpin ∧ command.roundKind ≠ .bonus) ∨
      command.debitMinor < 0 ∨ command.creditMinor < 0 ∨ command.commandDigest = "" ∨
      command.commandDigest ≠ commandDigestFor codec command)
    (invalidRequest "invalid wallet command binding")

/-- A receipt confirms exactly the persisted command. -/
def validateWalletReceipt (command : WalletRound) (receipt : WalletReceipt) :
    Except RgsError Unit :=
  refuse (receipt.operationID ≠ command.operationID ∨ receipt.fingerprint ≠ command.fingerprint ∨
      receipt.operatorID ≠ command.operatorID ∨ receipt.currency ≠ command.currency ∨
      receipt.debitMinor ≠ command.debitMinor ∨ receipt.creditMinor ≠ command.creditMinor ∨
      Text.identifierPattern receipt.transactionID = false ∨ receipt.balanceMinor < 0)
    { kind := .walletReceiptInvalid }

/-! ## Preparing a round -/

def expectedRoundKind (feature : FeatureState) : RoundKind :=
  if feature.active then .freeSpin else .base

/-- `validateSessionBinding` of the memory repository, at one reading of the clock. -/
def validateSessionBinding (session : Session) (request : SpinRequest) (now : Time) :
    Except RgsError Unit := do
  refuse (session.operatorID ≠ request.operatorID ∨ session.sessionID ≠ request.sessionID)
    { kind := .sessionNotFound }
  refuse (session.gameID ≠ request.gameID ∨
      session.definitionVersion ≠ request.definitionVersion ∨
      session.definitionHash ≠ request.definitionHash ∨ session.currency ≠ request.currency)
    (invalidRequest "request does not match the session definition binding")
  refuse (session.status = .blocked) { kind := .manualReview }
  refuse (session.status ≠ .active) (invalidRequest "session is not active")
  refuse (session.expiresAt ≤ now) { kind := .sessionExpired }
  refuse (request.roundKind ≠ expectedRoundKind session.feature)
    (invalidRequest "round kind does not match feature state")
  refuse (session.revision ≠ request.startRevision) { kind := .revisionConflict }
  refuse (session.sequence ≥ maxClientSequence ∨ session.revision ≥ maxStateRevision)
    (invalidRequest "session has reached a persistent protocol limit")

def validatePreparedResult (codec : Codec) (session : Session) (request : SpinRequest)
    (result : SpinResult) : Except RgsError Unit := do
  refuse (result.resultSchemaVersion ≠ resultSchemaPaidFactsV1 ∨
      result.operatorID ≠ request.operatorID ∨ result.sessionID ≠ request.sessionID ∨
      result.roundID ≠ request.roundID ∨ result.gameID ≠ request.gameID ∨
      result.definitionVersion ≠ request.definitionVersion ∨
      result.definitionHash ≠ request.definitionHash ∨ result.currency ≠ request.currency ∨
      result.roundKind ≠ request.roundKind ∨
      result.serverTransactionID ≠ walletOperationID codec request)
    (invalidRequest "prepared result identity mismatch")
  refuse (result.startRevision ≠ request.startRevision ∨ result.endRevision ≠ 0)
    (invalidRequest "invalid prepared result revision")
  refuse (result.sequence ≠ session.sequence + 1 ∨ result.betMinor ≠ request.betMinor)
    (invalidRequest "invalid prepared result sequence or bet")
  refuse (result.chargedBetMinor < 0 ∨ result.totalWinMinor < 0 ∨ result.balanceMinor ≠ 0)
    (invalidRequest "invalid prepared result money")

/-- The idle deadline after `now`, within the session's absolute lifetime. -/
def Session.renewedIdleDisconnectAt (session : Session) (now : Time) : Time :=
  if now + session.idleDisconnect > session.expiresAt then session.expiresAt
  else now + session.idleDisconnect

/-! ## Recovering a round -/

/-- The complete persistent identity a wallet call depends on. -/
def validateWalletRecoveryRecord (codec : Codec) (session : Session) (record : RoundRecord) :
    Except RgsError Unit := do
  let request := record.request
  let result := record.result
  refuse (record.status ≠ .prepared ∧ record.status ≠ .walletPending)
    (manualReview "wallet recovery round is not claimable")
  refuse (record.key ≠ request.key ∨ session.operatorID ≠ record.key.operatorID ∨
      session.sessionID ≠ record.key.sessionID ∨ session.playerID = "" ∨
      session.walletAccountID = "" ∨ session.walletSessionID = "" ∨
      session.gameID ≠ request.gameID ∨ session.definitionVersion ≠ request.definitionVersion ∨
      session.definitionHash ≠ request.definitionHash ∨ session.currency ≠ request.currency ∨
      session.pendingRoundID ≠ record.key.roundID ∨ session.revision ≠ request.startRevision)
    (manualReview "wallet recovery session binding mismatch")
  refuse (validateSpinRequest request ≠ .ok () ∨
      record.fingerprint ≠ fingerprintFor codec request ∨
      result.operatorID ≠ record.key.operatorID ∨ result.sessionID ≠ record.key.sessionID ∨
      result.roundID ≠ record.key.roundID ∨ result.gameID ≠ request.gameID ∨
      result.definitionVersion ≠ request.definitionVersion ∨
      result.definitionHash ≠ request.definitionHash ∨ result.roundKind ≠ request.roundKind ∨
      result.currency ≠ request.currency ∨ result.startRevision ≠ request.startRevision ∨
      result.betMinor ≠ request.betMinor ∨ result.chargedBetMinor < 0 ∨ result.totalWinMinor < 0)
    (manualReview "wallet recovery round binding mismatch")
  refuse (request.roundKind = .base ∧ result.chargedBetMinor ≠ request.betMinor)
    (manualReview "wallet recovery debit mismatch")
  refuse (request.roundKind = .freeSpin ∧ result.chargedBetMinor ≠ 0)
    (manualReview "wallet recovery Free Spin debit mismatch")
  let expected := walletCommandFor codec session request record.fingerprint
    result.serverTransactionID result
  refuse (record.walletCommand ≠ expected ∨
      validateWalletCommand codec record.walletCommand ≠ .ok () ∨
      ¬ SupportedSettlementProfile record.walletProfile)
    (manualReview "wallet recovery command binding mismatch")
  refuse (preparedOutcomeHashFor codec result ≠ .ok record.outcomeHash)
    (manualReview "wallet recovery outcome binding mismatch")

def validateWalletRecoveryDisposition (disposition : WalletRecoveryDisposition) :
    Except RgsError Unit :=
  if disposition.terminal then
    refuse (disposition.nextAction ≠ .unset ∨ disposition.minimumDelay ≠ 0 ∨
        disposition.nextAttemptAt ≠ 0 ∨ disposition.applyNotSent = true)
      { kind := .invalidRequest }
  else do
    refuse (¬ disposition.nextAction.Valid) { kind := .invalidRequest }
    refuse (disposition.minimumDelay < 0 ∨ disposition.minimumDelay > 24 * Duration.hour)
      { kind := .invalidRequest }
    refuse (disposition.applyNotSent = true ∧ disposition.nextAction ≠ .apply)
      { kind := .invalidRequest }

/-- The claim still holds the lease of its round. -/
def OwnsWalletClaim (record : RoundRecord) (claim : WalletRecoveryClaim) : Prop :=
  (record.status = .prepared ∨ record.status = .walletPending) ∧ claim.leaseUntil ≠ 0 ∧
    record.walletLeaseUntil = claim.leaseUntil

instance (record : RoundRecord) (claim : WalletRecoveryClaim) :
    Decidable (OwnsWalletClaim record claim) :=
  inferInstanceAs (Decidable (_ ∧ _))

/-- `boundedReason`: the first 512 bytes, wherever a character ends. -/
def boundedReason (reason : Bytes) : Bytes :=
  if reason.length > 512 then reason.take 512 else reason

end SlotsGame.Rgs
