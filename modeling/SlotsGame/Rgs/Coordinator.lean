/-
# SlotsGame.Rgs.Coordinator -- rounds between the store and the wallet

What a coordinator does for a round, as programs that ask its store and its wallet.
A call of the wallet is two actions, since anything may happen between them: the
request leaves, and its resolution comes back.

An error of the source may join several; `Errors` is the list of them, and
`errors.Is` looks for one.  Contexts are left out: a program that is cut short stops
between two actions, and a call whose context has ended fails.
-/
import SlotsGame.Rgs.Outcome
import SlotsGame.Theory.Programs

namespace SlotsGame.Rgs

open SlotsGame.Theory

set_option autoImplicit false

variable {ω : Type}

/-! ## Actions -/

inductive CoordinatorAction (ω : Type)
  | store (call : RepositoryCall ω)
  | profileFor (operatorID : String)
  | submit (command : WalletRound)
  | submitted (command : WalletRound)
  | resolve (reference : WalletRound)
  | resolved (reference : WalletRound)

def CoordinatorAction.Reply : CoordinatorAction ω → Type
  | store call => Except RgsError call.Reply
  | profileFor _ => Except RgsError Profile
  | submit _ | resolve _ => Unit
  | submitted _ | resolved _ => Resolution

def coordinatorInterface (ω : Type) : Interface :=
  { Action := CoordinatorAction ω, Reply := CoordinatorAction.Reply }

abbrev CoordinatorProgram (ω : Type) (α : Type) := Program (coordinatorInterface ω) α

def callStore (call : RepositoryCall ω) : CoordinatorProgram ω (Except RgsError call.Reply) :=
  Program.ask (I := coordinatorInterface ω) (.store call)

def getRound (key : RoundKey) : CoordinatorProgram ω (Except RgsError RoundRecord) :=
  callStore (.getRound key)

def profileFor (operatorID : String) : CoordinatorProgram ω (Except RgsError Profile) :=
  Program.ask (I := coordinatorInterface ω) (.profileFor operatorID)

/-- `SubmitRound` -/
def submitRound (command : WalletRound) : CoordinatorProgram ω Resolution := do
  let _ : Unit ← Program.ask (I := coordinatorInterface ω) (.submit command)
  Program.ask (I := coordinatorInterface ω) (.submitted command)

/-- `Resolve`, of the operation of a command. -/
def resolveOperation (reference : WalletRound) : CoordinatorProgram ω Resolution := do
  let _ : Unit ← Program.ask (I := coordinatorInterface ω) (.resolve reference)
  Program.ask (I := coordinatorInterface ω) (.resolved reference)

/-! ## Errors -/

/-- `errors.Join` of these. -/
abbrev Errors := List RgsError

/-- What a call returns: a result, or errors. -/
abbrev Outcome (α : Type) := Except Errors α

def failWith {α : Type} (kind : ErrorKind) : Outcome α := .error [{ kind := kind }]

/-- The error of an outcome, if any. -/
def errorsOf {α : Type} : Outcome α → Errors
  | .ok _ => []
  | .error errors => errors

def claimIntegrityFailure (error : RgsError) : Prop :=
  error.kind = .manualReview ∨ error.kind = .revisionConflict

instance (error : RgsError) : Decidable (claimIntegrityFailure error) :=
  inferInstanceAs (Decidable (_ ∨ _))

/-- The cause of a resolution, as an error to join. -/
def Resolution.causes (resolution : Resolution) : Errors :=
  resolution.cause.toList.map fun kind => { kind := kind }

def persistedRoundIntegrityFailure : Bytes :=
  "persisted round integrity validation failed".toUTF8.toList

/-- `ManualReviewReasonWalletReceiptInvalid` and its two siblings. -/
def commitManualReviewReason (error : RgsError) : Bytes :=
  if error.kind = .walletReceiptInvalid then "WALLET_RECEIPT_INVALID".toUTF8.toList
  else if error.kind = .revisionConflict then "COMMIT_REVISION_CONFLICT".toUTF8.toList
  else "COMMIT_STATE_INTEGRITY_FAILURE".toUTF8.toList

/-! ## Results -/

/-- What a record that is done means for its caller; `none` when it is not done. -/
def terminalRoundResult (record : RoundRecord) : Option (Outcome SpinResult) :=
  match record.status with
  | .committed => some (.ok record.result)
  | .rejected => some (failWith .roundRejected)
  | .manualReview => some (failWith .manualReview)
  | .riskPending => some (failWith .riskPending)
  | .prepared | .walletPending => none
  | .other _ => some (.error [manualReview "unknown round status"])

/-- A result and what is to become of its claim. -/
abbrev Reconciled := Outcome SpinResult × WalletRecoveryDisposition

def terminal (result : Outcome SpinResult) : Reconciled := (result, { terminal := true })

def quarantinePersistedRound (key : RoundKey) : CoordinatorProgram ω Errors := do
  match ← callStore (.markManualReview key persistedRoundIntegrityFailure) with
  | .error error => return [{ kind := .manualReview }, error]
  | .ok _ => return [{ kind := .manualReview }]

def resolveStaleClaim (key : RoundKey) : CoordinatorProgram ω Reconciled := do
  match ← getRound key with
  | .error error => return terminal (.error [error])
  | .ok latest => return terminal ((terminalRoundResult latest).getD (failWith .walletPending))

def markClaimForManualReview (claim : WalletRecoveryClaim) (reason : String) (cause : Errors) :
    CoordinatorProgram ω Reconciled := do
  match ← callStore (.markClaimManualReview claim reason.toUTF8.toList) with
  | .ok _ => return terminal (failWith .manualReview)
  | .error error =>
      if error.kind = .staleWalletClaim then
        resolveStaleClaim claim.record.key
      else if claimIntegrityFailure error then
        let errors ← quarantinePersistedRound claim.record.key
        return terminal (.error (cause ++ errors))
      else return terminal (.error (cause ++ [error]))

def commitReceipt (claim : WalletRecoveryClaim) (receipt : WalletReceipt) :
    CoordinatorProgram ω (Outcome SpinResult) := do
  match ← callStore (.commitClaim claim receipt) with
  | .ok (record, _) => return .ok record.result
  | .error error =>
      if error.kind = .sessionIntegrity then
        return failWith .sessionIntegrity
      else if error.kind = .staleWalletClaim then
        let (result, _) ← resolveStaleClaim claim.record.key
        return result
      else if error.kind = .walletReceiptInvalid ∨ claimIntegrityFailure error then
        match ← callStore (.markClaimManualReview claim (commitManualReviewReason error)) with
        | .ok _ => return failWith .manualReview
        | .error marking =>
            if marking.kind = .staleWalletClaim then
              let (result, _) ← resolveStaleClaim claim.record.key
              return result
            else if claimIntegrityFailure marking then
              let errors ← quarantinePersistedRound claim.record.key
              return .error (error :: errors)
            else return .error [error, marking]
      else return .error [error]

def rejectRound (claim : WalletRecoveryClaim) (code : String) :
    CoordinatorProgram ω Reconciled := do
  let failureCode := if code = "" then "WALLET_REJECTED" else code
  match ← callStore (.rejectClaim claim failureCode.toUTF8.toList) with
  | .ok _ => return terminal (failWith .walletRejected)
  | .error error =>
      if error.kind = .staleWalletClaim then
        resolveStaleClaim claim.record.key
      else if error.kind = .manualReview then
        let errors ← quarantinePersistedRound claim.record.key
        return terminal (.error errors)
      else return terminal (.error [error])

/-- The round goes on: another claim does `next`. -/
def goOn (disposition : WalletRecoveryDisposition) : Reconciled :=
  (failWith .walletPending, disposition)

/-- The disposition of a claim whose call did not leave. -/
def notSent (claim : WalletRecoveryClaim) : WalletRecoveryDisposition :=
  { nextAction := claim.action, applyNotSent := decide (claim.action = .apply) }

def applyWalletResolution (claim : WalletRecoveryClaim) (profile : Profile)
    (resolution : Resolution) : CoordinatorProgram ω Reconciled :=
  match resolution.status with
  | .succeeded => do
      let result ← commitReceipt claim resolution.receipt
      return terminal result
  | .rejectedFinal => rejectRound claim resolution.code
  | .conflict =>
      markClaimForManualReview claim "wallet operation identity conflict" resolution.causes
  | .pending | .unknown => return goOn { nextAction := .lookup }
  | .notSent => return goOn (notSent claim)
  | .notFound =>
      if claim.action ≠ .lookup then
        markClaimForManualReview claim "wallet apply returned NOT_FOUND" resolution.causes
      else if ¬ profile.capabilities.reapplySameOperationAfterNotFound then
        markClaimForManualReview claim "wallet operation is absent and cannot be reapplied" []
      else
        return goOn
          { nextAction := .apply
            minimumDelay := profile.capabilities.notFoundConsistencyWindow }
  | .other _ =>
      markClaimForManualReview claim "wallet returned an invalid resolution" resolution.causes

/-! ## Coordinators -/

/-- A coordinator, as far as its programs depend on it. -/
structure Coordinator (ω : Type) where
  codec : Codec
  definitions : DefinitionRegistry ω
  gates : IntentGates ω
  walletLease : Duration
  maxWalletAttempts : Int
  attempts_positive : 0 < maxWalletAttempts

namespace Coordinator

variable (coordinator : Coordinator ω)

/-- The guard of `ReconcileClaim`. -/
def InvalidClaim (claim : WalletRecoveryClaim) : Prop :=
  ¬ claim.action.Valid ∨ claim.leaseUntil = 0 ∨ claim.record.key ≠ claim.record.request.key ∨
    claim.record.walletLeaseUntil ≠ claim.leaseUntil

instance (claim : WalletRecoveryClaim) : Decidable (InvalidClaim claim) :=
  inferInstanceAs (Decidable (_ ∨ _))

/-- The wallet call of a claim, once its profile is settled. -/
def executeWalletClaim (claim : WalletRecoveryClaim) (profile : Profile) :
    CoordinatorProgram ω Reconciled := do
  let resolution ←
    if claim.action = .apply then submitRound claim.record.walletCommand
    else resolveOperation claim.record.walletCommand
  applyWalletResolution claim profile resolution

def reconcileClaim (claim : WalletRecoveryClaim) : CoordinatorProgram ω Reconciled :=
  if InvalidClaim claim then
    return terminal (failWith .invalidRequest)
  else
    match terminalRoundResult claim.record with
    | some result => return terminal result
    | none =>
        if claim.action = .apply ∧
            claim.record.walletApplyAttempts > coordinator.maxWalletAttempts then
          markClaimForManualReview claim "wallet apply attempt limit exceeded" []
        else if claim.action = .lookup ∧
            claim.record.walletLookupAttempts > coordinator.maxWalletAttempts then
          markClaimForManualReview claim "wallet lookup attempt limit exceeded" []
        else
          match validateWalletCommand coordinator.codec claim.record.walletCommand with
          | .error error =>
              markClaimForManualReview claim "wallet command binding is invalid" [error]
          | .ok () => do
              match ← profileFor claim.record.walletCommand.operatorID with
              | .error _ => return goOn (notSent claim)
              | .ok profile =>
                  if ¬ SupportedSettlementProfile claim.record.walletProfile ∨
                      ¬ SupportedSettlementProfile profile ∨
                      profile ≠ claim.record.walletProfile then
                    markClaimForManualReview claim
                      "wallet settlement profile changed after round preparation" []
                  else executeWalletClaim claim profile

def scheduleClaimDisposition (claim : WalletRecoveryClaim) (reconciled : Reconciled) :
    CoordinatorProgram ω (Outcome SpinResult) :=
  let (result, disposition) := reconciled
  if disposition.terminal then
    return result
  else
    match validateWalletRecoveryDisposition disposition with
    | .error error => return .error (errorsOf result ++ [error])
    | .ok () => do
        match ← callStore (.scheduleWalletRecovery claim disposition 0) with
        | .error error => return .error (errorsOf result ++ [error])
        | .ok true => return failWith .walletPending
        | .ok false =>
            match ← getRound claim.record.key with
            | .error _ => return failWith .walletPending
            | .ok latest =>
                return (terminalRoundResult latest).getD (failWith .walletPending)

/-- `executeClaimAndSchedule`; the detached one differs in its contexts only. -/
def executeClaimAndSchedule (claim : WalletRecoveryClaim) :
    CoordinatorProgram ω (Outcome SpinResult) := do
  let reconciled ← coordinator.reconcileClaim claim
  scheduleClaimDisposition claim reconciled

/-- `waits` is how the waits before the deadline end: with the next poll, or with the
error of the context. -/
def waitForRound : List (Option RgsError) → RoundRecord →
    CoordinatorProgram ω (Outcome SpinResult)
  | waits, record =>
      match terminalRoundResult record with
      | some result => return result
      | none => do
          match ← getRound record.key with
          | .error error =>
              if claimIntegrityFailure error then
                return .error (← quarantinePersistedRound record.key)
              else return .error [error]
          | .ok latest =>
              match terminalRoundResult latest with
              | some result => return result
              | none =>
                  match waits with
                  | [] => return failWith .walletPending
                  | some error :: _ => return .error [error]
                  | none :: rest => waitForRound rest latest

def resolvePreparedRound (waits : List (Option RgsError)) (record : RoundRecord) :
    CoordinatorProgram ω (Outcome SpinResult) :=
  match terminalRoundResult record with
  | some result => return result
  | none => do
      match ← callStore (.claimWallet record.key coordinator.walletLease) with
      | .error error =>
          if error.kind = .manualReview then
            return .error (← quarantinePersistedRound record.key)
          else return .error [error]
      | .ok (claim, true) => coordinator.executeClaimAndSchedule claim
      | .ok (claim, false) => waitForRound waits claim.record

/-- The answer to a request whose wallet route is not there: only a round that is
persisted is replayed. -/
def replayOnly (waits : List (Option RgsError)) (request : SpinRequest) (fingerprint : String)
    (cause : Errors) : CoordinatorProgram ω (Outcome SpinResult) := do
  match ← getRound request.key with
  | .ok existing =>
      if existing.fingerprint ≠ fingerprint then return failWith .idempotencyConflict
      else waitForRound waits existing
  | .error error =>
      if claimIntegrityFailure error then
        return .error (← quarantinePersistedRound request.key)
      else if error.kind ≠ .roundNotFound then return .error [error]
      else return .error ({ kind := .walletUnavailable } :: cause)

def spin (waits : List (Option RgsError)) (request : SpinRequest) :
    CoordinatorProgram ω (Outcome SpinResult) :=
  match validateSpinRequest request with
  | .error error => return .error [error]
  | .ok () => do
      let fingerprint := fingerprintFor coordinator.codec request
      match ← profileFor request.operatorID with
      | .error error => replayOnly waits request fingerprint [error]
      | .ok walletProfile =>
          if ¬ SupportedSettlementProfile walletProfile then
            replayOnly waits request fingerprint []
          else
            let prepare :=
              prepareIntent coordinator.codec coordinator.definitions coordinator.gates request
            match ← callStore (.prepareRound request fingerprint walletProfile prepare) with
            | .error error => return .error [error]
            | .ok (record, true) => coordinator.resolvePreparedRound waits record
            | .ok (record, false) => waitForRound waits record

def reconcile (key : RoundKey) : CoordinatorProgram ω (Outcome SpinResult) :=
  match validateRoundKey key with
  | .error _ => return .error [invalidRequest "invalid recovery round key"]
  | .ok () => do
      match ← getRound key with
      | .error error =>
          if error.kind = .manualReview then return .error (← quarantinePersistedRound key)
          else return .error [error]
      | .ok record =>
          match terminalRoundResult record with
          | some result => return result
          | none => do
              match ← callStore (.claimWallet key coordinator.walletLease) with
              | .error error => return .error [error]
              | .ok (_, false) => return failWith .walletPending
              | .ok (claim, true) => coordinator.executeClaimAndSchedule claim

/-! ## The recovery worker -/

end Coordinator

/-- The settings of a recovery worker that bound its back-off. -/
structure RecoveryBackoff where
  initialBackoff : Duration
  maximumBackoff : Duration

namespace RecoveryBackoff

/-- The doublings of `backoffUpperBound`. -/
def doubled (backoff : RecoveryBackoff) : Nat → Duration → Duration
  | 0, upperBound => upperBound
  | exponent + 1, upperBound =>
      if upperBound < backoff.maximumBackoff then
        if upperBound > backoff.maximumBackoff / 2 then backoff.maximumBackoff
        else backoff.doubled exponent (upperBound * 2)
      else upperBound

def backoffUpperBound (backoff : RecoveryBackoff) (record : RoundRecord)
    (next : WalletRecoveryAction) : Duration :=
  let attempts := if next = .apply then record.retryCount else record.walletLookupAttempts
  min (backoff.doubled (attempts - 1).toNat backoff.initialBackoff) backoff.maximumBackoff

end RecoveryBackoff

namespace Coordinator

/-- `processClaim` of the recovery worker; `fullJitter` is its source of jitter. -/
def processClaim (coordinator : Coordinator ω) (backoff : RecoveryBackoff)
    (fullJitter : Duration → Duration) (claim : WalletRecoveryClaim) :
    CoordinatorProgram ω (Outcome Unit) :=
  if ¬ claim.action.Valid ∨ claim.leaseUntil = 0 then
    return .error [{ kind := .storage
                     detail := "recovery: repository returned an invalid claim" }]
  else do
    let (result, disposition) ← coordinator.reconcileClaim claim
    match validateWalletRecoveryDisposition disposition with
    | .error _ =>
        return .error ({ kind := .storage
                         detail := "recovery: resolver returned an invalid disposition" } ::
          errorsOf result)
    | .ok () =>
        if disposition.terminal then
          -- the expected ends of a round are no failure of the pass
          if (errorsOf result).any fun error =>
              error.kind ∈ [.walletPending, .walletRejected, .roundRejected, .manualReview,
                .sessionIntegrity] then return .ok ()
          else return result.map fun _ => ()
        else
          let upperBound := backoff.backoffUpperBound claim.record disposition.nextAction
          let jitterDelay := fullJitter upperBound
          if jitterDelay < 0 ∨ jitterDelay > upperBound then
            return .error [{ kind := .storage
                             detail :=
                               "recovery: full-jitter source returned an out-of-range delay" }]
          else
            match ← callStore (.scheduleWalletRecovery claim disposition jitterDelay) with
            | .error error => return .error (errorsOf result ++ [error])
            | .ok _ => return .ok ()

end Coordinator

end SlotsGame.Rgs
