/-
# SlotsGame.Rgs.Errands -- what a coordinator may ask for, and when

The programs of a coordinator run errands: an errand has at most one claim, makes at
most one call of the wallet under it, and gives its lease back at most once, for one of
three reasons (`Errand.Concludes`).  Every program keeps to that, whatever it is
answered; all that is proved about runs of coordinators rests on it.
-/
import SlotsGame.Rgs.Coordinator

namespace SlotsGame.Rgs

open SlotsGame.Theory

set_option autoImplicit false

variable {ω : Type}

/-! ## Errands -/

/-- What a thread has done so far: its claim, whether it called the wallet, what it was
answered, and how it gave its lease back. -/
@[ext] structure Errand where
  claim : Option WalletRecoveryClaim := none
  asked : Bool := false
  answer : Option Resolution := none
  disposed : Option WalletRecoveryDisposition := none
  deriving DecidableEq

/-- The errand of a claim that has just been granted. -/
def Errand.of (claim : WalletRecoveryClaim) : Errand := { claim := some claim }

/-- Why a claim is given back: its call did not leave, or came back without a final
answer, or found nothing under its operation. -/
inductive Errand.Concludes (errand : Errand) (claim : WalletRecoveryClaim) :
    WalletRecoveryDisposition → Prop
  | unsent (silent : errand.asked = false ∨ ∃ resolution, errand.answer = some resolution ∧
      resolution.status = .notSent) : Concludes errand claim (notSent claim)
  | unknown (resolution : Resolution) (answered : errand.answer = some resolution)
      (open_ : resolution.status = .pending ∨ resolution.status = .unknown) :
      Concludes errand claim { nextAction := .lookup }
  | absent (resolution : Resolution) (answered : errand.answer = some resolution)
      (missing : resolution.status = .notFound) (lookup : claim.action = .lookup) :
      Concludes errand claim
        { nextAction := .apply
          minimumDelay := claim.record.walletProfile.capabilities.notFoundConsistencyWindow }

/-- What an errand may ask for next. -/
def Errand.Allows (coordinator : Coordinator ω) (errand : Errand) : CoordinatorAction ω → Prop
  | .store (.claimWallet _ _) => errand = {}
  | .store (.claimRecoverableRounds _ _) => False
  | .store (.prepareRound request fingerprint _ prepare) =>
      fingerprint = fingerprintFor coordinator.codec request ∧
        prepare = prepareIntent coordinator.codec coordinator.definitions coordinator.gates request
  | .store (.commitClaim claim receipt) =>
      errand.claim = some claim ∧ ∃ resolution, errand.answer = some resolution ∧
        resolution.status = .succeeded ∧ resolution.receipt = receipt
  | .store (.rejectClaim claim _) =>
      errand.claim = some claim ∧ ∃ resolution, errand.answer = some resolution ∧
        resolution.status = .rejectedFinal
  | .store (.markClaimManualReview claim _) => errand.claim = some claim
  | .store (.scheduleWalletRecovery claim disposition _) =>
      errand.claim = some claim ∧ errand.disposed = none ∧ errand.Concludes claim disposition
  | .store _ => True
  | .profileFor _ => True
  | .submit command =>
      ∃ claim, errand = .of claim ∧ claim.action = .apply ∧
        command = claim.record.walletCommand ∧
        claim.record.walletApplyAttempts ≤ coordinator.maxWalletAttempts
  | .resolve reference =>
      ∃ claim, errand = .of claim ∧ claim.action = .lookup ∧
        reference = claim.record.walletCommand ∧
        claim.record.walletLookupAttempts ≤ coordinator.maxWalletAttempts
  | .submitted _ | .resolved _ => errand.asked = true ∧ errand.answer = none

/-- The errand after a reply. -/
def Errand.next (errand : Errand) : (action : CoordinatorAction ω) → action.Reply → Errand
  | .store (.claimWallet _ _), .ok (claim, true) => { errand with claim := some claim }
  | .store (.scheduleWalletRecovery _ disposition _), _ =>
      { errand with disposed := some disposition }
  | .submit _, _ | .resolve _, _ => { errand with asked := true }
  | .submitted _, resolution | .resolved _, resolution =>
      { errand with answer := some resolution }
  | _, _ => errand

def errandProtocol (coordinator : Coordinator ω) : Protocol (coordinatorInterface ω) Errand :=
  { Allows := fun errand => errand.Allows coordinator, next := Errand.next }

/-! ## The programs keep to it -/

section Conforming

open Coordinator

variable {coordinator : Coordinator ω} {errand : Errand} {claim : WalletRecoveryClaim}
variable {key : RoundKey} {α β : Type}

/-- One question, and what follows each answer. -/
theorem conforms_ask {action : CoordinatorAction ω} {post : α → Errand → Prop}
    {rest : action.Reply → CoordinatorProgram ω α}
    (allowed : errand.Allows coordinator action)
    (after : ∀ reply, (rest reply).Conforms (errandProtocol coordinator) (errand.next action reply)
      post) :
    (Program.ask (I := coordinatorInterface ω) action >>= rest).Conforms
      (errandProtocol coordinator) errand post :=
  ⟨allowed, after⟩

/-- The program ends where it began. -/
def Stays (errand : Errand) {α : Type} (holds : α → Prop) (result : α) (after : Errand) : Prop :=
  after = errand ∧ holds result

theorem quarantinePersistedRound_conforms :
    (quarantinePersistedRound key : CoordinatorProgram ω Errors).Conforms
      (errandProtocol coordinator) errand (Stays errand fun _ => True) := by
  refine conforms_ask trivial ?_
  rintro (error | result)
  · exact ⟨rfl, trivial⟩
  · exact ⟨rfl, trivial⟩

/-- The result and the disposition of a claim that is done. -/
def Ended (reconciled : Reconciled) : Prop := reconciled.2 = { terminal := true }

theorem resolveStaleClaim_conforms :
    (resolveStaleClaim key : CoordinatorProgram ω Reconciled).Conforms
      (errandProtocol coordinator) errand (Stays errand Ended) := by
  refine conforms_ask trivial ?_
  rintro (error | latest)
  · exact ⟨rfl, rfl⟩
  · exact ⟨rfl, rfl⟩

/-- A quarantine, and then the end. -/
theorem quarantined_conforms {then_ : Errors → α} {holds : α → Prop}
    (ends : ∀ errors, holds (then_ errors)) :
    (do return then_ (← quarantinePersistedRound key) : CoordinatorProgram ω α).Conforms
      (errandProtocol coordinator) errand (Stays errand holds) := by
  refine quarantinePersistedRound_conforms.bind ?_
  rintro errors _ ⟨rfl, _⟩
  exact ⟨rfl, ends errors⟩

theorem quarantine_ends :
    (do return .error (← quarantinePersistedRound key) : CoordinatorProgram ω (Outcome α)).Conforms
      (errandProtocol coordinator) errand fun _ _ => True :=
  quarantinePersistedRound_conforms.bind fun _ _ _ => trivial

theorem markClaimForManualReview_conforms (held : errand.claim = some claim) (reason : String)
    (cause : Errors) :
    (markClaimForManualReview claim reason cause : CoordinatorProgram ω Reconciled).Conforms
      (errandProtocol coordinator) errand (Stays errand Ended) := by
  refine conforms_ask held ?_
  rintro (error | result)
  · dsimp only
    split_ifs
    · exact resolveStaleClaim_conforms
    · exact quarantined_conforms fun _ => rfl
    · exact ⟨rfl, rfl⟩
  · exact ⟨rfl, rfl⟩

theorem staleResult_conforms :
    (do let (result, _) ← resolveStaleClaim key
        return result : CoordinatorProgram ω (Outcome SpinResult)).Conforms
      (errandProtocol coordinator) errand (Stays errand fun _ => True) := by
  refine resolveStaleClaim_conforms.bind ?_
  rintro ⟨result, disposition⟩ _ ⟨rfl, _⟩
  exact ⟨rfl, trivial⟩

theorem commitReceipt_conforms (held : errand.claim = some claim) {resolution : Resolution}
    (answered : errand.answer = some resolution) (succeeded : resolution.status = .succeeded) :
    (commitReceipt claim resolution.receipt : CoordinatorProgram ω _).Conforms
      (errandProtocol coordinator) errand (Stays errand fun _ => True) := by
  refine conforms_ask ⟨held, resolution, answered, succeeded, rfl⟩ ?_
  rintro (error | ⟨record, fresh⟩)
  · dsimp only
    split_ifs
    · exact ⟨rfl, trivial⟩
    · exact staleResult_conforms
    · refine conforms_ask held ?_
      rintro (marking | result)
      · dsimp only
        split_ifs
        · exact staleResult_conforms
        · exact quarantined_conforms fun _ => trivial
        · exact ⟨rfl, trivial⟩
      · exact ⟨rfl, trivial⟩
    · exact ⟨rfl, trivial⟩
  · exact ⟨rfl, trivial⟩

theorem rejectRound_conforms (held : errand.claim = some claim) {resolution : Resolution}
    (answered : errand.answer = some resolution) (rejected : resolution.status = .rejectedFinal)
    (code : String) :
    (rejectRound claim code : CoordinatorProgram ω _).Conforms (errandProtocol coordinator) errand
      (Stays errand Ended) := by
  refine conforms_ask ⟨held, resolution, answered, rejected⟩ ?_
  rintro (error | result)
  · dsimp only
    split
    · exact resolveStaleClaim_conforms
    split
    · exact quarantined_conforms fun _ => rfl
    · exact ⟨rfl, rfl⟩
  · exact ⟨rfl, rfl⟩

/-- How a claim is reconciled: it is done, or it is given back for a reason. -/
def Errand.Reconciles (claim : WalletRecoveryClaim) (reconciled : Reconciled) (errand : Errand) :
    Prop :=
  errand.claim = some claim ∧ errand.disposed = none ∧
    (Ended reconciled ∨ (reconciled.2.terminal = false ∧ errand.Concludes claim reconciled.2))

theorem Errand.Reconciles.of_stays (held : errand.claim = some claim)
    (kept : errand.disposed = none) (reconciled : Reconciled) (after : Errand)
    (stays : Stays errand Ended reconciled after) : after.Reconciles claim reconciled := by
  obtain ⟨rfl, ended⟩ := stays
  exact ⟨held, kept, .inl ended⟩

theorem applyWalletResolution_conforms (held : errand.claim = some claim)
    (kept : errand.disposed = none) {resolution : Resolution} {profile : Profile}
    (answered : errand.answer = some resolution) (same : profile = claim.record.walletProfile) :
    (applyWalletResolution claim profile resolution : CoordinatorProgram ω _).Conforms
      (errandProtocol coordinator) errand fun reconciled after => after.Reconciles claim reconciled := by
  have marked (reason : String) (cause : Errors) :
      (markClaimForManualReview claim reason cause : CoordinatorProgram ω Reconciled).Conforms
        (errandProtocol coordinator) errand fun reconciled after =>
          after.Reconciles claim reconciled :=
    (markClaimForManualReview_conforms held reason cause).mono (.of_stays held kept)
  unfold applyWalletResolution
  split
  · next status =>
    refine (commitReceipt_conforms held answered status).bind ?_
    rintro result _ ⟨rfl, _⟩
    exact ⟨held, kept, .inl rfl⟩
  · next status =>
    exact (rejectRound_conforms held answered status _).mono (.of_stays held kept)
  · exact marked _ _
  · next status => exact ⟨held, kept, .inr ⟨rfl, .unknown resolution answered (.inl status)⟩⟩
  · next status => exact ⟨held, kept, .inr ⟨rfl, .unknown resolution answered (.inr status)⟩⟩
  · next status => exact ⟨held, kept, .inr ⟨rfl, .unsent (.inr ⟨resolution, answered, status⟩)⟩⟩
  · next status =>
    split
    · exact marked _ _
    next other =>
    split
    · exact marked _ _
    · refine ⟨held, kept, .inr ⟨rfl, ?_⟩⟩
      rw [same]
      exact .absent resolution answered status (not_not.mp other)
  · exact marked _ _

/-- The wallet call of a claim within its attempts. -/
theorem executeWalletClaim_conforms {profile : Profile} (valid : claim.action.Valid)
    (applies : claim.action = .apply →
      claim.record.walletApplyAttempts ≤ coordinator.maxWalletAttempts)
    (lookups : claim.action = .lookup →
      claim.record.walletLookupAttempts ≤ coordinator.maxWalletAttempts)
    (same : profile = claim.record.walletProfile) :
    (executeWalletClaim claim profile : CoordinatorProgram ω _).Conforms
      (errandProtocol coordinator) (.of claim) fun reconciled after =>
        after.Reconciles claim reconciled := by
  unfold executeWalletClaim
  split_ifs with apply
  · refine conforms_ask ⟨claim, rfl, apply, rfl, applies apply⟩ fun _ => ?_
    refine conforms_ask ⟨rfl, rfl⟩ fun resolution => ?_
    exact applyWalletResolution_conforms rfl rfl rfl same
  · have lookup : claim.action = .lookup := valid.resolve_left apply
    refine conforms_ask ⟨claim, rfl, lookup, rfl, lookups lookup⟩ fun _ => ?_
    refine conforms_ask ⟨rfl, rfl⟩ fun resolution => ?_
    exact applyWalletResolution_conforms rfl rfl rfl same

theorem reconcileClaim_conforms (coordinator : Coordinator ω) (claim : WalletRecoveryClaim) :
    (coordinator.reconcileClaim claim).Conforms (errandProtocol coordinator) (.of claim)
      fun reconciled after => after.Reconciles claim reconciled := by
  have marked (reason : String) (cause : Errors) :
      (markClaimForManualReview claim reason cause : CoordinatorProgram ω Reconciled).Conforms
        (errandProtocol coordinator) (.of claim) fun reconciled after =>
          after.Reconciles claim reconciled :=
    (markClaimForManualReview_conforms rfl reason cause).mono (.of_stays rfl rfl)
  unfold reconcileClaim
  split
  · exact ⟨rfl, rfl, .inl rfl⟩
  next invalid =>
  split
  · exact ⟨rfl, rfl, .inl rfl⟩
  split
  · exact marked _ _
  next applies =>
  split
  · exact marked _ _
  next lookups =>
  split
  · exact marked _ _
  refine conforms_ask trivial ?_
  rintro (error | profile)
  · exact ⟨rfl, rfl, .inr ⟨rfl, .unsent (.inl rfl)⟩⟩
  · dsimp only
    split
    · exact marked _ _
    next changed =>
    · rw [not_or, not_or, not_not, not_not, not_not] at changed
      exact executeWalletClaim_conforms (not_not.mp fun bad => invalid (.inl bad))
        (fun action => not_lt.mp fun beyond => applies ⟨action, beyond⟩)
        (fun action => not_lt.mp fun beyond => lookups ⟨action, beyond⟩) changed.2.2

/-- A reconciled claim that is not done may be given back, once. -/
theorem scheduling_conforms {reconciled : Reconciled} (reconciles : errand.Reconciles claim reconciled)
    (going : reconciled.2.terminal = false) (jitterDelay : Duration)
    {rest : Except RgsError Bool → CoordinatorProgram ω α}
    (quiet : ∀ reply after, (rest reply).Conforms (errandProtocol coordinator) after
      fun _ _ => True) :
    (callStore (.scheduleWalletRecovery claim reconciled.2 jitterDelay) >>= rest).Conforms
      (errandProtocol coordinator) errand fun _ _ => True := by
  obtain ⟨held, kept, ended | ⟨_, concludes⟩⟩ := reconciles
  · rw [Ended] at ended
    rw [ended] at going
    cases going
  · exact conforms_ask ⟨held, kept, concludes⟩ fun reply => quiet reply _

theorem scheduleClaimDisposition_conforms {reconciled : Reconciled}
    (reconciles : errand.Reconciles claim reconciled) :
    (scheduleClaimDisposition claim reconciled : CoordinatorProgram ω _).Conforms
      (errandProtocol coordinator) errand fun _ _ => True := by
  unfold scheduleClaimDisposition
  dsimp only
  split_ifs with done
  · trivial
  split
  · trivial
  refine scheduling_conforms reconciles (Bool.eq_false_iff.mpr done) 0 ?_
  rintro (error | scheduled) after
  · trivial
  · cases scheduled
    · refine conforms_ask trivial ?_
      rintro (error | latest)
      · trivial
      · trivial
    · trivial

theorem executeClaimAndSchedule_conforms (claim : WalletRecoveryClaim) :
    (coordinator.executeClaimAndSchedule claim).Conforms (errandProtocol coordinator) (.of claim)
      fun _ _ => True :=
  (reconcileClaim_conforms coordinator claim).bind fun _ _ reconciles =>
    scheduleClaimDisposition_conforms reconciles

/-- A program that only waits and reads. -/
theorem waitForRound_conforms (waits : List (Option RgsError)) (record : RoundRecord) :
    (waitForRound waits record : CoordinatorProgram ω _).Conforms (errandProtocol coordinator)
      errand fun _ _ => True := by
  induction waits generalizing record with
  | nil =>
      unfold waitForRound
      split
      · trivial
      refine conforms_ask trivial ?_
      rintro (error | latest)
      · dsimp only
        split_ifs
        · exact quarantine_ends
        · trivial
      · dsimp only
        split <;> trivial
  | cons wait rest ih =>
      unfold waitForRound
      split
      · trivial
      refine conforms_ask trivial ?_
      rintro (error | latest)
      · dsimp only
        split_ifs
        · exact quarantine_ends
        · trivial
      · dsimp only
        split
        · trivial
        · cases wait with
          | none => exact ih latest
          | some error => trivial

theorem resolvePreparedRound_conforms (waits : List (Option RgsError)) (record : RoundRecord) :
    (coordinator.resolvePreparedRound waits record).Conforms (errandProtocol coordinator) {}
      fun _ _ => True := by
  unfold resolvePreparedRound
  split
  · trivial
  refine conforms_ask rfl ?_
  rintro (error | ⟨claim, fresh⟩)
  · dsimp only
    split_ifs
    · exact quarantine_ends
    · trivial
  · cases fresh
    · exact waitForRound_conforms waits claim.record
    · exact executeClaimAndSchedule_conforms claim

theorem replayOnly_conforms (waits : List (Option RgsError)) (request : SpinRequest)
    (fingerprint : String) (cause : Errors) :
    (replayOnly waits request fingerprint cause : CoordinatorProgram ω _).Conforms
      (errandProtocol coordinator) errand fun _ _ => True := by
  refine conforms_ask trivial ?_
  rintro (error | existing)
  · dsimp only
    split_ifs
    · exact quarantine_ends
    · trivial
    · trivial
  · dsimp only
    split_ifs
    · trivial
    · exact waitForRound_conforms waits existing

theorem spin_conforms (coordinator : Coordinator ω) (waits : List (Option RgsError))
    (request : SpinRequest) :
    (coordinator.spin waits request).Conforms (errandProtocol coordinator) {}
      fun _ _ => True := by
  unfold spin
  split
  · trivial
  refine conforms_ask trivial ?_
  rintro (error | walletProfile)
  · exact replayOnly_conforms waits request _ _
  dsimp only
  split
  · exact replayOnly_conforms waits request _ _
  refine conforms_ask ⟨rfl, rfl⟩ ?_
  rintro (error | ⟨record, fresh⟩)
  · trivial
  · cases fresh
    · exact waitForRound_conforms waits record
    · exact resolvePreparedRound_conforms waits record

theorem reconcile_conforms (coordinator : Coordinator ω) (key : RoundKey) :
    (coordinator.reconcile key).Conforms (errandProtocol coordinator) {} fun _ _ => True := by
  unfold reconcile
  split
  · trivial
  refine conforms_ask trivial ?_
  rintro (error | record)
  · dsimp only
    split_ifs
    · exact quarantine_ends
    · trivial
  · dsimp only
    split
    · trivial
    refine conforms_ask rfl ?_
    rintro (error | ⟨claim, fresh⟩)
    · trivial
    · cases fresh
      · trivial
      · exact executeClaimAndSchedule_conforms claim

theorem processClaim_conforms (coordinator : Coordinator ω) (backoff : RecoveryBackoff)
    (fullJitter : Duration → Duration) (claim : WalletRecoveryClaim) :
    (coordinator.processClaim backoff fullJitter claim).Conforms (errandProtocol coordinator)
      (.of claim) fun _ _ => True := by
  unfold processClaim
  split_ifs with invalid
  · trivial
  refine (reconcileClaim_conforms coordinator claim).bind ?_
  rintro ⟨result, disposition⟩ errand reconciles
  dsimp only
  split
  · trivial
  split_ifs with done expected out
  · trivial
  · trivial
  · trivial
  · refine scheduling_conforms reconciles (Bool.eq_false_iff.mpr done) _ ?_
    rintro (error | scheduled) after
    · trivial
    · trivial

end Conforming

end SlotsGame.Rgs
