/-
# SlotsGame.Rgs.Risk -- the policy that holds back high payouts

A policy that is enabled stops a round whose win reaches its threshold until an
operator decides.  The assessment is stored with the round under a digest; the
JSON under that digest is the standard library's (`RiskCodec`).
-/
import SlotsGame.Rgs.Validation

namespace SlotsGame.Rgs

open SlotsGame.Theory

set_option autoImplicit false

/-- `unset` is the empty string. -/
inductive RiskExpiryPolicy
  | unset | reject | manualReview
  | other (name : String)
  deriving DecidableEq, Repr

def RiskExpiryPolicy.Valid (policy : RiskExpiryPolicy) : Prop :=
  policy = .reject ∨ policy = .manualReview

instance (policy : RiskExpiryPolicy) : Decidable policy.Valid :=
  inferInstanceAs (Decidable (_ ∨ _))

structure HighValueRiskPolicy where
  enabled : Bool
  thresholdMinor : Int := 0
  policyVersion : String := ""
  reviewTTL : Duration := 0
  expiryPolicy : RiskExpiryPolicy := .unset
  deriving DecidableEq

def HighValueRiskPolicy.validate (policy : HighValueRiskPolicy) : Except RgsError Unit :=
  if policy.enabled = false then
    refuse (policy.thresholdMinor ≠ 0 ∨ policy.policyVersion ≠ "" ∨ policy.reviewTTL ≠ 0 ∨
        policy.expiryPolicy ≠ .unset)
      { kind := .storage, detail := "rgs: disabled risk policy cannot contain active settings" }
  else
    refuse (policy.thresholdMinor ≤ 0 ∨ Text.identifierPattern policy.policyVersion = false ∨
        policy.reviewTTL < Duration.minute ∨ policy.reviewTTL > 72 * Duration.hour ∨
        ¬ policy.expiryPolicy.Valid)
      { kind := .storage, detail := "rgs: invalid high-value risk policy" }

structure RiskAssessment where
  policyVersion : String
  thresholdMinor : Int
  payoutMinor : Int
  expiresAt : Time
  expiryPolicy : RiskExpiryPolicy
  summaryHash : String := ""
  deriving DecidableEq

/-- The low-sensitivity summary that is digested. -/
structure RiskSummary where
  policyVersion : String
  thresholdMinor : Int
  payoutMinor : Int
  currency : String
  outcomeHash : String
  expiryPolicy : RiskExpiryPolicy
  expiresAt : Time
  deriving DecidableEq

/-! ## Decisions -/

/-- A decision of a review; a command carries the first two. -/
inductive RiskDecision
  | approve | reject | expire
  | other (name : String)
  deriving DecidableEq, Repr

def riskReasonApproved : String := "RISK_APPROVED"
def riskReasonPolicyRejected : String := "RISK_POLICY_REJECTED"
def riskReasonFraudSuspected : String := "RISK_FRAUD_SUSPECTED"
def riskReasonOperatorRejected : String := "RISK_OPERATOR_REJECTED"

structure RiskDecisionCommand where
  roundKey : RoundKey
  requestID : String
  idempotencyKey : String
  credentialKeyID : String
  decision : RiskDecision
  reasonCode : String
  deriving DecidableEq

/-- What a decision's fingerprint covers. -/
structure RiskDecisionIdentity where
  roundKey : RoundKey
  decision : RiskDecision
  reasonCode : String
  deriving DecidableEq

structure RiskDecisionResult where
  roundKey : RoundKey
  decision : RiskDecision
  status : RoundStatus
  decidedAt : Time
  replayed : Bool := false
  deriving DecidableEq

/-- The standard library's JSON of the two records that are digested. -/
structure RiskCodec where
  marshalSummary : RiskSummary → List UInt8
  marshalDecision : RiskDecisionIdentity → List UInt8

variable (codec : Codec) (riskCodec : RiskCodec)

def riskAssessmentSummaryHash (result : SpinResult) (assessment : RiskAssessment) :
    Except RgsError String := do
  refuse (Text.identifierPattern assessment.policyVersion = false ∨
      assessment.thresholdMinor ≤ 0 ∨ assessment.payoutMinor ≠ result.totalWinMinor ∨
      assessment.payoutMinor < assessment.thresholdMinor ∨ assessment.expiresAt = 0 ∨
      ¬ assessment.expiryPolicy.Valid)
    { kind := .invalidRequest }
  let outcomeHash ← preparedOutcomeHashFor codec result
  return codec.sha256 (riskCodec.marshalSummary
    { policyVersion := assessment.policyVersion, thresholdMinor := assessment.thresholdMinor
      payoutMinor := assessment.payoutMinor, currency := result.currency
      outcomeHash := outcomeHash, expiryPolicy := assessment.expiryPolicy
      expiresAt := assessment.expiresAt })

/-- The assessment of a result that the policy holds back. -/
def HighValueRiskPolicy.assess (policy : HighValueRiskPolicy) (result : SpinResult) (now : Time) :
    Except RgsError (Option RiskAssessment) := do
  policy.validate
  refuse (result.totalWinMinor < 0) { kind := .invalidRequest }
  if policy.enabled = false ∨ result.totalWinMinor < policy.thresholdMinor then
    return none
  else
    refuse (now = 0) { kind := .invalidRequest }
    let assessment : RiskAssessment :=
      { policyVersion := policy.policyVersion, thresholdMinor := policy.thresholdMinor
        payoutMinor := result.totalWinMinor, expiresAt := now + policy.reviewTTL
        expiryPolicy := policy.expiryPolicy }
    let summaryHash ← riskAssessmentSummaryHash codec riskCodec result assessment
    return some { assessment with summaryHash := summaryHash }

def validRiskDecisionReason (decision : RiskDecision) (reason : String) : Prop :=
  match decision with
  | .approve => reason = riskReasonApproved
  | .reject =>
      reason = riskReasonPolicyRejected ∨ reason = riskReasonFraudSuspected ∨
        reason = riskReasonOperatorRejected
  | _ => False

instance (decision : RiskDecision) (reason : String) :
    Decidable (validRiskDecisionReason decision reason) := by
  unfold validRiskDecisionReason
  cases decision <;> infer_instance

def validateRiskDecisionCommand (command : RiskDecisionCommand) : Except RgsError Unit :=
  refuse (Text.identifierPattern command.roundKey.operatorID = false ∨
      Text.identifierPattern command.roundKey.sessionID = false ∨
      Text.identifierPattern command.roundKey.roundID = false ∨
      Text.identifierPattern command.requestID = false ∨
      Text.identifierPattern command.idempotencyKey = false ∨
      Text.identifierPattern command.credentialKeyID = false ∨
      ¬ validRiskDecisionReason command.decision command.reasonCode)
    { kind := .invalidRequest }

def riskDecisionFingerprint (command : RiskDecisionCommand) : Except RgsError String := do
  validateRiskDecisionCommand command
  return codec.sha256 (riskCodec.marshalDecision
    { roundKey := command.roundKey, decision := command.decision
      reasonCode := command.reasonCode })

end SlotsGame.Rgs
