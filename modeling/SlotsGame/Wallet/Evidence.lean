/-
# SlotsGame.Wallet.Evidence -- on what a breaker closes

A half-open breaker closes on the probes that its side of the classification calls
healthy (`FreshRun.closes`).  That a probe was NOT_SENT is healthy for both sides, and an
UNKNOWN without a signature problem for the operator's; a probe that admission withdrew is
neither a success nor a failure.
-/
import SlotsGame.Wallet.Bulkhead

namespace SlotsGame.Wallet

open SlotsGame.Rgs SlotsGame.Theory

set_option autoImplicit false

/-! ## The two sides of the classification -/

/-! ## Closing -/

namespace Call

/-- The call has ended with this result; its two permits are completed with what the
classification says. -/
def Completed (call : Call) (compartment : Compartment) (permit : Nat) (reply : Reply) : Prop :=
  (compartment = call.backend ∧ (classify reply).backendHealthy = true ∧
      ∃ operator, call.stage = .settled permit operator reply ∨
        call.stage = .operatorReleased permit operator reply ∨
        call.stage = .returned permit operator reply) ∨
    (compartment = call.operator ∧ (classify reply).operatorHealthy = true ∧
      ∃ backend, call.stage = .operatorSettled backend permit reply ∨
        call.stage = .settled backend permit reply ∨
        call.stage = .operatorReleased backend permit reply ∨
        call.stage = .returned backend permit reply)

/-- What the call completed a permit with success on. -/
theorem completed_reply {call : Call} {compartment : Compartment} {permit : Nat}
    (asked : call.Asked) (completed : call.completed compartment permit true) :
    ∃ reply, call.Completed compartment permit reply ∧
      ((call.asked = 1 ∧ call.method.returns reply = true) ∨
        (call.asked = 0 ∧ call.wallet.hasResolution = false ∧ reply = unresolved)) := by
  obtain ⟨wallet, method, stage, count⟩ := call
  rcases completed with ⟨verdict, here⟩ | ⟨verdict, here⟩
  · cases stage with
    | settled backend operator reply | operatorReleased backend operator reply
    | returned backend operator reply =>
        simp only [Stage.backendVerdict, Option.some.injEq, Prod.mk.injEq] at verdict
        obtain ⟨rfl, healthy⟩ := verdict
        refine ⟨reply, .inl ⟨here, healthy, operator, by simp⟩, ?_⟩
        exact asked.imp_right fun ⟨unasked, _, missing, same⟩ => ⟨unasked, missing, same⟩
    | _ => cases verdict
  · cases stage with
    | operatorSettled backend operator reply | settled backend operator reply
    | operatorReleased backend operator reply | returned backend operator reply =>
        simp only [Stage.operatorVerdict, Option.some.injEq, Prod.mk.injEq] at verdict
        obtain ⟨rfl, healthy⟩ := verdict
        refine ⟨reply, .inr ⟨here, healthy, backend, by simp⟩, ?_⟩
        exact asked.imp_right fun ⟨unasked, _, missing, same⟩ => ⟨unasked, missing, same⟩
    | _ => cases verdict

end Call

namespace Isolation

variable {settings : IsolationConfig} {system after : Isolation} {compartment : Compartment}

/-- A permit that is recorded as a success of an epoch was completed by a call. -/
theorem Balanced.succeeded (balanced : Balanced settings system) {permit epoch : Nat}
    {issued : Issued} (present : (system.circuits compartment).permits[permit]? = some issued)
    (succeeded : issued.succeeded epoch = true) :
    issued.epoch = epoch ∧ ∃ call ∈ system.calls, ∃ reply,
      call.Completed compartment permit reply ∧
      ((call.asked = 1 ∧ call.method.returns reply = true) ∨
        (call.asked = 0 ∧ call.wallet.hasResolution = false ∧ reply = unresolved)) := by
  simp only [Issued.succeeded, Bool.and_eq_true, beq_iff_eq] at succeeded
  refine ⟨succeeded.2, ?_⟩
  have recorded : (system.circuits compartment).verdict permit = some true := by
    rw [Circuit.verdict, present]
    exact succeeded.1
  obtain ⟨call, member, completed⟩ := balanced.recorded compartment permit true recorded
  exact ⟨call, member, Call.completed_reply (balanced.asked call member) completed⟩

end Isolation

end SlotsGame.Wallet
