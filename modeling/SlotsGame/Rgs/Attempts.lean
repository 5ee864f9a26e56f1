/-
# SlotsGame.Rgs.Attempts -- how often the wallet is called for a round

A store counts the attempts of a round when it grants them and takes one back when it
is told that the call did not leave (`RepositoryCall.Counts`).  The claims that threads
hold are tickets against these counters, so the calls of the wallet are bounded by the
limit of the coordinator, whatever crashes and however leases run out.
-/
import SlotsGame.Rgs.Servers
import SlotsGame.Theory.Allowance

namespace SlotsGame.Rgs

open SlotsGame.Theory

set_option autoImplicit false

variable {ω : Type}

/-! ## Counting stores -/

/-- The attempts of a round. -/
structure Tally where
  applies : Int
  lookups : Int
  deriving DecidableEq

namespace Tally

def grant (tally : Tally) (action : WalletRecoveryAction) : Tally :=
  if action = .apply then { tally with applies := tally.applies + 1 }
  else { tally with lookups := tally.lookups + 1 }

def refund (tally : Tally) : Tally := { tally with applies := tally.applies - 1 }

def AtMost (before after : Tally) : Prop :=
  before.applies ≤ after.applies ∧ before.lookups ≤ after.lookups

theorem grant_atMost (tally : Tally) (action : WalletRecoveryAction) :
    tally.AtMost (tally.grant action) := by
  unfold grant AtMost
  split_ifs <;> simp

theorem atMost_refl (tally : Tally) : tally.AtMost tally := ⟨le_rfl, le_rfl⟩

end Tally

def RoundRecord.tally (record : RoundRecord) : Tally :=
  { applies := record.walletApplyAttempts, lookups := record.walletLookupAttempts }

/-- The round whose attempt a call gives back. -/
def RepositoryCall.Refunds : RepositoryCall ω → RoundKey → Prop
  | .scheduleWalletRecovery claim disposition _, key =>
      claim.record.key = key ∧ disposition.applyNotSent = true
  | _, _ => False

/-- What a call does to the attempts of rounds: it counts the claims it grants, and may
take one attempt back. -/
structure RepositoryCall.Counts (call : RepositoryCall ω) (reply : Except RgsError call.Reply)
    (before after : RoundKey → Tally) : Prop where
  once : ((call.granted reply).map fun claim => claim.record.key).Nodup
  granted : ∀ claim ∈ call.granted reply,
    after claim.record.key = (before claim.record.key).grant claim.action ∧
      claim.record.tally = after claim.record.key
  kept : ∀ key, (∀ claim ∈ call.granted reply, claim.record.key ≠ key) →
    after key = before key ∨ (call.Refunds key ∧ after key = (before key).refund)

/-- A call that gives no attempt back only counts. -/
theorem RepositoryCall.Counts.atMost {call : RepositoryCall ω} {reply : Except RgsError call.Reply}
    {before after : RoundKey → Tally} (counts : call.Counts reply before after) {key : RoundKey}
    (keeps : ¬ call.Refunds key) : (before key).AtMost (after key) := by
  by_cases handed : ∃ claim ∈ call.granted reply, claim.record.key = key
  · obtain ⟨claim, member, rfl⟩ := handed
    rw [(counts.granted claim member).1]
    exact Tally.grant_atMost _ _
  · have others : ∀ claim ∈ call.granted reply, claim.record.key ≠ key :=
      fun claim member about => handed ⟨claim, member, about⟩
    rcases counts.kept key others with same | ⟨refunds, _⟩
    · rw [same]
      exact Tally.atMost_refl _
    · exact absurd refunds keeps

/-- A store that counts attempts, and grants no claim of a round in review. -/
structure CountedStore (repository : Repository ω) where
  tally : repository.State → RoundKey → Tally
  reviewed : repository.State → Set RoundKey
  Valid : repository.State → Prop
  counts : ∀ {env call state world reply after world'}, Valid state →
    repository.run env call state world = (reply, after, world') →
    Valid after ∧ call.Counts reply (tally state) (tally after) ∧
      reviewed state ⊆ reviewed after ∧
      ∀ claim ∈ call.granted reply, claim.record.key ∉ reviewed state

/-! ## The tickets of an errand -/

namespace Errand

/-- The errand gives its attempt back. -/
def returning (errand : Errand) : Bool :=
  errand.disposed.any fun disposition => disposition.applyNotSent

/-- The attempt an errand holds for an APPLY of the round `key`. -/
def applyTicket (key : RoundKey) (errand : Errand) : Option Int :=
  errand.claim.bind fun claim =>
    if claim.record.key = key ∧ claim.action = .apply ∧ errand.returning = false then
      some claim.record.walletApplyAttempts
    else none

/-- The attempt an errand holds for a LOOKUP of the round `key`. -/
def lookupTicket (key : RoundKey) (errand : Errand) : Option Int :=
  errand.claim.bind fun claim =>
    if claim.record.key = key ∧ claim.action ≠ .apply then some claim.record.walletLookupAttempts
    else none

/-- The errand has called the wallet for the round `key`, with `action`. -/
def called (key : RoundKey) (action : WalletRecoveryAction) (errand : Errand) : Bool :=
  errand.asked && errand.claim.any fun claim =>
    decide (claim.record.key = key ∧ claim.action = action)

/-- The wallet has answered that the call did not leave. -/
def unsent (errand : Errand) : Bool :=
  errand.answer.any fun resolution => decide (resolution.status = .notSent)

/-- The errand's APPLY of the round `key` may have crossed the send boundary. -/
def mayHaveApplied (key : RoundKey) (errand : Errand) : Bool :=
  errand.called key .apply && !errand.unsent

/-- What every errand satisfies. -/
structure Proper (coordinator : Coordinator ω) (errand : Errand) : Prop where
  within : errand.asked = true → ∃ claim, errand.claim = some claim ∧
    ((claim.action = .apply ∧
        claim.record.walletApplyAttempts ≤ coordinator.maxWalletAttempts) ∨
      (claim.action = .lookup ∧
        claim.record.walletLookupAttempts ≤ coordinator.maxWalletAttempts))
  returned : errand.returning = true → errand.asked = false ∨ errand.unsent = true

variable {coordinator : Coordinator ω} {errand : Errand} {action : CoordinatorAction ω}

theorem concludes_returning {claim : WalletRecoveryClaim}
    {disposition : WalletRecoveryDisposition} (concludes : errand.Concludes claim disposition)
    (returns : disposition.applyNotSent = true) :
    claim.action = .apply ∧ (errand.asked = false ∨ errand.unsent = true) := by
  cases concludes with
  | unsent silent =>
      refine ⟨of_decide_eq_true returns, silent.imp_right ?_⟩
      rintro ⟨resolution, answered, status⟩
      rw [Errand.unsent, answered, Option.any_some]
      exact decide_eq_true status
  | unknown => cases returns
  | absent => cases returns

theorem Proper.fresh : Proper coordinator ({} : Errand) :=
  ⟨fun asked => (Bool.false_ne_true asked).elim, fun returns => (Bool.false_ne_true returns).elim⟩

theorem Proper.of (claim : WalletRecoveryClaim) : Proper coordinator (.of claim) :=
  ⟨fun asked => (Bool.false_ne_true asked).elim, fun returns => (Bool.false_ne_true returns).elim⟩

end Errand

/-! ## The moves of an errand -/

/-- The claims that a reply hands to its thread. -/
def CoordinatorAction.granted : (action : CoordinatorAction ω) → action.Reply →
    List WalletRecoveryClaim
  | .store call, reply => call.granted reply
  | _, _ => []

def CoordinatorAction.Refunds : CoordinatorAction ω → RoundKey → Prop
  | .store call, key => call.Refunds key
  | _, _ => False

/-- What an allowed action does to an errand; `granted` is what its reply grants. -/
inductive Errand.Moves (coordinator : Coordinator ω) (errand : Errand) :
    CoordinatorAction ω → List WalletRecoveryClaim → Errand → Prop
  | stays (action : CoordinatorAction ω) (keeps : ∀ key, ¬ action.Refunds key) :
      Moves coordinator errand action [] errand
  | granted (action : CoordinatorAction ω) (claim : WalletRecoveryClaim)
      (fresh : errand = {}) (keeps : ∀ key, ¬ action.Refunds key) :
      Moves coordinator errand action [claim] (.of claim)
  | returned (claim : WalletRecoveryClaim) (disposition : WalletRecoveryDisposition)
      (jitterDelay : Duration) (held : errand.claim = some claim) (kept : errand.disposed = none)
      (concludes : errand.Concludes claim disposition) :
      Moves coordinator errand (.store (.scheduleWalletRecovery claim disposition jitterDelay)) []
        { errand with disposed := some disposition }
  | asked (action : CoordinatorAction ω) (claim : WalletRecoveryClaim)
      (keeps : ∀ key, ¬ action.Refunds key) (fresh : errand = .of claim)
      (within : (claim.action = .apply ∧
          claim.record.walletApplyAttempts ≤ coordinator.maxWalletAttempts) ∨
        (claim.action = .lookup ∧
          claim.record.walletLookupAttempts ≤ coordinator.maxWalletAttempts)) :
      Moves coordinator errand action [] { errand with asked := true }
  | answered (action : CoordinatorAction ω) (resolution : Resolution)
      (keeps : ∀ key, ¬ action.Refunds key) (asked : errand.asked = true)
      (silent : errand.answer = none) :
      Moves coordinator errand action [] { errand with answer := some resolution }

namespace Errand

variable {coordinator : Coordinator ω} {errand after : Errand} {action : CoordinatorAction ω}
variable {granted : List WalletRecoveryClaim} {key : RoundKey}

theorem moves (allowed : errand.Allows coordinator action) (reply : action.Reply) :
    errand.Moves coordinator action (action.granted reply) (errand.next action reply) := by
  cases action with
  | store call =>
      cases call with
      | claimWallet target leaseDuration =>
          rcases reply with error | ⟨claim, fresh⟩
          · exact .stays _ fun _ => id
          · cases fresh
            · exact .stays _ fun _ => id
            · obtain rfl : errand = {} := allowed
              exact .granted _ claim rfl fun _ => id
      | claimRecoverableRounds limit leaseDuration => exact allowed.elim
      | scheduleWalletRecovery claim disposition jitterDelay =>
          exact .returned claim disposition jitterDelay allowed.1 allowed.2.1 allowed.2.2
      | _ => exact .stays _ fun _ => id
  | profileFor operatorID => exact .stays _ fun _ => id
  | submit command =>
      obtain ⟨claim, fresh, apply, _, within⟩ := allowed
      exact .asked _ claim (fun _ => id) fresh (.inl ⟨apply, within⟩)
  | resolve reference =>
      obtain ⟨claim, fresh, lookup, _, within⟩ := allowed
      exact .asked _ claim (fun _ => id) fresh (.inr ⟨lookup, within⟩)
  | submitted command => exact .answered _ reply (fun _ => id) allowed.1 allowed.2
  | resolved reference => exact .answered _ reply (fun _ => id) allowed.1 allowed.2

theorem Moves.proper (moves : errand.Moves coordinator action granted after)
    (proper : errand.Proper coordinator) : after.Proper coordinator := by
  cases moves with
  | stays => exact proper
  | granted _ claim => exact .of claim
  | returned claim disposition jitterDelay held kept concludes =>
      exact ⟨proper.within, fun returns => (concludes_returning concludes returns).2⟩
  | asked _ claim keeps fresh within =>
      subst fresh
      exact ⟨fun _ => ⟨claim, rfl, within⟩, fun returns => (Bool.false_ne_true returns).elim⟩
  | answered _ resolution keeps asked silent =>
      refine ⟨proper.within, fun returns => ?_⟩
      rcases proper.returned returns with unasked | unsent
      · rw [asked] at unasked
        cases unasked
      · rw [Errand.unsent, silent] at unsent
        cases unsent

/-- Only a grant and a return change the tickets of an errand. -/
theorem Moves.tickets (moves : errand.Moves coordinator action granted after)
    (others : ∀ claim ∈ granted, claim.record.key ≠ key) (keeps : ¬ action.Refunds key) :
    after.applyTicket key = errand.applyTicket key ∧
      after.lookupTicket key = errand.lookupTicket key := by
  cases moves with
  | stays | asked | answered => exact ⟨rfl, rfl⟩
  | granted _ claim fresh =>
      subst fresh
      have other := others claim List.mem_cons_self
      simp [applyTicket, lookupTicket, Errand.of, other]
  | returned claim disposition jitterDelay held kept concludes =>
      refine ⟨?_, rfl⟩
      by_cases about : claim.record.key = key
      · have quiet : disposition.applyNotSent = false :=
          Bool.eq_false_iff.mpr fun returns => keeps ⟨about, returns⟩
        simp [applyTicket, held, returning, kept, quiet]
      · simp [applyTicket, held, about]

/-- A claim is granted to an errand without one. -/
theorem Moves.grant (moves : errand.Moves coordinator action granted after)
    {claim : WalletRecoveryClaim} (member : claim ∈ granted) : errand = {} ∧ after = .of claim := by
  cases moves with
  | granted _ handed fresh =>
      rw [List.mem_singleton.mp member]
      exact ⟨fresh, rfl⟩
  | _ => cases member

/-- An attempt is given back by the errand that holds it. -/
theorem Moves.refund (moves : errand.Moves coordinator action granted after)
    (refunds : action.Refunds key) :
    (∃ drawn, errand.applyTicket key = some drawn) ∧ after.applyTicket key = none ∧
      after.lookupTicket key = errand.lookupTicket key := by
  cases moves with
  | stays _ keeps => exact (keeps key refunds).elim
  | granted _ claim fresh keeps => exact (keeps key refunds).elim
  | asked _ claim keeps => exact (keeps key refunds).elim
  | answered _ resolution keeps => exact (keeps key refunds).elim
  | returned claim disposition jitterDelay held kept concludes =>
      obtain ⟨about, returns⟩ := refunds
      have apply := (concludes_returning concludes returns).1
      refine ⟨⟨claim.record.walletApplyAttempts, ?_⟩, ?_, rfl⟩
      · simp [applyTicket, held, about, apply, returning, kept]
      · simp [applyTicket, held, returning, returns]

/-- A grant is a ticket for what it grants. -/
theorem of_tickets (claim : WalletRecoveryClaim) :
    ((Errand.of claim).applyTicket claim.record.key =
        if claim.action = .apply then some claim.record.walletApplyAttempts else none) ∧
      ((Errand.of claim).lookupTicket claim.record.key =
        if claim.action = .apply then none else some claim.record.walletLookupAttempts) := by
  by_cases apply : claim.action = .apply
  · simp [applyTicket, lookupTicket, Errand.of, apply, returning]
  · simp [applyTicket, lookupTicket, Errand.of, apply]

theorem fresh_tickets (key : RoundKey) :
    ({} : Errand).applyTicket key = none ∧ ({} : Errand).lookupTicket key = none := ⟨rfl, rfl⟩

/-- A call of the wallet is made under a ticket, and within the limit. -/
theorem Proper.apply_ticket (proper : errand.Proper coordinator)
    (applied : errand.mayHaveApplied key = true) :
    ∃ drawn, errand.applyTicket key = some drawn ∧ drawn ≤ coordinator.maxWalletAttempts := by
  simp only [mayHaveApplied, called, Bool.and_eq_true, Bool.not_eq_true'] at applied
  obtain ⟨⟨asked, about⟩, sent⟩ := applied
  obtain ⟨claim, held, within⟩ := proper.within asked
  rw [held, Option.any_some, decide_eq_true_eq] at about
  have kept : errand.returning = false := by
    refine Bool.eq_false_iff.mpr fun returns => ?_
    rcases proper.returned returns with unasked | unsent
    · exact absurd (asked.symm.trans unasked) (by decide)
    · exact absurd (unsent.symm.trans sent) (by decide)
  refine ⟨claim.record.walletApplyAttempts, ?_, ?_⟩
  · simp [applyTicket, held, about, kept]
  · rcases within with ⟨_, within⟩ | ⟨lookup, _⟩
    · exact within
    · rw [about.2] at lookup
      cases lookup

theorem Proper.lookup_ticket (proper : errand.Proper coordinator)
    (called : errand.called key .lookup = true) :
    ∃ drawn, errand.lookupTicket key = some drawn ∧ drawn ≤ coordinator.maxWalletAttempts := by
  simp only [Errand.called, Bool.and_eq_true] at called
  obtain ⟨asked, about⟩ := called
  obtain ⟨claim, held, within⟩ := proper.within asked
  rw [held, Option.any_some, decide_eq_true_eq] at about
  refine ⟨claim.record.walletLookupAttempts, ?_, ?_⟩
  · simp [lookupTicket, held, about]
  · rcases within with ⟨apply, _⟩ | ⟨_, within⟩
    · rw [about.2] at apply
      cases apply
    · exact within

end Errand

/-! ## Runs -/

/-- What an action does to the attempts of one round, as far as its thread can tell: a
grant whose reply is lost may have counted. -/
theorem Performs.tally {repository : Repository ω} (counted : CountedStore repository)
    {shared after : Shared repository} {action : CoordinatorAction ω} {reply : action.Reply}
    (valid : counted.Valid shared.state) (performs : Performs repository shared action reply after) :
    counted.Valid after.state ∧ ∀ key,
      (∃ claim ∈ action.granted reply, claim.record.key = key ∧
          counted.tally after.state key = (counted.tally shared.state key).grant claim.action ∧
          claim.record.tally = counted.tally after.state key) ∨
        ((∀ claim ∈ action.granted reply, claim.record.key ≠ key) ∧
          ((counted.tally shared.state key).AtMost (counted.tally after.state key) ∨
            (action.Refunds key ∧ counted.tally after.state key =
              (counted.tally shared.state key).refund))) := by
  cases performs with
  | @answered env call state _ world _ reply ran =>
      obtain ⟨valid', counts, _⟩ := counted.counts valid ran
      refine ⟨valid', fun key => ?_⟩
      by_cases handed : ∃ claim ∈ call.granted reply, claim.record.key = key
      · obtain ⟨claim, member, rfl⟩ := handed
        exact .inl ⟨claim, member, rfl, counts.granted claim member⟩
      · have others : ∀ claim ∈ call.granted reply, claim.record.key ≠ key :=
          fun claim member about => handed ⟨claim, member, about⟩
        refine .inr ⟨others, (counts.kept key others).imp_left fun same => ?_⟩
        rw [same]
        exact Tally.atMost_refl _
  | @lost env call state _ world _ reply detail ran =>
      obtain ⟨valid', counts, _⟩ := counted.counts valid ran
      refine ⟨valid', fun key => .inr ⟨?_, ?_⟩⟩
      · intro claim member
        cases call <;> cases member
      · by_cases refunds : call.Refunds key
        · refine (counts.kept key ?_).imp_left fun same => ?_
          · intro claim member
            cases call <;> first | exact refunds.elim | cases member
          · rw [same]
            exact Tally.atMost_refl _
        · exact .inl (counts.atMost refunds)
  | refused _ call detail =>
      refine ⟨valid, fun key => .inr ⟨?_, .inl (Tally.atMost_refl _)⟩⟩
      intro claim member
      cases call <;> cases member
  | profile | submit | submitted | resolve | resolved =>
      exact ⟨valid, fun key =>
        .inr ⟨fun claim member => absurd member List.not_mem_nil, .inl (Tally.atMost_refl _)⟩⟩

/-- The claims of a round that errands hold are tickets against its attempts. -/
structure Tickets (key : RoundKey) (errands : List Errand) (tally : Tally) : Prop where
  applies : Allowance (Errand.applyTicket key) errands tally.applies
  lookups : Allowance (Errand.lookupTicket key) errands tally.lookups

namespace Tickets

variable {key : RoundKey} {errands : List Errand} {tally later : Tally} {index : Nat}
variable {errand after : Errand}

theorem raise (tickets : Tickets key errands tally) (more : tally.AtMost later) :
    Tickets key errands later :=
  ⟨tickets.applies.raise more.1, tickets.lookups.raise more.2⟩

/-- An errand without a claim is granted one. -/
theorem grant (tickets : Tickets key errands tally) {claim : WalletRecoveryClaim}
    (found : errands[index]? = some {}) (about : claim.record.key = key)
    (counted : claim.record.tally = tally.grant claim.action) :
    Tickets key (errands.set index (.of claim)) (tally.grant claim.action) := by
  subst about
  obtain ⟨applyTicket, lookupTicket⟩ := Errand.of_tickets claim
  have applies : claim.record.walletApplyAttempts = (tally.grant claim.action).applies :=
    congrArg Tally.applies counted
  have lookups : claim.record.walletLookupAttempts = (tally.grant claim.action).lookups :=
    congrArg Tally.lookups counted
  by_cases apply : claim.action = .apply
  · rw [if_pos apply] at applyTicket lookupTicket
    rw [Tally.grant, if_pos apply] at applies ⊢
    rw [applies] at applyTicket
    exact ⟨tickets.applies.grant found rfl applyTicket, tickets.lookups.stay found lookupTicket⟩
  · rw [if_neg apply] at applyTicket lookupTicket
    rw [Tally.grant, if_neg apply] at lookups ⊢
    rw [lookups] at lookupTicket
    exact ⟨tickets.applies.stay found applyTicket, tickets.lookups.grant found rfl lookupTicket⟩

/-- A thread joins with a claim of the round. -/
theorem push (tickets : Tickets key errands tally) {claim : WalletRecoveryClaim}
    (about : claim.record.key = key) (counted : claim.record.tally = tally.grant claim.action) :
    Tickets key (errands ++ [.of claim]) (tally.grant claim.action) := by
  subst about
  obtain ⟨applyTicket, lookupTicket⟩ := Errand.of_tickets claim
  have applies : claim.record.walletApplyAttempts = (tally.grant claim.action).applies :=
    congrArg Tally.applies counted
  have lookups : claim.record.walletLookupAttempts = (tally.grant claim.action).lookups :=
    congrArg Tally.lookups counted
  by_cases apply : claim.action = .apply
  · rw [if_pos apply] at applyTicket lookupTicket
    rw [Tally.grant, if_pos apply] at applies ⊢
    rw [applies] at applyTicket
    exact ⟨tickets.applies.push applyTicket, tickets.lookups.join (by simpa using lookupTicket)⟩
  · rw [if_neg apply] at applyTicket lookupTicket
    rw [Tally.grant, if_neg apply] at lookups ⊢
    rw [lookups] at lookupTicket
    exact ⟨tickets.applies.join (by simpa using applyTicket), tickets.lookups.push lookupTicket⟩

/-- Threads join without a claim of the round. -/
theorem join (tickets : Tickets key errands tally) {fresh : List Errand}
    (others : ∀ errand ∈ fresh, errand.applyTicket key = none ∧ errand.lookupTicket key = none) :
    Tickets key (errands ++ fresh) tally :=
  ⟨tickets.applies.join fun errand member => (others errand member).1,
    tickets.lookups.join fun errand member => (others errand member).2⟩

/-- Claims of other rounds are no tickets of this one. -/
theorem idle (claims : List WalletRecoveryClaim)
    (others : ∀ claim ∈ claims, claim.record.key ≠ key) :
    ∀ errand ∈ claims.map Errand.of, errand.applyTicket key = none ∧
      errand.lookupTicket key = none := by
  intro errand member
  obtain ⟨claim, there, rfl⟩ := List.mem_map.mp member
  have other := others claim there
  simp [Errand.applyTicket, Errand.lookupTicket, Errand.of, other]

/-- A thread joins for each claim of a pass. -/
theorem pass (tickets : Tickets key errands tally) {claims : List WalletRecoveryClaim}
    (once : (claims.map fun claim => claim.record.key).Nodup)
    (granted : ∀ claim ∈ claims, claim.record.key = key →
      later = tally.grant claim.action ∧ claim.record.tally = later)
    (kept : (∀ claim ∈ claims, claim.record.key ≠ key) → later = tally) :
    Tickets key (errands ++ claims.map Errand.of) later := by
  by_cases handed : ∃ claim ∈ claims, claim.record.key = key
  · obtain ⟨claim, member, about⟩ := handed
    obtain ⟨rfl, counted⟩ := granted claim member about
    obtain ⟨left, right, rfl⟩ := List.append_of_mem member
    rw [List.map_append, List.map_cons, List.nodup_middle, ← List.map_append,
      List.nodup_cons] at once
    have others (other : WalletRecoveryClaim) (there : other ∈ left ++ right) :
        other.record.key ≠ key := by
      intro same
      exact once.1 (List.mem_map.mpr ⟨other, there, same.trans about.symm⟩)
    rw [List.map_append, List.map_cons, ← List.append_assoc, List.append_cons]
    refine ((tickets.join (idle left fun other there => ?_)).push about counted).join
      (idle right fun other there => ?_)
    · exact others other (List.mem_append_left _ there)
    · exact others other (List.mem_append_right _ there)
  · have others : ∀ claim ∈ claims, claim.record.key ≠ key :=
      fun claim member about => handed ⟨claim, member, about⟩
    rw [kept others]
    exact tickets.join (idle claims others)

end Tickets

/-- What the servers satisfy: the errands are proper, and the claims they hold are
tickets against the counters of the store. -/
structure Bounded {repository : Repository ω} (coordinator : Coordinator ω)
    (counted : CountedStore repository) (shared : Shared repository) (errands : List Errand) :
    Prop where
  valid : counted.Valid shared.state
  proper : ∀ errand ∈ errands, errand.Proper coordinator
  tickets : ∀ key, Tickets key errands (counted.tally shared.state key)

namespace Bounded

variable {repository : Repository ω} {coordinator : Coordinator ω}
variable {counted : CountedStore repository} {shared after : Shared repository}
variable {errands : List Errand}

/-- One action of one thread. -/
theorem performed (bounded : Bounded coordinator counted shared errands) {index : Nat}
    {errand : Errand} {action : CoordinatorAction ω} {reply : action.Reply}
    (found : errands[index]? = some errand) (allowed : errand.Allows coordinator action)
    (performs : Performs repository shared action reply after) :
    Bounded coordinator counted after (errands.set index (errand.next action reply)) := by
  have moves := Errand.moves allowed reply
  obtain ⟨valid, tallies⟩ := performs.tally counted bounded.valid
  refine ⟨valid, ?_, fun key => ?_⟩
  · intro other member
    rcases List.mem_or_eq_of_mem_set member with old | rfl
    · exact bounded.proper other old
    · exact moves.proper (bounded.proper errand (List.mem_of_getElem? found))
  have tickets := bounded.tickets key
  rcases tallies key with ⟨claim, member, about, granted, same⟩ | ⟨others, tally⟩
  · obtain ⟨rfl, gained⟩ := moves.grant member
    rw [gained, granted]
    exact tickets.grant found about (same.trans granted)
  by_cases refunds : action.Refunds key
  · obtain ⟨⟨drawn, held⟩, given, lookups⟩ := moves.refund refunds
    have least : (counted.tally shared.state key).applies - 1 ≤
          (counted.tally after.state key).applies ∧
        (counted.tally shared.state key).lookups ≤ (counted.tally after.state key).lookups := by
      rcases tally with ⟨applies, more⟩ | ⟨_, same⟩
      · exact ⟨by omega, more⟩
      · rw [same]
        exact ⟨le_rfl, le_rfl⟩
    exact ⟨tickets.applies.takeBack found held given least.1,
      (tickets.lookups.stay found lookups).raise least.2⟩
  · obtain ⟨applies, lookups⟩ := moves.tickets others refunds
    have more := tally.resolve_right fun refunded => refunds refunded.1
    exact ⟨(tickets.applies.stay found applies).raise more.1,
      (tickets.lookups.stay found lookups).raise more.2⟩

/-- Threads start: those of a pass hold its claims. -/
theorem started (bounded : Bounded coordinator counted shared errands)
    {fresh : List (CoordinatorThread ω)} (starts : Starts coordinator repository shared fresh after) :
    Bounded coordinator counted after (errands ++ fresh.map Thread.phase) := by
  -- a request starts without a claim
  have request (thread : CoordinatorThread ω) (idle : thread.phase = {}) :
      Bounded coordinator counted shared (errands ++ [thread.phase]) := by
    rw [idle]
    refine ⟨bounded.valid, ?_, fun key => (bounded.tickets key).join ?_⟩
    · intro errand member
      rcases List.mem_append.mp member with old | new
      · exact bounded.proper errand old
      · rw [List.mem_singleton.mp new]
        exact .fresh
    · intro errand member
      rw [List.mem_singleton.mp member]
      exact Errand.fresh_tickets key
  -- nothing starts, and nothing is given back
  have quiet {state : repository.State} {world : ω} (valid : counted.Valid state)
      (more : ∀ key, (counted.tally shared.state key).AtMost (counted.tally state key)) :
      Bounded coordinator counted ⟨state, world⟩ (errands ++ []) := by
    rw [List.append_nil]
    exact ⟨valid, bounded.proper, fun key => (bounded.tickets key).raise (more key)⟩
  cases starts with
  | spin _ waits asked => exact request _ rfl
  | reconcile _ key => exact request _ rfl
  | @pass env limit leaseDuration state _ world _ reply settings ran =>
      obtain ⟨valid, counts, _⟩ := counted.counts bounded.valid ran
      rw [List.map_map]
      refine ⟨valid, ?_, fun key => (bounded.tickets key).pass counts.once ?_ ?_⟩
      · intro errand member
        rcases List.mem_append.mp member with old | new
        · exact bounded.proper errand old
        · obtain ⟨claim, _, rfl⟩ := List.mem_map.mp new
          exact .of claim
      · rintro claim member rfl
        exact counts.granted claim member
      · exact fun others => (counts.kept key others).resolve_right And.left
  | @lostPass env limit leaseDuration state _ world _ reply ran =>
      obtain ⟨valid, counts, _⟩ := counted.counts bounded.valid ran
      exact quiet valid fun key => counts.atMost id
  | @served env call state _ world _ reply outside ran =>
      obtain ⟨valid, counts, _⟩ := counted.counts bounded.valid ran
      refine quiet valid fun key => counts.atMost fun refunds => ?_
      cases call <;> first | exact refunds | exact outside

end Bounded

section Reach

variable {repository : Repository ω} {coordinator : Coordinator ω} {initial : repository.State → Prop}
variable {system later : Servers repository}

/-- Along every run, the claims that threads hold are tickets. -/
theorem servers_bounded (counted : CountedStore repository)
    (valid : ∀ state, initial state → counted.Valid state ∧
      ∀ key, 0 ≤ (counted.tally state key).applies ∧ 0 ≤ (counted.tally state key).lookups)
    (reach : ServersReach coordinator repository initial system) :
    Bounded coordinator counted system.shared system.phases := by
  refine Threads.Reachable.phases (Bounded coordinator counted)
    (fun _ _ _ starts => starts.conforms) ?_ ?_ ?_ reach
  · intro shared isInitial
    obtain ⟨valid, nonneg⟩ := valid shared.state isInitial
    exact ⟨valid, fun _ member => absurd member List.not_mem_nil, fun key =>
      ⟨.nil (nonneg key).1, .nil (nonneg key).2⟩⟩
  · exact fun _ _ _ _ bounded starts => bounded.started starts
  · exact fun _ _ _ _ _ _ _ bounded found allowed performs =>
      bounded.performed found allowed performs

/-- Whoever holds a claim of a round held it before. -/
def HeldBefore (key : RoundKey) (before after : List Errand) : Prop :=
  ∀ (index : Nat) errand claim, after[index]? = some errand → errand.claim = some claim →
    claim.record.key = key → ∃ earlier, before[index]? = some earlier ∧ earlier.claim = some claim

theorem HeldBefore.trans {key : RoundKey} {first second third : List Errand}
    (early : HeldBefore key first second) (late : HeldBefore key second third) :
    HeldBefore key first third := by
  intro index errand claim found held about
  obtain ⟨middle, there, held'⟩ := late index errand claim found held about
  exact early index middle claim there held' about

theorem Performs.reviewed (counted : CountedStore repository) {shared after : Shared repository}
    {action : CoordinatorAction ω} {reply : action.Reply} (valid : counted.Valid shared.state)
    (performs : Performs repository shared action reply after) :
    counted.reviewed shared.state ⊆ counted.reviewed after.state ∧
      ∀ claim ∈ action.granted reply, claim.record.key ∉ counted.reviewed shared.state := by
  cases performs with
  | answered ran => exact (counted.counts valid ran).2.2
  | @lost env call state _ world _ reply detail ran =>
      refine ⟨(counted.counts valid ran).2.2.1, fun claim member => ?_⟩
      cases call <;> cases member
  | refused _ call detail =>
      refine ⟨subset_rfl, fun claim member => ?_⟩
      cases call <;> cases member
  | profile | submit | submitted | resolve | resolved =>
      exact ⟨subset_rfl, fun claim member => absurd member List.not_mem_nil⟩

/-- No step grants a claim of a round in review, and the round stays there. -/
theorem reviewed_step (counted : CountedStore repository) {key : RoundKey}
    (valid : counted.Valid system.shared.state)
    (conform : system.Conform (errandProtocol coordinator))
    (step : ServersStep coordinator repository system later)
    (inReview : key ∈ counted.reviewed system.shared.state) :
    key ∈ counted.reviewed later.shared.state ∧ HeldBefore key system.phases later.phases := by
  -- threads that join without a claim of the round
  have joined {errands fresh : List Errand}
      (others : ∀ errand ∈ fresh, ∀ claim, errand.claim = some claim → claim.record.key ≠ key) :
      HeldBefore key errands (errands ++ fresh) := by
    intro index errand claim found held about
    rw [List.getElem?_append] at found
    split at found
    · exact ⟨errand, found, held⟩
    · exact absurd about (others errand (List.mem_of_getElem? found) claim held)
  cases step with
  | @started shared after threads fresh start =>
      rw [Threads.phases, Threads.phases, List.map_append]
      cases start with
      | spin _ waits request =>
          refine ⟨inReview, joined fun errand member claim held => ?_⟩
          rw [List.mem_singleton.mp member] at held
          cases held
      | reconcile _ target =>
          refine ⟨inReview, joined fun errand member claim held => ?_⟩
          rw [List.mem_singleton.mp member] at held
          cases held
      | pass settings ran =>
          obtain ⟨_, _, kept, others⟩ := counted.counts valid ran
          refine ⟨kept inReview, joined fun errand member claim held => ?_⟩
          rw [List.map_map] at member
          obtain ⟨granted, there, rfl⟩ := List.mem_map.mp member
          cases held
          rintro rfl
          exact others claim there inReview
      | lostPass ran =>
          exact ⟨(counted.counts valid ran).2.2.1 inReview, joined fun errand member =>
            absurd member List.not_mem_nil⟩
      | served outside ran =>
          exact ⟨(counted.counts valid ran).2.2.1 inReview, joined fun errand member =>
            absurd member List.not_mem_nil⟩
  | @performed shared after threads index errand action next reply found performs =>
      obtain ⟨kept, others⟩ := performs.reviewed counted valid
      refine ⟨kept inReview, fun place other claim there held about => ?_⟩
      have allowed : errand.Allows coordinator action :=
        (conform _ (List.mem_of_getElem? found)).1
      have before : (threads.map Thread.phase)[index]? = some errand :=
        (List.getElem?_map ..).trans (congrArg (Option.map Thread.phase) found)
      rw [Threads.phases, List.map_set] at there
      rcases set_cases there with ⟨rfl, _, rfl⟩ | ⟨_, same⟩
      · refine ⟨errand, before, ?_⟩
        have moves := Errand.moves allowed reply
        generalize action.granted reply = granted at moves others
        change (errand.next action reply).claim = some claim at held
        generalize errand.next action reply = moved at moves held
        cases moves with
        | stays | returned | asked | answered => exact held
        | granted _ given fresh =>
            cases held
            exact absurd (about ▸ inReview) (others claim (List.mem_singleton.mpr rfl))
      · exact ⟨other, same, held⟩
  | crashed found =>
      rw [Threads.phases_crashed found]
      exact ⟨inReview, fun index errand claim found held _ => ⟨errand, found, held⟩⟩

/-- A review is final: no claim of the round is granted any more. -/
theorem servers_reviewed (counted : CountedStore repository)
    (valid : ∀ state, initial state → counted.Valid state ∧
      ∀ key, 0 ≤ (counted.tally state key).applies ∧ 0 ≤ (counted.tally state key).lookups)
    (reach : ServersReach coordinator repository initial system)
    (run : Relation.ReflTransGen (ServersStep coordinator repository) system later)
    {key : RoundKey} (inReview : key ∈ counted.reviewed system.shared.state) :
    key ∈ counted.reviewed later.shared.state ∧ HeldBefore key system.phases later.phases := by
  have reached {middle : Servers repository}
      (path : Relation.ReflTransGen (ServersStep coordinator repository) system middle) :
      ServersReach coordinator repository initial middle := by
    obtain ⟨first, isInitial, began⟩ := reach
    exact ⟨first, isInitial, began.trans path⟩
  induction run with
  | refl => exact ⟨inReview, fun index errand claim found held _ => ⟨errand, found, held⟩⟩
  | tail path step ih =>
      obtain ⟨still, held⟩ := ih
      obtain ⟨next, held'⟩ := reviewed_step counted
        (servers_bounded counted valid (reached path)).valid
        (Threads.Reachable.conform (fun _ _ _ starts => starts.conforms) (reached path)) step still
      exact ⟨next, held.trans held'⟩

end Reach

end SlotsGame.Rgs
