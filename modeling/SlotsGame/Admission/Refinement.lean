/-
# SlotsGame.Admission.Refinement -- the limiter is a token bucket

In exact arithmetic the script finds in a key what its bucket has available: within
its time to live the elapsed time is what has been used of it, and past it the bucket
is full (`loadTokens_exact`).  Over a run the script and the ideal buckets then decide
alike (`Policy.limiter_refines`).  In doubles they do not (`late_token`): what a sum
loses is missing when the next token is due.
-/
import SlotsGame.Admission.Buckets

namespace SlotsGame.Admission

open SlotsGame.Theory

set_option autoImplicit false

namespace Policy

variable {policy : Policy} (valid : policy.Valid)
variable {now later : Nat} {state : TokenLevel ℚ} {keys : Keyspace} {key : String}

/-! ## One key -/

/-- The entry of the basic limiter does not say when it was made. -/
def form (policy : Policy) (tokens : ℚ) (_last : Nat) : Packed := policy.entry exactly tokens

include valid in
/-- A key that has run out stands for a full bucket. -/
theorem loadTokens_gone (gone : keys.get now key = none) :
    loadTokens exactly policy.capacityMilli policy.rateMilli keys now key =
      .ok policy.capacityMilli := by
  have capacity : (0 : ℚ) ≤ policy.capacityMilli := (policy.bucket valid).capacity_nonneg
  rw [loadTokens, gone]
  simp [refill, exactly]

include valid in
/-- The script finds what the bucket has available. -/
theorem loadTokens_exact (stored : Stored policy policy.form keys key now state) :
    loadTokens exactly policy.capacityMilli policy.rateMilli keys now key =
      .ok ((policy.bucket valid).available state now) := by
  obtain ⟨positive, within, past⟩ := stored.level valid
  rcases stored.read valid with ⟨gone, full⟩ | ⟨entry, last, found, shape, since, before, left⟩
  · rw [loadTokens_gone valid gone, full]
  · have base := ttlBase_fill valid exactly_rounds
    have bounds := fill_bounds valid exactly_rounds
    have least : 1000 ≤ ttlBase (policy.fillTime exactly) := by omega
    have most : ttlBase (policy.fillTime exactly) ≤ 86400000 := by omega
    have short : ((Keyspace.pttl now entry : ℕ) : ℤ) ≤ ttlBase (policy.fillTime exactly) := by
      omega
    have elapsed : (ttlBase (policy.fillTime exactly) : ℚ) - Keyspace.pttl now entry =
        now - state.last := by
      rw [since]
      have : ttlBase (policy.fillTime exactly) - ((Keyspace.pttl now entry : ℕ) : ℤ) =
          (now : ℤ) - last := by omega
      exact_mod_cast this
    rw [loadTokens_found found shape positive (by rw [Int.floor_intCast])
      (by exact_mod_cast least) (by exact_mod_cast most) (by exact_mod_cast short), elapsed]
    exact congrArg Except.ok (refill_available valid positive within past)

include valid in
theorem serve_admits (stored : Stored policy policy.form keys key now state)
    (covered : 1000 ≤ (policy.bucket valid).available state now) :
    policy.serve exactly keys ⟨now, key⟩ =
      (.ok (1, 0), keys.set now key
        (policy.entry exactly ((policy.bucket valid).available state now - 1000))
        (ttlBase (policy.fillTime exactly)).toNat) := by
  rw [serve_eq valid exactly_rounds]
  dsimp only
  rw [loadTokens_exact valid stored]
  dsimp only
  rw [if_pos covered, exactly_eq]

include valid in
theorem serve_denies (stored : Stored policy policy.form keys key now state)
    (short : ¬ 1000 ≤ (policy.bucket valid).available state now) :
    policy.serve exactly keys ⟨now, key⟩ =
      (.ok (0, policy.retry exactly ((policy.bucket valid).available state now)), keys) := by
  rw [serve_eq valid exactly_rounds]
  dsimp only
  rw [loadTokens_exact valid stored]
  dsimp only
  rw [if_neg short]

/-- A request touches no other key. -/
theorem serve_other (round : ℚ → ℚ) (keys : Keyspace) (asking : Asking) (other : key ≠ asking.key) :
    (policy.serve round keys asking).2 key = keys key := by
  unfold serve tokenBucketScript
  dsimp only
  split_ifs with ranges short
  · rfl
  · rfl
  · cases loadTokens round policy.capacityMilli policy.rateMilli keys asking.now asking.key with
    | error message => rfl
    | ok tokens =>
        dsimp only
        split_ifs with covered
        · exact Function.update_of_ne other _ _
        · rfl

/-! ## Waiting -/

include valid in
/-- What is missing flows in while a refused request waits. -/
theorem retry_enough (tokens : ℚ) :
    1000 - tokens ≤ policy.retry exactly tokens * (policy.bucket valid).rate := by
  have rate := (rate_bounds valid).1
  have positive : (0 : ℚ) < policy.rateMilli := by linarith
  have rounded : (1000 - tokens) * 1000 / policy.rateMilli ≤ policy.retry exactly tokens := by
    refine le_trans (Int.le_ceil _) ?_
    exact_mod_cast le_max_right (1 : ℤ) _
  rw [div_le_iff₀ positive] at rounded
  show _ ≤ (policy.retry exactly tokens : ℚ) * (policy.rateMilli / 1000)
  linarith

include valid in
/-- A request is admitted once the wait of a refusal is over. -/
theorem covered_after_retry (ordered : now + policy.retry exactly
      ((policy.bucket valid).available state now) ≤ (later : ℤ)) :
    1000 ≤ (policy.bucket valid).available state later := by
  have enough := retry_enough valid ((policy.bucket valid).available state now)
  have least : (1 : ℤ) ≤ policy.retry exactly ((policy.bucket valid).available state now) := le_max_left _ _
  have waited : (0 : ℚ) ≤ policy.retry exactly ((policy.bucket valid).available state now) := by
    exact_mod_cast (le_trans (by decide) least : (0 : ℤ) ≤ _)
  have fits : (1000 : ℚ) ≤ (policy.bucket valid).capacity := (capacity_bounds valid).1
  refine le_trans ((policy.bucket valid).available_after 1000 _ fits enough waited) ?_
  exact (policy.bucket valid).available_mono (by exact_mod_cast ordered)

/-! ## Runs -/

/-- Each key is a bucket that has what the ideal one has from an instant on. -/
def Agrees (policy : Policy) (valid : policy.Valid) (keys : Keyspace) (now : Nat)
    (levels : String → TokenLevel ℚ) : Prop :=
  ∀ key, ∃ state, Stored policy policy.form keys key now state ∧
    ∀ later : ℚ, now ≤ later →
      (policy.bucket valid).available (levels key) later =
        (policy.bucket valid).available state later

variable {levels : String → TokenLevel ℚ}

theorem Agrees.at_later (agrees : Agrees policy valid keys now levels) (ordered : now ≤ later) :
    Agrees policy valid keys later levels := by
  intro key
  obtain ⟨state, stored, same⟩ := agrees key
  refine ⟨state, stored.at_later ordered, fun instant past => same instant (le_trans ?_ past)⟩
  exact_mod_cast ordered

/-- Full buckets and no keys. -/
theorem agrees_full : Agrees policy valid (fun _ => none) 0 policy.full :=
  fun _ => ⟨_, .unused rfl, fun _ _ => rfl⟩

/-- `AdmissionResult` allows. -/
def admits : AdmissionDecision → Bool
  | .allowed => true
  | .rateLimited _ => false

/-- A reply that `Admit` takes for an answer. -/
def Answers (reply : Except String (Int × Int)) (answer : Bool) : Prop :=
  (decideReply reply).map admits = some answer

theorem answers_limited {retry : Int} (bounds : 1 ≤ retry ∧ retry ≤ maximumBucketTTL) :
    Answers (.ok (0, retry)) false := by
  obtain ⟨allowed, waited, same, accepted⟩ := inRange_limited bounds
  cases same
  rw [Answers, decideReply, if_neg (by simp [accepted]), if_pos rfl]
  rfl

/-- One request is answered as the ideal bucket answers it, and leaves its bucket as
the ideal one is left. -/
theorem Agrees.serve {asking : Asking} (agrees : Agrees policy valid keys asking.now levels) :
    Answers (policy.serve exactly keys asking).1 (policy.ideal valid levels asking).1 ∧
      Agrees policy valid (policy.serve exactly keys asking).2 asking.now
        (policy.ideal valid levels asking).2 := by
  obtain ⟨state, stored, same⟩ := agrees asking.key
  have present := same asking.now (le_refl _)
  have elsewhere : ∀ key, key ≠ asking.key → ∃ state,
      Stored policy policy.form (policy.serve exactly keys asking).2 key asking.now state ∧
        ∀ later : ℚ, asking.now ≤ later →
          (policy.bucket valid).available ((policy.ideal valid levels asking).2 key) later =
            (policy.bucket valid).available state later := by
    intro key other
    obtain ⟨state, stored, same⟩ := agrees key
    refine ⟨state, stored.of_other (serve_other exactly keys asking other), ?_⟩
    rw [ideal]
    dsimp only
    rw [Function.update_of_ne other]
    exact same
  by_cases covered : 1000 ≤ (policy.bucket valid).available state asking.now
  · have served := serve_admits valid stored covered
    have answered : (policy.ideal valid levels asking).1 = true := by
      rw [ideal, present]
      exact decide_eq_true covered
    refine ⟨by rw [served, answered]; rfl, fun key => ?_⟩
    by_cases here : key = asking.key
    · subst here
      refine ⟨_, by rw [served]; exact stored_charged valid policy.form (by norm_num) covered (Function.update_self _ _ _), ?_⟩
      intro later _
      rw [ideal]
      dsimp only
      rw [Function.update_self, TokenBucket.charge, present, decide_eq_true covered, if_pos rfl]
      rfl
    · exact elsewhere key here
  · have served := serve_denies valid stored covered
    have answered : (policy.ideal valid levels asking).1 = false := by
      rw [ideal, present]
      exact decide_eq_false covered
    obtain ⟨positive, _, past⟩ := stored.level valid
    have bounds := retry_bounds valid exactly_rounds ((policy.bucket valid).available_nonneg positive past)
      covered
    refine ⟨by rw [served, answered]; exact answers_limited bounds, fun key => ?_⟩
    by_cases here : key = asking.key
    · subst here
      refine ⟨state, by rw [served]; exact stored, ?_⟩
      intro later ordered
      rw [ideal]
      dsimp only
      rw [Function.update_self, TokenBucket.charge, decide_eq_false (by rwa [present]),
        if_neg Bool.false_ne_true, sub_zero, (policy.bucket valid).available_later ordered]
      exact same later ordered
    · exact elsewhere key here

/-- A sequence of requests is answered as the ideal buckets answer it. -/
theorem Agrees.serveAll {requests : List Asking} (agrees : Agrees policy valid keys now levels)
    (ordered : Ordered now requests) :
    List.Forall₂ Answers (policy.serveAll exactly keys requests).1
      (policy.idealAll valid levels requests) := by
  induction requests generalizing keys now levels with
  | nil => exact .nil
  | cons asking rest ih =>
      obtain ⟨past, ordered⟩ := ordered.cons
      obtain ⟨answered, agrees⟩ := (agrees.at_later valid past).serve valid
      exact .cons answered (ih agrees ordered)

/-- The buckets that a sequence of requests leaves. -/
theorem Agrees.after {requests : List Asking} (agrees : Agrees policy valid keys now levels)
    (ordered : Ordered now requests) (past : now ≤ later)
    (last : ∀ asking ∈ requests, asking.now ≤ later) :
    ∃ levels, Agrees policy valid (policy.serveAll exactly keys requests).2 later levels := by
  induction requests generalizing keys now levels with
  | nil => exact ⟨levels, agrees.at_later valid past⟩
  | cons asking rest ih =>
      obtain ⟨before, ordered⟩ := ordered.cons
      obtain ⟨_, agrees⟩ := (agrees.at_later valid before).serve valid
      exact ih agrees ordered (last asking List.mem_cons_self)
        fun later held => last later (List.mem_cons_of_mem _ held)

theorem serveAll_append (round : ℚ → ℚ) (keys : Keyspace) (first second : List Asking) :
    (policy.serveAll round keys (first ++ second)).2 =
      (policy.serveAll round (policy.serveAll round keys first).2 second).2 := by
  induction first generalizing keys with
  | nil => rfl
  | cons asking rest ih => exact ih _

/-- Requests for other identities leave a key as it is. -/
theorem serveAll_other (round : ℚ → ℚ) (keys : Keyspace) (requests : List Asking)
    (others : ∀ other ∈ requests, other.key ≠ key) :
    (policy.serveAll round keys requests).2 key = keys key := by
  induction requests generalizing keys with
  | nil => rfl
  | cons asking rest ih =>
      have first : (policy.serve round keys asking).2 key = keys key :=
        serve_other round keys asking (others asking List.mem_cons_self).symm
      exact (ih _ fun other held => others other (List.mem_cons_of_mem _ held)).trans first

include valid in
/-- The request after a refusal and its wait is admitted, whatever is asked for other
identities meanwhile. -/
theorem serve_after_retry {asking again : Asking} {between : List Asking} {waited : Int}
    (agrees : Agrees policy valid keys asking.now levels)
    (refused : (policy.serve exactly keys asking).1 = .ok (0, waited))
    (others : ∀ other ∈ between, other.key ≠ asking.key) (same : again.key = asking.key)
    (past : asking.now + waited ≤ (again.now : ℤ)) :
    (policy.serve exactly (policy.serveAll exactly keys (asking :: between)).2 again).1 =
      .ok (1, 0) := by
  obtain ⟨state, stored, _⟩ := agrees asking.key
  have short : ¬ 1000 ≤ (policy.bucket valid).available state asking.now := by
    intro covered
    rw [serve_admits valid stored covered] at refused
    cases refused
  have denied := serve_denies valid stored short
  rw [denied] at refused
  cases refused
  have ordered : asking.now ≤ again.now := by
    have : (1 : ℤ) ≤ policy.retry exactly ((policy.bucket valid).available state asking.now) :=
      le_max_left _ _
    omega
  have kept : (policy.serveAll exactly keys (asking :: between)).2 asking.key = keys asking.key := by
    show (policy.serveAll exactly (policy.serve exactly keys asking).2 between).2 asking.key = _
    rw [denied]
    exact serveAll_other exactly keys between others
  have stored := (stored.at_later ordered).of_other kept
  rw [← same] at stored
  rw [serve_admits valid stored (covered_after_retry valid past)]

end Policy

/-- The script answers a run as ideal token buckets do, a wait that it reports is
enough, and its replies are in the range that `Admit` takes, also in doubles. -/
theorem Policy.limiter_refines (policy : Policy) (valid : policy.Valid) (requests : List Asking)
    (sorted : requests.Pairwise fun earlier later => earlier.now ≤ later.now) :
    List.Forall₂ Policy.Answers (policy.serveAll exactly (fun _ => none) requests).1
        (policy.idealAll valid policy.full requests) ∧
      (∀ before asking between again waited, requests = before ++ asking :: between ++ [again] →
        (policy.serve exactly (policy.serveAll exactly (fun _ => none) before).2 asking).1 =
          .ok (0, waited) →
        (∀ other ∈ between, other.key ≠ asking.key) → again.key = asking.key →
        asking.now + waited ≤ (again.now : ℤ) →
        (policy.serve exactly
          (policy.serveAll exactly (fun _ => none) (before ++ asking :: between)).2 again).1 =
          .ok (1, 0)) ∧
      (∀ reply ∈ (policy.serveAll exactly (fun _ => none) requests).1, InRange reply) ∧
      ∀ reply ∈ (policy.serveAll binary64 (fun _ => none) requests).1, InRange reply := by
  have ordered := Ordered.start sorted
  refine ⟨Policy.Agrees.serveAll valid (Policy.agrees_full valid) ordered, ?_,
    sound_empty.serveAll valid exactly_rounds ordered,
    sound_empty.serveAll valid binary64_rounds ordered⟩
  intro before asking between again waited split refused others same past
  rw [split, List.append_assoc, List.cons_append, List.pairwise_append] at sorted
  obtain ⟨sorted, _, apart⟩ := sorted
  obtain ⟨levels, agrees⟩ := Policy.Agrees.after valid (Policy.agrees_full valid) (Ordered.start sorted)
    (Nat.zero_le asking.now) fun earlier held => apart earlier held asking List.mem_cons_self
  rw [Policy.serveAll_append]
  exact Policy.serve_after_retry valid agrees refused others same past

/-- A token for a second, and one at most. -/
def oneEachSecond : Policy := ⟨1000, 1⟩

theorem oneEachSecond_valid : oneEachSecond.Valid := by
  refine ⟨by decide, by decide, by decide +kernel⟩

/-- Two identities, one of which asks too early. -/
def earlyRequests : List Asking := [⟨0, "a"⟩, ⟨400, "a"⟩, ⟨500, "b"⟩, ⟨1000, "a"⟩]

theorem earlyRequests_refine :
    (oneEachSecond.serveAll exactly (fun _ => none) earlyRequests).1 =
        [.ok (1, 0), .ok (0, 600), .ok (1, 0), .ok (1, 0)] ∧
      List.Forall₂ Policy.Answers
        (oneEachSecond.serveAll exactly (fun _ => none) earlyRequests).1
        (oneEachSecond.idealAll oneEachSecond_valid oneEachSecond.full earlyRequests) :=
  ⟨by decide +kernel,
    (oneEachSecond.limiter_refines oneEachSecond_valid earlyRequests (by decide)).1⟩

/-- A token for a thousand seconds, and three at most. -/
def slow : Policy := ⟨1, 3⟩

theorem slow_valid : slow.Valid := by
  refine ⟨by decide, by decide, by decide +kernel⟩

/-- Three tokens are used while a fourth one flows in. -/
def lateRequests : List Asking := [⟨0, "a"⟩, ⟨2571, "a"⟩, ⟨5052, "a"⟩, ⟨1000000, "a"⟩]

/-- The fourth token is there when it is asked for, and in doubles it is not. -/
theorem late_token :
    lateRequests.Pairwise (fun earlier later => earlier.now ≤ later.now) ∧
      slow.idealAll slow_valid slow.full lateRequests = [true, true, true, true] ∧
      ¬ List.Forall₂ Policy.Answers (slow.serveAll binary64 (fun _ => none) lateRequests).1
        (slow.idealAll slow_valid slow.full lateRequests) := by
  have ideal : slow.idealAll slow_valid slow.full lateRequests = [true, true, true, true] := by
    decide +kernel
  have served : (slow.serveAll binary64 (fun _ => none) lateRequests).1 =
      [.ok (1, 0), .ok (1, 0), .ok (1, 0), .ok (0, 1)] := by
    decide +kernel
  refine ⟨by decide, ideal, fun agree => ?_⟩
  rw [ideal, served] at agree
  cases agree with
  | cons _ agree => cases agree with
    | cons _ agree => cases agree with
      | cons _ agree => cases agree with
        | cons last _ => exact absurd last (by unfold Policy.Answers; decide)

end SlotsGame.Admission
