/-
# SlotsGame.Admission.Replies -- the range of the replies

The script answers within the range that `Admit` takes however its arithmetic rounds,
as long as the rounding keeps the order and the integers that are doubles: what it
stores passes its own checks when it is read back (`Sound.loadTokens`), so no request
ends in an error, and a wait is at most the time in which a whole token flows in.
-/
import SlotsGame.Admission.Limiter
import SlotsGame.Theory.Binary64

namespace SlotsGame.Admission

open SlotsGame.Theory

set_option autoImplicit false

namespace Policy

variable {policy : Policy} (valid : policy.Valid)

/-- `fill_time` of a policy. -/
def fillTime (policy : Policy) (round : ℚ → ℚ) : Int :=
  Admission.fillTime round policy.capacityMilli policy.rateMilli

include valid

theorem capacity_bounds :
    (1000 : ℚ) ≤ policy.capacityMilli ∧ (policy.capacityMilli : ℚ) ≤ 1000000000 := by
  have least : (1000 : ℤ) ≤ policy.capacityMilli := by
    have := valid.1.1
    unfold capacityMilli
    omega
  have most : policy.capacityMilli ≤ (1000000000 : ℤ) := by
    have := valid.1.2
    unfold capacityMilli
    omega
  exact ⟨by exact_mod_cast least, by exact_mod_cast most⟩

theorem rate_bounds : (1 : ℚ) ≤ policy.rateMilli ∧ (policy.rateMilli : ℚ) ≤ 100000000 :=
  ⟨by exact_mod_cast valid.2.1.1, by exact_mod_cast valid.2.1.2⟩

variable {round : ℚ → ℚ} (rounds : Rounding round)
include rounds

/-- The fill time is positive and leaves a second of the longest time to live. -/
theorem fill_bounds : 0 ≤ policy.fillTime round ∧ policy.fillTime round + 1000 ≤ 86400000 := by
  have capacity := capacity_bounds valid
  have rate := (rate_bounds valid).1
  have whole : round (policy.capacityMilli * 1000) = policy.capacityMilli * 1000 := by
    have natural : ((policy.capacityMilli * 1000).toNat : ℤ) = policy.capacityMilli * 1000 :=
      Int.toNat_of_nonneg (by have := valid.1.1; unfold capacityMilli; omega)
    have small : (policy.capacityMilli * 1000).toNat ≤ 2 ^ 53 := by
      have := valid.1.2
      unfold capacityMilli
      omega
    have rounded := rounds.natural small
    rw [← Int.cast_natCast, natural] at rounded
    exact_mod_cast rounded
  have positive : 0 ≤ (policy.capacityMilli * 1000 : ℚ) / policy.rateMilli :=
    div_nonneg (by linarith [capacity.1]) (by linarith)
  have exact := valid.2.2
  constructor
  · exact Int.ceil_nonneg (rounds.nonneg (by rw [whole]; exact positive))
  · have ceiling : 0 ≤ ⌈(policy.capacityMilli * 1000 : ℚ) / policy.rateMilli⌉ :=
      Int.ceil_nonneg positive
    obtain ⟨bound, bounded⟩ := Int.eq_ofNat_of_zero_le ceiling
    rw [bounded] at exact
    have rounded : round ((policy.capacityMilli * 1000 : ℚ) / policy.rateMilli) ≤ bound := by
      refine rounds.at_most positive ?_ (by unfold maximumBucketTTL at exact; omega)
      have := Int.le_ceil ((policy.capacityMilli * 1000 : ℚ) / policy.rateMilli)
      rw [bounded] at this
      exact_mod_cast this
    have : policy.fillTime round ≤ (bound : ℤ) := by
      unfold fillTime Admission.fillTime
      rw [whole]
      exact Int.ceil_le.mpr (by exact_mod_cast rounded)
    unfold maximumBucketTTL at exact
    omega

/-- The time to live is the fill time and a second. -/
theorem ttlBase_fill : ttlBase (policy.fillTime round) = policy.fillTime round + 1000 := by
  have := (fill_bounds valid rounds).1
  unfold ttlBase
  omega

end Policy

/-! ## The entries -/

/-- What an admission leaves. -/
def Policy.entry (policy : Policy) (round : ℚ → ℚ) (tokens : ℚ) : Packed :=
  .table [tokens, ttlBase (policy.fillTime round)]

/-- What a refused request is told to wait. -/
def Policy.retry (policy : Policy) (round : ℚ → ℚ) (tokens : ℚ) : Int :=
  max 1 ⌈round (round (round (1000 - tokens) * 1000) / policy.rateMilli)⌉

/-- The arguments of a policy pass the checks of the script. -/
theorem Policy.serve_eq {policy : Policy} (valid : policy.Valid) {round : ℚ → ℚ}
    (rounds : Rounding round) (keys : Keyspace) (asking : Asking) :
    policy.serve round keys asking =
      match loadTokens round policy.capacityMilli policy.rateMilli keys asking.now asking.key with
      | .error message => (.error message, keys)
      | .ok tokens =>
          if tokens ≥ 1000 then
            (.ok (1, 0), keys.set asking.now asking.key (policy.entry round (round (tokens - 1000)))
              (ttlBase (policy.fillTime round)).toNat)
          else (.ok (0, policy.retry round tokens), keys) := by
  obtain ⟨leastCapacity, mostCapacity⟩ := capacity_bounds valid
  obtain ⟨leastRate, mostRate⟩ := rate_bounds valid
  have ranges : ¬ ((policy.capacityMilli : ℚ) < 1000 ∨ (policy.capacityMilli : ℚ) > 1000000000 ∨
      (policy.rateMilli : ℚ) < 1 ∨ (policy.rateMilli : ℚ) > 100000000) := by
    simp only [not_or, not_lt]
    exact ⟨leastCapacity, mostCapacity, leastRate, mostRate⟩
  have short : ¬ (Admission.fillTime round policy.capacityMilli policy.rateMilli + 1000 >
      86400000) :=
    not_lt.mpr (fill_bounds valid rounds).2
  unfold serve tokenBucketScript
  dsimp only
  rw [if_neg ranges, if_neg short]
  rfl

/-- The check of the script on an entry. -/
theorem loadTokens_found {round : ℚ → ℚ} {capacity rate tokens base : ℚ} {keys : Keyspace}
    {now : Nat} {key : String} {entry : Entry} (found : keys.get now key = some entry)
    (shape : entry.value = .table [tokens, base]) (positive : 0 ≤ tokens) (whole : base = ⌊base⌋)
    (least : 1000 ≤ base) (most : base ≤ 86400000) (left : (Keyspace.pttl now entry : ℚ) ≤ base) :
    loadTokens round capacity rate keys now key =
      .ok (refill round capacity rate (min capacity tokens)
        (clipElapsed (round (base - Keyspace.pttl now entry)) (fillTime round capacity rate))) := by
  have sane : ¬ (tokens < 0 ∨ base ≠ ⌊base⌋ ∨ base < 1000 ∨ base > 86400000 ∨
      base < Keyspace.pttl now entry) := by
    rw [not_or, not_or, not_or, not_or]
    exact ⟨not_lt.mpr positive, not_not.mpr whole, not_lt.mpr least, not_lt.mpr most,
      not_lt.mpr left⟩
  rw [loadTokens, found]
  dsimp only
  rw [shape]
  dsimp only
  rw [if_neg sane]

/-! ## Runs -/

section Sound

variable {policy : Policy} (valid : policy.Valid) {round : ℚ → ℚ} (rounds : Rounding round)
variable {keys : Keyspace} {now later : Nat}

/-- Every entry has the form that the script writes, and no more time left than it gives. -/
def Sound (policy : Policy) (round : ℚ → ℚ) (keys : Keyspace) (now : Nat) : Prop :=
  ∀ key entry, keys key = some entry →
    entry.expireAt ≤ now + (ttlBase (policy.fillTime round)).toNat ∧
      ∃ tokens, entry.value = policy.entry round tokens ∧ 0 ≤ tokens

theorem Sound.at_later (sound : Sound policy round keys now) (ordered : now ≤ later) :
    Sound policy round keys later := by
  intro key entry found
  obtain ⟨expires, shape⟩ := sound key entry found
  exact ⟨by omega, shape⟩

theorem sound_empty : Sound policy round (fun _ => none) now := by
  intro key entry found
  cases found

include rounds in
theorem refill_nonneg {capacity rate tokens elapsed : ℚ} (capacityPositive : 0 ≤ capacity)
    (ratePositive : 0 ≤ rate) (tokensPositive : 0 ≤ tokens) (elapsedPositive : 0 ≤ elapsed) :
    0 ≤ refill round capacity rate tokens elapsed := by
  have flow := rounds.nonneg (mul_nonneg elapsedPositive ratePositive)
  have flow := rounds.nonneg (div_nonneg flow (by norm_num : (0 : ℚ) ≤ 1000))
  exact le_min capacityPositive (rounds.nonneg (add_nonneg tokensPositive flow))

theorem clipElapsed_nonneg {elapsed fill : ℚ} (positive : 0 ≤ fill) :
    0 ≤ clipElapsed elapsed fill := by
  unfold clipElapsed
  dsimp only
  split_ifs with negative long long
  · exact positive
  · exact le_refl 0
  · exact positive
  · exact not_lt.mp negative

include valid rounds in
/-- What the script wrote passes its checks. -/
theorem Sound.loadTokens (sound : Sound policy round keys now) (key : String) :
    ∃ tokens, loadTokens round policy.capacityMilli policy.rateMilli keys now key = .ok tokens ∧
      0 ≤ tokens := by
  have capacity : (0 : ℚ) ≤ policy.capacityMilli := by
    have := (Policy.capacity_bounds valid).1
    linarith
  have rate : (0 : ℚ) ≤ policy.rateMilli := by
    have := (Policy.rate_bounds valid).1
    linarith
  have base := Policy.ttlBase_fill valid rounds
  have fill := Policy.fill_bounds valid rounds
  cases found : keys.get now key with
  | none =>
      refine ⟨_, ?_, refill_nonneg rounds capacity rate capacity (le_refl 0)⟩
      rw [Admission.loadTokens, found]
  | some entry =>
      obtain ⟨stored, live⟩ := Option.filter_eq_some_iff.mp found
      obtain ⟨expires, tokens, shape, positive⟩ := sound key entry stored
      refine ⟨_, loadTokens_found found shape positive ?_ ?_ ?_ ?_, ?_⟩
      · rw [Int.floor_intCast]
      · have : 1000 ≤ ttlBase (policy.fillTime round) := by omega
        exact_mod_cast this
      · have : ttlBase (policy.fillTime round) ≤ 86400000 := by omega
        exact_mod_cast this
      · have left : ((Keyspace.pttl now entry : ℕ) : ℤ) ≤ ttlBase (policy.fillTime round) := by
          unfold Keyspace.pttl
          omega
        exact_mod_cast left
      · refine refill_nonneg rounds capacity rate (le_min capacity positive) ?_
        refine clipElapsed_nonneg ?_
        exact_mod_cast fill.1

include valid rounds in
/-- The wait is positive and within the range that `Admit` takes. -/
theorem Policy.retry_bounds {tokens : ℚ} (positive : 0 ≤ tokens) (short : ¬ tokens ≥ 1000) :
    1 ≤ policy.retry round tokens ∧ policy.retry round tokens ≤ maximumBucketTTL := by
  have rate := (Policy.rate_bounds valid).1
  refine ⟨le_max_left _ _, max_le (by decide) (Int.ceil_le.mpr ?_)⟩
  have missing : round (1000 - tokens) ≤ (1000 : ℕ) :=
    rounds.at_most (by linarith) (by push_cast; linarith) (by norm_num)
  have nonneg := rounds.nonneg (show 0 ≤ 1000 - tokens by linarith)
  have scaled : round (round (1000 - tokens) * 1000) ≤ (1000000 : ℕ) :=
    rounds.at_most (by positivity) (by push_cast at missing ⊢; linarith) (by norm_num)
  have nonneg := rounds.nonneg (show 0 ≤ round (1000 - tokens) * 1000 by positivity)
  have waited : round (round (round (1000 - tokens) * 1000) / policy.rateMilli) ≤
      (1000000 : ℕ) := by
    refine rounds.at_most (div_nonneg nonneg (by linarith)) ?_ (by norm_num)
    rw [div_le_iff₀ (by linarith)]
    push_cast at scaled ⊢
    linarith
  have range : ((maximumBucketTTL : ℤ) : ℚ) = 86400000 := by norm_num [maximumBucketTTL]
  rw [range]
  push_cast at waited
  linarith

/-- A reply in the range that `Admit` takes. -/
def InRange (reply : Except String (Int × Int)) : Prop :=
  ∃ allowed retry, reply = .ok (allowed, retry) ∧ acceptsReply [allowed, retry] = true

theorem inRange_allowed : InRange (.ok (1, 0)) := ⟨1, 0, rfl, by decide⟩

theorem inRange_limited {retry : Int} (bounds : 1 ≤ retry ∧ retry ≤ maximumBucketTTL) :
    InRange (.ok (0, retry)) := by
  refine ⟨0, retry, rfl, ?_⟩
  unfold acceptsReply
  simp [show 0 ≤ retry by omega, bounds.2]

include valid rounds in
/-- One request is answered in range, and leaves sound entries. -/
theorem Sound.serve {asking : Asking} (sound : Sound policy round keys asking.now) :
    InRange (policy.serve round keys asking).1 ∧
      Sound policy round (policy.serve round keys asking).2 asking.now := by
  obtain ⟨tokens, loaded, positive⟩ := sound.loadTokens valid rounds asking.key
  rw [Policy.serve_eq valid rounds, loaded]
  dsimp only
  split
  · next covered =>
    refine ⟨inRange_allowed, fun key entry found => ?_⟩
    by_cases here : key = asking.key
    · subst here
      simp only [Keyspace.set, Function.update_self] at found
      cases found
      exact ⟨le_refl _, _, rfl, rounds.nonneg (by linarith)⟩
    · simp only [Keyspace.set, Function.update_of_ne here] at found
      exact sound key entry found
  · next short => exact ⟨inRange_limited (Policy.retry_bounds valid rounds positive short), sound⟩

/-- Requests at instants that do not fall, from one on. -/
def Ordered (now : Nat) (requests : List Asking) : Prop :=
  (∀ asking ∈ requests, now ≤ asking.now) ∧
    requests.Pairwise fun earlier later => earlier.now ≤ later.now

theorem Ordered.cons {asking : Asking} {rest : List Asking} (ordered : Ordered now (asking :: rest)) :
    now ≤ asking.now ∧ Ordered asking.now rest := by
  obtain ⟨past, sorted⟩ := ordered
  rw [List.pairwise_cons] at sorted
  exact ⟨past asking List.mem_cons_self, sorted.1, sorted.2⟩

theorem Ordered.start {requests : List Asking}
    (sorted : requests.Pairwise fun earlier later => earlier.now ≤ later.now) :
    Ordered 0 requests :=
  ⟨fun _ _ => Nat.zero_le _, sorted⟩

include valid rounds in
/-- Every request of a run is answered in range. -/
theorem Sound.serveAll {requests : List Asking} (sound : Sound policy round keys now)
    (ordered : Ordered now requests) :
    ∀ reply ∈ (policy.serveAll round keys requests).1, InRange reply := by
  induction requests generalizing keys now with
  | nil =>
      intro reply listed
      cases listed
  | cons asking rest ih =>
      obtain ⟨past, ordered⟩ := ordered.cons
      obtain ⟨answered, sound⟩ := (sound.at_later past).serve valid rounds
      intro reply listed
      rcases List.mem_cons.mp listed with rfl | listed
      · exact answered
      · exact ih sound ordered reply listed

end Sound

end SlotsGame.Admission
