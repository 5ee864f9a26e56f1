/-
# SlotsGame.Rgs.Custody -- what a step about one round leaves alone

`Custody` is what a store has of its sessions and rounds, whatever its rows look
like, and `Undisturbed` is the frame of a step about one round.  `Standing` is the
little of a session and one of its rounds that two stores can be compared by.

The reference store points a session at the round it marks.  That is no change
for the round the session waits for; `disturbed_iff` says when it is one.
-/
import SlotsGame.Rgs.MemoryRepository

namespace SlotsGame.Rgs

open SlotsGame.Theory

set_option autoImplicit false

/-! ## The frame of a step -/

/-- The pending round of each session, each round, and the ledger entries of each
round. -/
structure Custody (ρ ι τ : Type) where
  pending : SessionKey → Option String
  round : RoundKey → Option ρ
  entries : RoundKey → Set (ι × τ)

/-- A step about the round `key` that leaves every other round alone, and every
session where it points. -/
structure Custody.Undisturbed {ρ ι τ : Type} (before : Custody ρ ι τ) (key : RoundKey)
    (after : Custody ρ ι τ) : Prop where
  pending : ∀ session, after.pending session = before.pending session
  rounds : ∀ other, other ≠ key → after.round other = before.round other
  entries : ∀ other, other ≠ key → after.entries other = before.entries other

theorem Custody.undisturbed {ρ ι τ : Type} (custody : Custody ρ ι τ) (key : RoundKey) :
    custody.Undisturbed key custody :=
  ⟨fun _ => rfl, fun _ _ => rfl, fun _ _ => rfl⟩

/-- Where a session and one of its rounds stand. -/
structure Standing where
  session : SessionStatus
  pending : String
  round : RoundStatus
  deriving DecidableEq

/-- The session waits for the round. -/
def Custody.PointsAt {ρ ι τ : Type} (custody : Custody ρ ι τ) (key : RoundKey) : Prop :=
  custody.pending key.session = some key.roundID

/-! ## The reference store -/

def MemoryRepository.custody (repository : MemoryRepository) :
    Custody RoundRecord String MemoryWalletTransaction where
  pending session :=
    (repository.sessions.lookup session).map fun entry => entry.session.pendingRoundID
  round key :=
    (repository.sessions.lookup key.session).bind fun entry => entry.rounds.lookup key.roundID
  entries key :=
    { booked | ∃ entry, repository.sessions.lookup key.session = some entry ∧
        entry.walletTransactions.lookup booked.1 = some booked.2 ∧
        booked.2.command.roundID = key.roundID }

def MemoryRepository.standing (repository : MemoryRepository) (key : RoundKey) :
    Option Standing := do
  let entry ← repository.sessions.lookup key.session
  let record ← entry.rounds.lookup key.roundID
  return { session := entry.session.status, pending := entry.session.pendingRoundID
           round := record.status }

variable {repository : MemoryRepository} {key : RoundKey} {entry : MemorySession}

theorem MemoryRepository.standing_eq_some {standing : Standing} :
    repository.standing key = some standing ↔
      ∃ entry record, repository.sessions.lookup key.session = some entry ∧
        entry.rounds.lookup key.roundID = some record ∧
        standing = ⟨entry.session.status, entry.session.pendingRoundID, record.status⟩ := by
  simp only [MemoryRepository.standing, Option.bind_eq_bind, Option.bind_eq_some_iff, Option.pure_def,
    Option.some.injEq]
  constructor
  · rintro ⟨entry, there, record, found, rfl⟩
    exact ⟨entry, record, there, found, rfl⟩
  · rintro ⟨entry, record, there, found, rfl⟩
    exact ⟨entry, there, record, found, rfl⟩

/-- A round in one of these statuses is not marked again. -/
def Settled (status : RoundStatus) : Prop :=
  status = .committed ∨ status = .manualReview

/-- The repository after `MarkManualReview`. -/
def MemoryRepository.reviewed (repository : MemoryRepository) (key : RoundKey) (reason : Bytes)
    (now : Time) : MemoryRepository :=
  (repository.onSession key.session fun entry => entry.markManualReview key.roundID reason now).2

/-- The session's entry after a round is marked. -/
def MemorySession.isolated (entry : MemorySession) (id : String) (record : RoundRecord)
    (reason : Bytes) (now : Time) : MemorySession :=
  (({ entry with rounds := entry.rounds.insert id (reviewedRecord record .manualReview reason now) }
    : MemorySession).block id).doubtTransactions id

theorem MemorySession.markManualReview_ok {id : String} {reason : Bytes} {now : Time}
    {reply : RoundRecord × Bool} {after : MemorySession} :
    entry.markManualReview id reason now = .ok (reply, after) ↔
      ∃ record, entry.rounds.lookup id = some record ∧ record.status ≠ .committed ∧
        if record.status = .manualReview then reply = (record, false) ∧ after = entry
        else reply = (reviewedRecord record .manualReview reason now, true) ∧
          after = entry.isolated id record reason now := by
  simp only [MemorySession.markManualReview, bind_ok, require_ok, abortWhen_ok, exists_unit]
  refine exists_congr fun record => and_congr_right fun _ => and_congr_right fun _ => ?_
  split
  · simp only [pure_ok, Prod.mk.injEq]
    constructor <;> rintro ⟨rfl, rfl⟩ <;> exact ⟨rfl, rfl⟩
  · simp only [pure_ok, Prod.mk.injEq]
    constructor <;> rintro ⟨rfl, rfl⟩ <;> exact ⟨rfl, rfl⟩

/-- A round that may be marked is put in review, and its session points at it. -/
theorem MemoryRepository.reviewed_cases (repository : MemoryRepository) (key : RoundKey)
    (reason : Bytes) (now : Time) :
    ((∀ standing, repository.standing key = some standing → Settled standing.round) ∧
        ∀ other, (repository.reviewed key reason now).sessions.lookup other =
          repository.sessions.lookup other) ∨
      ∃ entry record, repository.sessions.lookup key.session = some entry ∧
        entry.rounds.lookup key.roundID = some record ∧ ¬ Settled record.status ∧
        repository.reviewed key reason now =
          { sessions := repository.sessions.insert key.session
              (entry.isolated key.roundID record reason now) } := by
  unfold MemoryRepository.reviewed MemoryRepository.onSession
  cases there : repository.sessions.lookup key.session with
  | none =>
      refine .inl ⟨fun standing stands => ?_, fun _ => rfl⟩
      obtain ⟨entry, _, found, _⟩ := standing_eq_some.mp stands
      rw [there] at found
      cases found
  | some entry =>
      dsimp only
      rcases ran : settle entry (entry.markManualReview key.roundID reason now) with ⟨reply, after⟩
      have unchanged (other : SessionKey) :
          (repository.sessions.insert key.session entry).lookup other =
            repository.sessions.lookup other := by
        rw [Table.lookup_insert]
        split
        · next this => rw [this, there]
        · rfl
      have stands {standing : Standing} (stood : repository.standing key = some standing) :
          ∃ record, entry.rounds.lookup key.roundID = some record ∧
            standing.round = record.status := by
        obtain ⟨entry', record, there', found, rfl⟩ := standing_eq_some.mp stood
        rw [there, Option.some.injEq] at there'
        subst there'
        exact ⟨record, found, rfl⟩
      rcases settle_cases ran with ⟨answer, done, _⟩ | ⟨error, stopped, _, kept⟩ |
        ⟨error, left, _⟩
      · obtain ⟨record, found, uncommitted, done⟩ := MemorySession.markManualReview_ok.mp done
        split at done
        · next review =>
          rw [done.2]
          refine .inl ⟨fun standing found' => ?_, unchanged⟩
          obtain ⟨record', same, status⟩ := stands found'
          rw [found, Option.some.injEq] at same
          rw [status, ← same]
          exact .inr review
        · next review =>
          rw [done.2]
          refine .inr ⟨entry, record, rfl, found, ?_, rfl⟩
          rintro (committed | reviewed)
          · exact uncommitted committed
          · exact review reviewed
      · rw [kept]
        refine .inl ⟨fun standing found => ?_, unchanged⟩
        obtain ⟨record, found, status⟩ := stands found
        rw [status]
        by_contra open_
        -- a round that may be marked is marked
        have done := (@MemorySession.markManualReview_ok entry key.roundID reason now _ _).mpr
          ⟨record, found, fun committed => open_ (.inl committed),
            (if_neg fun review => open_ (.inr review)).mpr ⟨rfl, rfl⟩⟩
        rw [stopped] at done
        cases done
      · have never : Atomic (entry.markManualReview key.roundID reason now) := by
          unfold MemorySession.markManualReview
          refine Atomic.bind (Atomic.require _ _) fun record => ?_
          refine Atomic.bind (Atomic.abortWhen _ _) fun _ => ?_
          split
          · exact Atomic.pure _
          · exact Atomic.pure _
        exact absurd left (never error after)

theorem MemorySession.isolated_entry (entry : MemorySession) (id : String) (record : RoundRecord)
    (reason : Bytes) (now : Time) :
    (entry.isolated id record reason now).session =
        { entry.session with status := .blocked, pendingRoundID := id } ∧
      (entry.isolated id record reason now).rounds =
        entry.rounds.insert id (reviewedRecord record .manualReview reason now) :=
  ⟨rfl, rfl⟩

/-- The reference store leaves other rounds alone, if the round it marks is the one its
session waits for, or is not marked at all. -/
theorem MemoryRepository.undisturbed_iff (repository : MemoryRepository) (key : RoundKey)
    (reason : Bytes) (now : Time) :
    (¬ repository.custody.PointsAt key →
        repository.custody.Undisturbed key (repository.reviewed key reason now).custody) ↔
      ∀ standing, repository.standing key = some standing →
        standing.pending = key.roundID ∨ Settled standing.round := by
  rcases repository.reviewed_cases key reason now with ⟨settled, same⟩ |
    ⟨entry, record, there, found, open_, same⟩
  · refine iff_of_true (fun _ => ?_) fun standing stands => .inr (settled standing stands)
    have custody : (repository.reviewed key reason now).custody = repository.custody := by
      simp only [MemoryRepository.custody, same]
    rw [custody]
    exact repository.custody.undisturbed key
  · have stands : repository.standing key =
        some ⟨entry.session.status, entry.session.pendingRoundID, record.status⟩ :=
      standing_eq_some.mpr ⟨entry, record, there, found, rfl⟩
    have points : repository.custody.PointsAt key ↔ entry.session.pendingRoundID = key.roundID := by
      simp [Custody.PointsAt, custody, there]
    rw [same, points]
    constructor
    · intro undisturbed standing found
      rw [stands, Option.some.injEq] at found
      subst found
      refine .inl ?_
      by_contra apart
      -- the session points at the round now
      have moved := (undisturbed apart).pending key.session
      simp only [custody, Table.lookup_insert, if_true, there, Option.map_some,
        Option.some.injEq] at moved
      exact apart moved.symm
    · intro waits apart
      rcases waits _ stands with pending | settled
      · exact absurd pending apart
      · exact absurd settled open_

end SlotsGame.Rgs
