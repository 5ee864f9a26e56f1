/-
# SlotsGame.Rng.Source -- random integers from random bytes

`CryptoSource` reads eight bytes at a time and rejects the lowest draws, so many that the rest
are a multiple of the bound.  The arithmetic is that of `uint64`, which wraps around; a
reader is the bytes that it still has to give, after which it fails.
-/
import Mathlib.Tactic.Linarith
import SlotsGame.Game.Random
import SlotsGame.Theory.Rejection

namespace SlotsGame.Rng

open SlotsGame.Game SlotsGame.Theory Rejection

set_option autoImplicit false

/-- `rng.CryptoSource`; a source without a reader has none. -/
structure CryptoSource where
  reader : Option (List UInt8)
  deriving DecidableEq

/-- `binary.BigEndian.Uint64` -/
def bigEndianUint64 (raw : List UInt8) : UInt64 :=
  raw.foldl (fun value byte => value * 256 + byte.toUInt64) 0

/-- The draws that are rejected are those below it. -/
def threshold (bound : UInt64) : UInt64 := -bound % bound

/-- The loop of `Intn`. -/
def draw (bound : UInt64) : List UInt8 → Except String (Int64 × List UInt8)
  | b₀ :: b₁ :: b₂ :: b₃ :: b₄ :: b₅ :: b₆ :: b₇ :: rest =>
      let value := bigEndianUint64 [b₀, b₁, b₂, b₃, b₄, b₅, b₆, b₇]
      if value ≥ threshold bound then .ok ((value % bound).toInt64, rest) else draw bound rest
  | [] => .error "rng: read entropy: EOF"
  | _ => .error "rng: read entropy: unexpected EOF"

/-- `CryptoSource.Intn` -/
def CryptoSource.intn (n : Int64) (source : CryptoSource) : Except String (Int64 × CryptoSource) :=
  if n ≤ 0 then .error s!"rng: n must be positive: {n}"
  else
    match source.reader with
    | none => .error "rng: crypto source has no reader"
    | some reader => do
        let (value, rest) ← draw n.toUInt64 reader
        return (value, { reader := some rest })

/-! ## The threshold -/

/-- A positive `int`, as a `uint64`. -/
theorem positive_bound {n : Int64} (positive : 0 < n) :
    n.toUInt64.toNat = n.toInt.toNat ∧ 0 < n.toInt.toNat ∧ n.toInt.toNat < 2 ^ 63 := by
  have least : (0 : Int64) ≤ n := Int64.le_of_lt positive
  have known : (n.toInt.toNat : Int) = n.toInt := Int64.cast_toNatClampNeg n least
  have positive : 0 < n.toInt := Int64.lt_iff_toInt_lt.mp positive
  refine ⟨Int64.toNat_toUInt64_of_le least, by omega, Int64.toNatClampNeg_lt n⟩

theorem threshold_toNat {bound : UInt64} (positive : 0 < bound.toNat) :
    (threshold bound).toNat = 2 ^ 64 % bound.toNat := by
  have size : UInt64.size = 2 ^ 64 := rfl
  have below : bound.toNat < 2 ^ 64 := bound.toNat_lt
  have wrapped : (-bound).toNat = 2 ^ 64 - bound.toNat := by
    rw [UInt64.toNat_neg, size]
    omega
  rw [threshold, UInt64.toNat_mod, wrapped]
  exact (Nat.mod_eq_sub_mod below.le).symm

/-! ## Draws -/

/-- The eight bytes of a draw, the most significant one first. -/
def drawBytes (value : Nat) : List UInt8 :=
  [value / 2 ^ 56, value / 2 ^ 48, value / 2 ^ 40, value / 2 ^ 32, value / 2 ^ 24, value / 2 ^ 16,
    value / 2 ^ 8, value].map UInt8.ofNat

theorem bigEndianUint64_drawBytes {value : Nat} (fits : value < 2 ^ 64) :
    (bigEndianUint64 (drawBytes value)).toNat = value := by
  simp only [bigEndianUint64, drawBytes, List.map_cons, List.map_nil, List.foldl_cons,
    List.foldl_nil, UInt64.toNat_add, UInt64.toNat_mul, UInt8.toNat_toUInt64, UInt8.toNat_ofNat',
    UInt64.toNat_ofNat]
  omega

/-- What the loop does with a draw: its outcome, if it is accepted. -/
def outcome (n : Int64) (value : Nat) : Option Int64 :=
  if threshold n.toUInt64 ≤ UInt64.ofNat value then
    some (UInt64.ofNat value % n.toUInt64).toInt64
  else none

theorem draw_drawBytes (n : Int64) {value : Nat} (fits : value < 2 ^ 64) (rest : List UInt8) :
    draw n.toUInt64 (drawBytes value ++ rest) =
      match outcome n value with
      | some result => .ok (result, rest)
      | none => draw n.toUInt64 rest := by
  have word : bigEndianUint64 (drawBytes value) = UInt64.ofNat value := by
    apply UInt64.toNat.inj
    rw [bigEndianUint64_drawBytes fits, UInt64.toNat_ofNat_of_lt' fits]
  unfold outcome
  rw [← word]
  unfold drawBytes at word ⊢
  simp only [List.map_cons, List.map_nil, List.cons_append, List.nil_append]
  rw [draw]
  split <;> rfl

/-- The loop takes the outcome of the first draw that is accepted. -/
theorem draw_draws (n : Int64) {values : List Nat} (fits : ∀ value ∈ values, value < 2 ^ 64) :
    draw n.toUInt64 (values.flatMap drawBytes) =
      match sample (outcome n) values with
      | some (result, rest) => .ok (result, rest.flatMap drawBytes)
      | none => .error "rng: read entropy: EOF" := by
  induction values with
  | nil => rfl
  | cons value rest ih =>
      obtain ⟨here, later⟩ := List.forall_mem_cons.mp fits
      rw [List.flatMap_cons, draw_drawBytes n here, sample]
      cases outcome n value with
      | some result => rfl
      | none => exact ih later

theorem intn_positive {n : Int64} (positive : 0 < n) (reader : List UInt8) :
    CryptoSource.intn n { reader := some reader } =
      (draw n.toUInt64 reader).map fun result => (result.1, { reader := some result.2 }) := by
  rw [CryptoSource.intn, if_neg (Int64.not_le.mpr positive)]
  dsimp only
  cases draw n.toUInt64 reader <;> rfl

/-! ## No residue is preferred -/

/-- A draw is accepted from `2 ^ 64` modulo the bound on, with its residue. -/
theorem outcome_eq {n : Int64} (positive : 0 < n) {value : Nat} (fits : value < 2 ^ 64) :
    outcome n value =
      if 2 ^ 64 % n.toInt.toNat ≤ value then some (Int64.ofNat (value % n.toInt.toNat)) else none := by
  obtain ⟨bound, positive, _⟩ := positive_bound positive
  have word : (UInt64.ofNat value).toNat = value := UInt64.toNat_ofNat_of_lt' fits
  have least : threshold n.toUInt64 ≤ UInt64.ofNat value ↔ 2 ^ 64 % n.toInt.toNat ≤ value := by
    rw [UInt64.le_iff_toNat_le, threshold_toNat (by omega), bound, word]
  have residue : (UInt64.ofNat value % n.toUInt64).toInt64 =
      Int64.ofNat (value % n.toInt.toNat) := by
    rw [← UInt64.ofNat_toNat (x := UInt64.ofNat value % n.toUInt64), UInt64.toInt64_ofNat',
      UInt64.toNat_mod, word, bound]
  rw [outcome, residue]
  exact if_congr least rfl rfl

theorem ofNat_inj {left right : Nat} (leftFits : left < 2 ^ 63) (rightFits : right < 2 ^ 63) :
    Int64.ofNat left = Int64.ofNat right ↔ left = right := by
  constructor
  · intro same
    have values := congrArg Int64.toInt same
    rw [Int64.toInt_ofNat_of_lt leftFits, Int64.toInt_ofNat_of_lt rightFits] at values
    exact Int.ofNat.inj values
  · rintro rfl
    rfl

/-- Every draw there is. -/
def draws : Finset Nat := Finset.range (2 ^ 64)

theorem outcome_card {n : Int64} (positive : 0 < n) {residue : Nat}
    (inside : residue < n.toInt.toNat) :
    (draws.filter fun value => outcome n value = some (Int64.ofNat residue)).card =
      2 ^ 64 / n.toInt.toNat := by
  obtain ⟨_, bound, fits⟩ := positive_bound positive
  rw [← accepted_card inside]
  refine congrArg Finset.card (Finset.filter_congr fun value member => ?_)
  rw [outcome_eq positive (Finset.mem_range.mp member)]
  have below : value % n.toInt.toNat < 2 ^ 63 := Nat.lt_trans (Nat.mod_lt value bound) fits
  split
  next accepted =>
    rw [Option.some.injEq, ofNat_inj below (Nat.lt_trans inside fits)]
    exact (and_iff_right accepted).symm
  next rejected => simp only [reduceCtorEq, rejected, false_and]

theorem rejected_card {n : Int64} (positive : 0 < n) :
    (draws.filter fun value => outcome n value = none).card = 2 ^ 64 % n.toInt.toNat := by
  obtain ⟨_, bound, _⟩ := positive_bound positive
  have few : 2 ^ 64 % n.toInt.toNat ≤ 2 ^ 64 := Nat.mod_le _ _
  have rejected : (draws.filter fun value => outcome n value = none) =
      Finset.range (2 ^ 64 % n.toInt.toNat) := by
    ext value
    rw [Finset.mem_filter, draws, Finset.mem_range, Finset.mem_range]
    constructor
    · rintro ⟨fits, rejected⟩
      rw [outcome_eq positive fits] at rejected
      by_contra accepted
      rw [if_pos (Nat.le_of_not_lt accepted)] at rejected
      cases rejected
    · intro below
      have fits : value < 2 ^ 64 := Nat.lt_of_lt_of_le below few
      rw [outcome_eq positive fits, if_neg (Nat.not_le.mpr below)]
      exact ⟨fits, rfl⟩
  rw [rejected, Finset.card_range]

/-- **No residue is preferred.**  The threshold is `2 ^ 64` modulo the bound; `Intn` takes a draw
from there on with its residue and reads on after any other; equally many draws are taken with
each residue, and equally many sequences of draws, whatever their length, end in it. -/
theorem intn_unbiased {n : Int64} (positive : 0 < n) :
    (threshold n.toUInt64).toNat = 2 ^ 64 % n.toInt.toNat ∧
    (∀ value < 2 ^ 64, ∀ rest,
      CryptoSource.intn n { reader := some (drawBytes value ++ rest) } =
        if 2 ^ 64 % n.toInt.toNat ≤ value then
          .ok (Int64.ofNat (value % n.toInt.toNat), { reader := some rest })
        else CryptoSource.intn n { reader := some rest }) ∧
    (∀ residue < n.toInt.toNat,
      (draws.filter fun value =>
        2 ^ 64 % n.toInt.toNat ≤ value ∧ value % n.toInt.toNat = residue).card =
          2 ^ 64 / n.toInt.toNat) ∧
    ∀ rejected, ∀ residue < n.toInt.toNat,
      ((Fintype.piFinset fun _ : Fin (rejected + 1) => draws).filter fun values =>
        CryptoSource.intn n { reader := some ((List.ofFn values).flatMap drawBytes) } =
          .ok (Int64.ofNat residue, { reader := some [] })).card =
        (2 ^ 64 % n.toInt.toNat) ^ rejected * (2 ^ 64 / n.toInt.toNat) := by
  obtain ⟨bound, least, _⟩ := positive_bound positive
  refine ⟨?_, ?_, fun residue inside => accepted_card inside, ?_⟩
  · rw [threshold_toNat (by omega), bound]
  · intro value fits rest
    rw [intn_positive positive, intn_positive positive, draw_drawBytes n fits,
      outcome_eq positive fits]
    by_cases accepted : 2 ^ 64 % n.toInt.toNat ≤ value
    · rw [if_pos accepted, if_pos accepted]
      rfl
    · rw [if_neg accepted, if_neg accepted]
  · intro rejected residue inside
    rw [← rejected_card positive, ← outcome_card positive inside, ← sample_card]
    refine congrArg Finset.card (Finset.filter_congr fun values member => ?_)
    have fits : ∀ value ∈ List.ofFn values, value < 2 ^ 64 := by
      intro value found
      obtain ⟨place, rfl⟩ := List.mem_ofFn.mp found
      exact Finset.mem_range.mp (Fintype.mem_piFinset.mp member place)
    rw [intn_positive positive, draw_draws n fits]
    cases sample (outcome n) (List.ofFn values) with
    | none => simp [Except.map]
    | some taken =>
        obtain ⟨result, rest⟩ := taken
        -- a draw that is left over leaves bytes
        cases rest with
        | nil => simp [Except.map]
        | cons value rest => simp [Except.map, drawBytes]

theorem six_unbiased : (threshold 6).toNat = 4 := (intn_unbiased (n := 6) (by decide)).1

/-! ## The source of the engine -/

/-- `CryptoSource`, as a source of the engine, which asks for an `int`. -/
def cryptoSource : Source CryptoSource where
  intn n source :=
    if n ≤ maxInt64 then
      (CryptoSource.intn (Int64.ofInt n) source).map fun result => (result.1.toInt, result.2)
    else .error "int out of range"

theorem draw_bounds {n : Int64} (positive : 0 < n) {reader rest : List UInt8} {result : Int64}
    (drawn : draw n.toUInt64 reader = .ok (result, rest)) :
    0 ≤ result.toInt ∧ result.toInt < n.toInt := by
  obtain ⟨bound, least, fits⟩ := positive_bound positive
  induction reader using draw.induct n.toUInt64 with
  | case1 b₀ b₁ b₂ b₃ b₄ b₅ b₆ b₇ later value accepted =>
      rw [draw, if_pos accepted] at drawn
      obtain ⟨rfl, _⟩ := Prod.mk.inj (Except.ok.inj drawn)
      have below : (value % n.toUInt64).toNat < n.toInt.toNat := by
        rw [UInt64.toNat_mod, bound]
        exact Nat.mod_lt _ least
      rw [← UInt64.ofNat_toNat (x := value % n.toUInt64), UInt64.toInt64_ofNat',
        Int64.toInt_ofNat_of_lt (by omega)]
      omega
  | case2 b₀ b₁ b₂ b₃ b₄ b₅ b₆ b₇ later value rejected ih =>
      rw [draw, if_neg rejected] at drawn
      exact ih drawn
  | case3 =>
      rw [draw] at drawn
      cases drawn
  | case4 reader short =>
      rw [draw] at drawn
      · cases drawn
      · exact short
      · assumption

/-- What the engine needs of its source holds of this one. -/
theorem cryptoSource_lawful : cryptoSource.Lawful False := by
  intro n positive source
  dsimp only [cryptoSource]
  by_cases fits : n ≤ maxInt64
  · rw [if_pos fits]
    have most : n < 2 ^ 63 := Int.lt_of_le_of_lt fits (by decide)
    have value : (Int64.ofInt n).toInt = n := Int64.toInt_ofInt_of_le (by omega) most
    have above : 0 < Int64.ofInt n := by
      rw [Int64.lt_iff_toInt_lt, value]
      exact positive
    obtain ⟨reader⟩ := source
    cases reader with
    | none =>
        rw [CryptoSource.intn, if_neg (Int64.not_le.mpr above)]
        exact not_false
    | some reader =>
        rw [intn_positive above]
        cases drawn : draw (Int64.ofInt n).toUInt64 reader with
        | error => exact not_false
        | ok result =>
            obtain ⟨least, most⟩ := draw_bounds above drawn
            rw [value] at most
            exact ⟨least, most⟩
  · rw [if_neg fits]
    exact not_false

end SlotsGame.Rng
