/-
# SlotsGame.Theory.Utf8 -- texts that need not be texts

A string of bytes is read rune by rune; a byte that begins no rune is one of its own,
which stands for nothing (`none`).  Texts are read back as they were encoded
(`runes_encode`), and only texts are (`encode_replaced`): what cannot be read is replaced.
-/
import Mathlib.Data.List.Basic
import Mathlib.Data.String.Basic

namespace SlotsGame.Theory

set_option autoImplicit false

/-- The bytes of a text. -/
def encodeUtf8 (text : List Char) : List UInt8 := text.flatMap String.utf8EncodeChar

/-- The runes of a string of bytes; the first `skip` bytes belong to a rune already read. -/
def runesFrom : Nat → List UInt8 → List (Option Char)
  | _, [] => []
  | skip + 1, _ :: rest => runesFrom skip rest
  | 0, byte :: rest =>
      match (byte :: rest).toByteArray.utf8DecodeChar? 0 with
      | some c => some c :: runesFrom (c.utf8Size - 1) rest
      | none => none :: runesFrom 0 rest

def runes (bytes : List UInt8) : List (Option Char) := runesFrom 0 bytes

/-- `utf8.RuneError` -/
def replacement : Char := '\uFFFD'

/-- A string of bytes as a text. -/
def replaced (bytes : List UInt8) : List Char := (runes bytes).map fun rune => rune.getD replacement

/-- `utf8.Valid` -/
def ValidUtf8 (bytes : List UInt8) : Prop := ∀ rune ∈ runes bytes, rune ≠ none

instance (bytes : List UInt8) : Decidable (ValidUtf8 bytes) :=
  inferInstanceAs (Decidable (∀ rune ∈ runes bytes, rune ≠ none))

theorem runesFrom_drop (skip : Nat) (bytes : List UInt8) :
    runesFrom skip bytes = runes (bytes.drop skip) := by
  induction bytes generalizing skip with
  | nil => rw [List.drop_nil, runes, runesFrom, runesFrom]
  | cons byte rest ih =>
      cases skip with
      | zero => rfl
      | succ skip => rw [runesFrom, ih, List.drop_succ_cons]

/-- The rune that a string of bytes begins with. -/
theorem runes_rune (c : Char) (rest : List UInt8) :
    runes (String.utf8EncodeChar c ++ rest) = some c :: runes rest := by
  have size : (String.utf8EncodeChar c).length = c.utf8Size := String.length_utf8EncodeChar c
  have read : (String.utf8EncodeChar c ++ rest).toByteArray.utf8DecodeChar? 0 = some c := by
    rw [List.toByteArray_append]
    exact ByteArray.utf8DecodeChar?_utf8EncodeChar_append
  cases encoded : String.utf8EncodeChar c with
  | nil =>
      rw [encoded] at size
      exact absurd size.symm (Nat.ne_of_gt c.utf8Size_pos)
  | cons byte later =>
      rw [encoded, List.cons_append] at read
      rw [encoded, List.length_cons] at size
      rw [List.cons_append, runes, runesFrom, read]
      dsimp only
      rw [runesFrom_drop, ← size, Nat.add_sub_cancel, List.drop_left]

/-- A text is read as it was encoded. -/
theorem runes_encode (text : List Char) : runes (encodeUtf8 text) = text.map some := by
  induction text with
  | nil => rfl
  | cons c rest ih =>
      rw [encodeUtf8, List.flatMap_cons, runes_rune, List.map_cons]
      exact congrArg (some c :: ·) ih

theorem replaced_encode (text : List Char) : replaced (encodeUtf8 text) = text := by
  rw [replaced, runes_encode, List.map_map]
  exact List.map_id text

theorem encodeUtf8_append (left right : List Char) :
    encodeUtf8 (left ++ right) = encodeUtf8 left ++ encodeUtf8 right := List.flatMap_append

theorem encodeUtf8_valid (text : List Char) : ValidUtf8 (encodeUtf8 text) := by
  intro rune member
  rw [runes_encode] at member
  obtain ⟨c, _, rfl⟩ := List.mem_map.mp member
  exact Option.some_ne_none c

/-- What begins with a rune begins with its bytes. -/
theorem decoded_rune {bytes : List UInt8} {c : Char}
    (read : bytes.toByteArray.utf8DecodeChar? 0 = some c) :
    ∃ rest, bytes = String.utf8EncodeChar c ++ rest := by
  obtain ⟨rest, same⟩ := ByteArray.exists_of_utf8DecodeChar?_eq_some read
  refine ⟨rest.data.toList, ?_⟩
  have lists := congrArg (fun bytes => bytes.data.toList) same
  simpa using lists

/-- Reading and encoding again changes exactly what is not a text. -/
theorem encode_replaced {bytes : List UInt8} :
    encodeUtf8 (replaced bytes) = bytes ↔ ValidUtf8 bytes := by
  constructor
  · intro same
    rw [← same]
    exact encodeUtf8_valid _
  · intro valid
    induction length : bytes.length using Nat.strong_induction_on generalizing bytes with
    | _ size ih =>
      subst length
      cases bytes with
      | nil => rfl
      | cons byte rest =>
          cases read : (byte :: rest).toByteArray.utf8DecodeChar? 0 with
          | none =>
              have first : none ∈ runes (byte :: rest) := by
                rw [runes, runesFrom, read]
                exact List.mem_cons_self
              exact absurd rfl (valid none first)
          | some c =>
              obtain ⟨later, same⟩ := decoded_rune read
              have size : (String.utf8EncodeChar c).length = c.utf8Size :=
                String.length_utf8EncodeChar c
              have positive := c.utf8Size_pos
              have shorter : later.length < (byte :: rest).length := by
                rw [same, List.length_append]
                omega
              have tail : ValidUtf8 later := by
                intro rune member
                refine valid rune ?_
                rw [same, runes_rune]
                exact List.mem_cons_of_mem _ member
              have rest := ih later.length shorter tail rfl
              rw [same, replaced, runes_rune, List.map_cons, encodeUtf8, List.flatMap_cons]
              exact congrArg (String.utf8EncodeChar c ++ ·) rest

/-- A letter is one byte. -/
theorem encodeUtf8_ascii {text : List Char} (ascii : ∀ c ∈ text, c.utf8Size = 1) :
    (encodeUtf8 text).length = text.length := by
  induction text with
  | nil => rfl
  | cons c rest ih =>
      have letter : (String.utf8EncodeChar c).length = 1 := by
        rw [String.length_utf8EncodeChar]
        exact ascii c List.mem_cons_self
      have later := ih fun d member => ascii d (List.mem_cons_of_mem c member)
      rw [encodeUtf8, List.flatMap_cons, List.length_append, letter, List.length_cons, Nat.add_comm]
      exact congrArg (· + 1) later

end SlotsGame.Theory
