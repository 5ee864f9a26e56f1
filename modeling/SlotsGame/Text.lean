/-
# SlotsGame.Text -- the anchored regular expressions of the server

Every identifier the server accepts is checked by an expression of one shape:
one first character, then a bounded run of later characters, anchored at both
ends.  `matchesPattern` is that shape; each named expression of the source is
one instance.  Digests and random tokens are written in hexadecimal.
-/
import Mathlib.Data.String.Basic
import Mathlib.Logic.Function.Defs

namespace SlotsGame.Text

set_option autoImplicit false

/-- `^[first][rest]{least,most}$`. -/
def matchesPattern (first rest : Char → Bool) (least most : Nat) (text : String) : Bool :=
  match text.toList with
  | [] => false
  | c :: cs =>
      first c && cs.all rest && decide (least ≤ cs.length) && decide (cs.length ≤ most)

/-- `[A-Za-z0-9._:-]` -/
def identifierChar (c : Char) : Bool :=
  c.isAlphanum || c == '.' || c == '_' || c == ':' || c == '-'

/-- `^[A-Za-z0-9][A-Za-z0-9._:-]{0,127}$`: `identifierPattern`, `outcomeNamePattern`
and `gameIdentifierPattern` are this expression. -/
def identifierPattern (text : String) : Bool :=
  matchesPattern Char.isAlphanum identifierChar 0 127 text

/-- `^[A-Za-z0-9][A-Za-z0-9._-]{0,63}$` -/
def definitionVersionPattern (text : String) : Bool :=
  matchesPattern Char.isAlphanum (fun c => identifierChar c && c != ':') 0 63 text

def lowerHexChar (c : Char) : Bool := c.isDigit || ('a' ≤ c && c ≤ 'f')

/-- `^[a-f0-9]{64}$` -/
def digestPattern (text : String) : Bool :=
  matchesPattern lowerHexChar lowerHexChar 63 63 text

/-- `^[A-Z]{3}$` -/
def currencyPattern (text : String) : Bool := matchesPattern Char.isUpper Char.isUpper 2 2 text

def upperAlphanum (c : Char) : Bool := c.isUpper || c.isDigit

/-- `^[A-Z0-9][A-Z0-9-]{1,15}$` -/
def jurisdictionPattern (text : String) : Bool :=
  matchesPattern upperAlphanum (fun c => upperAlphanum c || c == '-') 1 15 text

theorem isAlpha_eq (c : Char) : c.isAlpha = (c.isUpper || c.isLower) := rfl

theorem isUpper_eq (c : Char) :
    c.isUpper = decide (c.val ≥ 'A'.val ∧ c.val ≤ 'Z'.val) := rfl

theorem isLower_eq (c : Char) :
    c.isLower = (decide (c.val ≥ 'a'.val) && decide (c.val ≤ 'z'.val)) := rfl

/-! ## Hexadecimal -/

/-- One byte of `hex.EncodeToString`. -/
def hexByte (byte : Fin 256) : List Char :=
  [Nat.digitChar (byte.val / 16), Nat.digitChar (byte.val % 16)]

/-- `hex.EncodeToString` -/
def hexEncode (bytes : List (Fin 256)) : List Char := bytes.flatMap hexByte

theorem digitChar_inj : ∀ left right : Fin 16,
    Nat.digitChar left.val = Nat.digitChar right.val → left = right := by
  decide

theorem hexByte_inj {left right : Fin 256} (same : hexByte left = hexByte right) : left = right := by
  have digits := List.cons.inj same
  have high := digitChar_inj ⟨left.val / 16, by omega⟩ ⟨right.val / 16, by omega⟩ digits.1
  have low := digitChar_inj ⟨left.val % 16, by omega⟩ ⟨right.val % 16, by omega⟩
    (List.cons.inj digits.2).1
  have high := Fin.mk.inj high
  have low := Fin.mk.inj low
  apply Fin.ext
  omega

theorem hexEncode_injective : Function.Injective hexEncode := by
  intro left right same
  induction left generalizing right with
  | nil =>
      cases right with
      | nil => rfl
      | cons byte rest => cases same
  | cons byte rest ih =>
      cases right with
      | nil => cases same
      | cons other tail =>
          rw [hexEncode, hexEncode, List.flatMap_cons, List.flatMap_cons] at same
          obtain ⟨head, same⟩ := List.append_inj same rfl
          rw [hexByte_inj head, ih same]

end SlotsGame.Text
