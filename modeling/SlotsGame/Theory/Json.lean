/-
# SlotsGame.Theory.Json -- JSON texts

The grammar of JSON, read from bytes (`Json.parse`), the decoder of an object into a record
(`Json.decodeFields`), and the writer of the scalars of an object (`Json.marshalObject`).  What the
writer writes is read back with each scalar as it was, but that what is no text is replaced
(`Json.parse_object`).
-/
import SlotsGame.Theory.Utf8
import Mathlib.Algebra.GroupWithZero.Nat
import Mathlib.Algebra.Ring.Int.Defs
import Mathlib.Data.List.Infix
import Mathlib.Data.List.Nodup
import Mathlib.Data.List.TakeWhile
import Mathlib.Data.String.Basic

namespace SlotsGame.Theory

set_option autoImplicit false

/-! ## Digits -/

theorem toDigits_head {value : Nat} (positive : 0 < value) :
    (Nat.toDigits 10 value).head? ≠ some '0' := by
  induction value using Nat.strong_induction_on with
  | _ value ih =>
      by_cases small : value < 10
      · rw [Nat.toDigits_of_lt_base small]
        have digit : ∀ value < 10, 0 < value → value.digitChar ≠ '0' := by decide
        intro same
        exact digit value small positive (Option.some.inj same)
      · rw [Nat.toDigits_of_base_le (by decide) (Nat.not_lt.mp small),
          List.head?_append_of_ne_nil _ Nat.toDigits_ne_nil]
        exact ih (value / 10) (by omega) (by omega)

theorem takeWhile_stop {p : Char → Bool} {front rest : List Char} {stop : Char}
    (all : ∀ c ∈ front, p c = true) (stops : p stop = false) :
    (front ++ stop :: rest).takeWhile p = front ∧
      (front ++ stop :: rest).dropWhile p = stop :: rest := by
  rw [List.takeWhile_append_of_pos all, List.dropWhile_append_of_pos all,
    List.takeWhile_cons_of_neg (by rw [stops]; decide),
    List.dropWhile_cons_of_neg (by rw [stops]; decide), List.append_nil]
  exact ⟨rfl, rfl⟩

/-! ## Strings -/

inductive Json
  | null
  | bool (value : Bool)
  | number (literal : List Char)
  | string (text : List Char)
  | array (items : List Json)
  | object (members : List (List Char × Json))

namespace Json

def hexDigit (value : Nat) : Char := "0123456789abcdef".toList.getD value '0'

def hexValue (c : Char) : Option Nat :=
  if c.isDigit then some (c.toNat - '0'.toNat)
  else if 'a' ≤ c ∧ c ≤ 'f' then some (c.toNat - 'a'.toNat + 10)
  else if 'A' ≤ c ∧ c ≤ 'F' then some (c.toNat - 'A'.toNat + 10)
  else none

/-- The letter of a control character, a quote or a backslash after a backslash. -/
def shorthand (c : Char) : Option Char :=
  if c = '"' ∨ c = '\\' then some c
  else if c = '\x08' then some 'b'
  else if c = '\x0c' then some 'f'
  else if c = '\n' then some 'n'
  else if c = '\r' then some 'r'
  else if c = '\t' then some 't'
  else none

/-- The character of a letter after a backslash. -/
def unescape (letter : Char) : Option Char :=
  if letter = '"' ∨ letter = '\\' ∨ letter = '/' then some letter
  else if letter = 'b' then some '\x08'
  else if letter = 'f' then some '\x0c'
  else if letter = 'n' then some '\n'
  else if letter = 'r' then some '\r'
  else if letter = 't' then some '\t'
  else none

/-- A character that is written by its number: controls, and what HTML or JavaScript would
take for something else. -/
def numbered (c : Char) : Bool :=
  c.toNat < 32 || c == '<' || c == '>' || c == '&' || c == '\u2028' || c == '\u2029'

def hexQuad (value : Nat) : List Char :=
  [hexDigit (value / 4096 % 16), hexDigit (value / 256 % 16), hexDigit (value / 16 % 16),
    hexDigit (value % 16)]

/-- One rune of a string, as it is written. -/
def quoteRune : Option Char → List Char
  | none => '\\' :: 'u' :: hexQuad replacement.toNat
  | some c =>
      match shorthand c with
      | some letter => ['\\', letter]
      | none => if numbered c then '\\' :: 'u' :: hexQuad c.toNat else [c]

/-- A string of bytes between its quotes. -/
def quote (bytes : List UInt8) : List Char :=
  '"' :: (runes bytes).flatMap quoteRune ++ ['"']

/-- One unit of a string as it is read: a character, or a number after a backslash. -/
abbrev StringUnit := Char ⊕ Nat

def hexNumber (first second third fourth : Char) : Option Nat := do
  let first ← hexValue first
  let second ← hexValue second
  let third ← hexValue third
  let fourth ← hexValue fourth
  some (first * 4096 + second * 256 + third * 16 + fourth)

/-- The units up to the closing quote, and what follows it. -/
def stringUnits : List Char → Option (List StringUnit × List Char)
  | [] => none
  | '"' :: rest => some ([], rest)
  | '\\' :: 'u' :: first :: second :: third :: fourth :: rest => do
      let code ← hexNumber first second third fourth
      let (units, rest) ← stringUnits rest
      some (.inr code :: units, rest)
  | '\\' :: letter :: rest => do
      let c ← unescape letter
      let (units, rest) ← stringUnits rest
      some (.inl c :: units, rest)
  | c :: rest =>
      if c.toNat < 32 ∨ c = '\\' then none
      else do
        let (units, rest) ← stringUnits rest
        some (.inl c :: units, rest)

def isHighSurrogate (code : Nat) : Bool := 0xD800 ≤ code && code < 0xDC00

def isLowSurrogate (code : Nat) : Bool := 0xDC00 ≤ code && code < 0xE000

/-- A number that stands alone. -/
def unitChar (code : Nat) : Char :=
  if isHighSurrogate code || isLowSurrogate code then replacement else Char.ofNat code

/-- The text of the units: two surrogates may stand for one character. -/
def joinUnits : List StringUnit → List Char
  | [] => []
  | .inl c :: rest => c :: joinUnits rest
  | .inr high :: .inr low :: rest =>
      if isHighSurrogate high && isLowSurrogate low then
        Char.ofNat ((high - 0xD800) * 1024 + (low - 0xDC00) + 0x10000) :: joinUnits rest
      else unitChar high :: joinUnits (.inr low :: rest)
  | .inr code :: rest => unitChar code :: joinUnits rest

/-- The text up to the closing quote, and what follows it. -/
def stringBody (input : List Char) : Option (List Char × List Char) :=
  (stringUnits input).map fun (units, rest) => (joinUnits units, rest)

/-! ## Values -/

def isSpace (c : Char) : Bool := c == ' ' || c == '\t' || c == '\n' || c == '\r'

def skipSpace (input : List Char) : List Char := input.dropWhile isSpace

/-- A run of at least one digit. -/
def someDigits (input : List Char) : Option (List Char × List Char) :=
  let digits := input.takeWhile Char.isDigit
  if digits = [] then none else some (digits, input.dropWhile Char.isDigit)

/-- The digits before the point: no zero leads others. -/
def integerDigits : List Char → Option (List Char × List Char)
  | '0' :: rest => some (['0'], rest)
  | input => someDigits input

/-- What a letter of `start` begins: itself, a sign if `signed` lets one stand, and digits. -/
def optionalDigits (start : List Char) (signed : Bool) :
    List Char → Option (List Char × List Char)
  | c :: rest =>
      if c ∈ start then
        let sign := if signed then (rest.take 1).filter fun c => c == '+' || c == '-' else []
        (someDigits (rest.drop sign.length)).map fun (digits, rest) =>
          (c :: sign ++ digits, rest)
      else some ([], c :: rest)
  | [] => some ([], [])

/-- `-?(0|[1-9][0-9]*)(\.[0-9]+)?([eE][+-]?[0-9]+)?` -/
def numberLiteral (input : List Char) : Option (List Char × List Char) := do
  let sign := (input.take 1).filter fun c => c == '-'
  let (digits, rest) ← integerDigits (input.drop sign.length)
  let (fraction, rest) ← optionalDigits ['.'] false rest
  let (exponent, rest) ← optionalDigits ['e', 'E'] true rest
  some (sign ++ digits ++ fraction ++ exponent, rest)

def literal (word : String) (value : Json) (input : List Char) : Option (Json × List Char) :=
  (input.dropPrefix? word.toList).map fun rest => (value, rest)

/-- A value that holds no other. -/
def scalar : List Char → Option (Json × List Char)
  | '"' :: rest => (stringBody rest).map fun (text, rest) => (.string text, rest)
  | 't' :: rest => literal "true" (.bool true) ('t' :: rest)
  | 'f' :: rest => literal "false" (.bool false) ('f' :: rest)
  | 'n' :: rest => literal "null" .null ('n' :: rest)
  | input => (numberLiteral input).map fun (literal, rest) => (.number literal, rest)

/-- A name and the value after its colon. -/
def member (value : List Char → Option (Json × List Char)) (input : List Char) :
    Option ((List Char × Json) × List Char) :=
  match skipSpace input with
  | '"' :: rest => do
      let (name, rest) ← stringBody rest
      match skipSpace rest with
      | ':' :: rest => do
          let (content, rest) ← value (skipSpace rest)
          some ((name, content), rest)
      | _ => none
  | _ => none

/-- Items between commas, up to the closing letter. -/
def separated {α : Type} (item : List Char → Option (α × List Char)) (closing : Char) :
    Nat → List Char → Option (List α × List Char)
  | 0, _ => none
  | fuel + 1, input => do
      let (first, rest) ← item input
      match skipSpace rest with
      | c :: rest =>
          if c = closing then some ([first], rest)
          else if c = ',' then do
            let (items, rest) ← separated item closing fuel rest
            some (first :: items, rest)
          else none
      | [] => none

/-- The items of an array or an object, after its opening letter. -/
def enclosed {α : Type} (item : List Char → Option (α × List Char)) (closing : Char)
    (input : List Char) : Option (List α × List Char) :=
  match skipSpace input with
  | c :: rest => if c = closing then some ([], rest) else separated item closing input.length input
  | [] => none

/-- A value, with at most `depth` arrays and objects one inside the other. -/
def value : Nat → List Char → Option (Json × List Char)
  | 0, input => scalar input
  | depth + 1, input =>
      match input with
      | '{' :: rest =>
          (enclosed (member (value depth)) '}' rest).map fun (members, rest) =>
            (.object members, rest)
      | '[' :: rest =>
          (enclosed (fun input => value depth (skipSpace input)) ']' rest).map fun (items, rest) =>
            (.array items, rest)
      | input => scalar input

/-- `maxNestingDepth` of encoding/json -/
def maxNestingDepth : Nat := 10000

/-- The one value of a text. -/
def parse (text : List UInt8) : Option Json := do
  let (content, rest) ← value maxNestingDepth (skipSpace (replaced text))
  if skipSpace rest = [] then some content else none

/-! ## Records -/

/-- The letter that all spellings of a character share, for letters of field names. -/
def foldRune (c : Char) : Char :=
  if c = '\u017F' then 's' else if c = '\u212A' then 'k' else c.toLower

/-- `foldName` -/
def foldName (name : List Char) : List Char := name.map foldRune

/-- A field of a record: its name, and how it takes a value. -/
structure Field (α : Type) where
  name : String
  set : Json → α → Option α

/-- The field that a name is of: by its exact spelling, or else by any. -/
def findField {α : Type} (fields : List (Field α)) (name : List Char) : Option (Field α) :=
  (fields.find? fun field => field.name.toList == name).or
    (fields.find? fun field => foldName field.name.toList == foldName name)

/-- `Decode` of an object into a record, with `DisallowUnknownFields`. -/
def decodeFields {α : Type} (fields : List (Field α)) (members : List (List Char × Json))
    (initial : α) : Option α :=
  members.foldlM (fun record (name, content) => do
    let field ← findField fields name
    field.set content record) initial

/-- A record that takes only an object, without a name twice, and only known names. -/
def decodeStrict {α : Type} (fields : List (Field α)) (text : List UInt8) (initial : α) :
    Option α := do
  match ← parse text with
  | .object members =>
      if (members.map Prod.fst).Nodup then decodeFields fields members initial else none
  | _ => none

/-- A text, where `null` is none. -/
def setString {α : Type} (set : List Char → α → α) : Json → α → Option α
  | .string text, record => some (set text record)
  | .null, record => some record
  | _, _ => none

/-- The number of a literal without fraction and exponent. -/
def decimalValue (digits : List Char) : Option Nat :=
  if digits ≠ [] ∧ digits.all Char.isDigit then some (Nat.ofDigitChars 10 digits 0) else none

/-- `strconv.ParseInt(literal, 10, 64)` -/
def parseInt64 : List Char → Option Int
  | '-' :: digits => (decimalValue digits).bind fun value =>
      if value ≤ 2 ^ 63 then some (-value) else none
  | digits => (decimalValue digits).bind fun value =>
      if value < 2 ^ 63 then some value else none

/-- `strconv.ParseUint(literal, 10, 64)` -/
def parseUint64 (literal : List Char) : Option Nat :=
  (decimalValue literal).bind fun value => if value < 2 ^ 64 then some value else none

def setInt64 {α : Type} (set : Int → α → α) : Json → α → Option α
  | .number literal, record => (parseInt64 literal).map fun value => set value record
  | .null, record => some record
  | _, _ => none

def setUint64 {α : Type} (set : Nat → α → α) : Json → α → Option α
  | .number literal, record => (parseUint64 literal).map fun value => set value record
  | .null, record => some record
  | _, _ => none

/-! ## Writing -/

/-- An integer in decimal digits. -/
def decimal (value : Int) : List Char := (toString value).toList

/-- What a field of a record holds: a string of bytes, or an integer. -/
inductive Scalar
  | string (bytes : List UInt8)
  | integer (value : Int)

/-- The text of a scalar. -/
def Scalar.marshal : Scalar → List Char
  | string bytes => quote bytes
  | integer value => decimal value

/-- What a scalar is read back as. -/
def Scalar.read : Scalar → Json
  | string bytes => .string (replaced bytes)
  | integer value => .number (decimal value)

def marshalField (field : String × Scalar) : List Char :=
  quote (encodeUtf8 field.1.toList) ++ ':' :: field.2.marshal

/-- The fields of an object, up to its closing brace. -/
def marshalFields : List (String × Scalar) → List Char
  | [] => ['}']
  | [field] => marshalField field ++ ['}']
  | field :: rest => marshalField field ++ ',' :: marshalFields rest

/-- `json.Marshal` of a record of scalars. -/
def marshalObject (fields : List (String × Scalar)) : List UInt8 :=
  encodeUtf8 ('{' :: marshalFields fields)

/-! ## What is written is read back -/

theorem hexValue_hexDigit : ∀ digit < 16, hexValue (hexDigit digit) = some digit := by decide

theorem hexNumber_hexQuad {code : Nat} (fits : code < 65536) (rest : List Char) :
    ∃ first second third fourth, hexQuad code ++ rest = first :: second :: third :: fourth :: rest ∧
      hexNumber first second third fourth = some code := by
  refine ⟨_, _, _, _, rfl, ?_⟩
  have digit (place : Nat) : hexValue (hexDigit (code / place % 16)) = some (code / place % 16) :=
    hexValue_hexDigit _ (Nat.mod_lt _ (by decide))
  have last : hexValue (hexDigit (code % 16)) = some (code % 16) :=
    hexValue_hexDigit _ (Nat.mod_lt _ (by decide))
  simp only [hexNumber, digit, last, Option.bind_eq_bind, Option.bind_some, Option.some.injEq]
  omega

/-- The unit that a rune is read as. -/
def unitOf : Option Char → StringUnit
  | none => .inr replacement.toNat
  | some c => if shorthand c = none ∧ numbered c = true then .inr c.toNat else .inl c

theorem numbered_small {c : Char} (written : numbered c = true) : c.toNat < 65536 := by
  simp only [numbered, Bool.or_eq_true, decide_eq_true_eq, beq_iff_eq] at written
  rcases written with ((((control | rfl) | rfl) | rfl) | rfl) | rfl
  · omega
  · decide
  · decide
  · decide
  · decide
  · decide

theorem shorthand_unescape {c letter : Char} (short : shorthand c = some letter) :
    letter ≠ 'u' ∧ unescape letter = some c := by
  unfold shorthand at short
  split_ifs at short with quoted back form line carriage tab
  · obtain rfl := Option.some.inj short
    rcases quoted with rfl | rfl
    · exact ⟨by decide, by decide⟩
    · exact ⟨by decide, by decide⟩
  · obtain rfl := Option.some.inj short
    exact ⟨by decide, by rw [back]; decide⟩
  · obtain rfl := Option.some.inj short
    exact ⟨by decide, by rw [form]; decide⟩
  · obtain rfl := Option.some.inj short
    exact ⟨by decide, by rw [line]; decide⟩
  · obtain rfl := Option.some.inj short
    exact ⟨by decide, by rw [carriage]; decide⟩
  · obtain rfl := Option.some.inj short
    exact ⟨by decide, by rw [tab]; decide⟩

theorem stringUnits_number {code : Nat} (fits : code < 65536) (rest : List Char) :
    stringUnits ('\\' :: 'u' :: hexQuad code ++ rest) =
      (stringUnits rest).map fun (units, rest) => (.inr code :: units, rest) := by
  obtain ⟨first, second, third, fourth, digits, read⟩ := hexNumber_hexQuad fits rest
  rw [List.cons_append, List.cons_append, digits, stringUnits, read]
  cases stringUnits rest <;> rfl

theorem stringUnits_letter {c letter : Char} (short : shorthand c = some letter)
    (rest : List Char) :
    stringUnits ('\\' :: letter :: rest) =
      (stringUnits rest).map fun (units, rest) => (.inl c :: units, rest) := by
  obtain ⟨other, read⟩ := shorthand_unescape short
  rw [stringUnits, read]
  · cases stringUnits rest <;> rfl
  · intro first second third fourth later number
    exact absurd number other

theorem stringUnits_plain {c : Char} (whole : shorthand c = none) (plain : numbered c = false)
    (rest : List Char) :
    stringUnits (c :: rest) =
      (stringUnits rest).map fun (units, rest) => (.inl c :: units, rest) := by
  have quoted : c ≠ '"' := by
    rintro rfl
    exact absurd whole (by decide)
  have escaped : c ≠ '\\' := by
    rintro rfl
    exact absurd whole (by decide)
  have printed : ¬ c.toNat < 32 := by
    intro control
    rw [numbered, decide_eq_true control] at plain
    exact absurd plain (by simp)
  rw [stringUnits, if_neg (by rintro (control | rfl); exacts [printed control, escaped rfl])]
  · cases stringUnits rest <;> rfl
  · exact quoted
  · intro first second third fourth later same
    exact absurd same escaped
  · intro letter later same
    exact absurd same escaped

theorem stringUnits_quoteRune (rune : Option Char) (rest : List Char) :
    stringUnits (quoteRune rune ++ rest) =
      (stringUnits rest).map fun (units, rest) => (unitOf rune :: units, rest) := by
  cases rune with
  | none => exact stringUnits_number (by decide) rest
  | some c =>
      cases short : shorthand c with
      | some letter =>
          have quoted : quoteRune (some c) = ['\\', letter] := by simp only [quoteRune, short]
          have unit : unitOf (some c) = .inl c := by simp [unitOf, short]
          rw [quoted, unit]
          exact stringUnits_letter short rest
      | none =>
          cases written : numbered c with
          | true =>
              have quoted : quoteRune (some c) = '\\' :: 'u' :: hexQuad c.toNat := by
                simp only [quoteRune, short, written, if_true]
              have unit : unitOf (some c) = .inr c.toNat := by simp [unitOf, short, written]
              rw [quoted, unit]
              exact stringUnits_number (numbered_small written) rest
          | false =>
              have quoted : quoteRune (some c) = [c] := by simp [quoteRune, short, written]
              have unit : unitOf (some c) = .inl c := by simp [unitOf, written]
              rw [quoted, unit]
              exact stringUnits_plain short written rest

theorem stringUnits_quote (text : List (Option Char)) (rest : List Char) :
    stringUnits (text.flatMap quoteRune ++ '"' :: rest) = some (text.map unitOf, rest) := by
  induction text with
  | nil => rfl
  | cons rune later ih =>
      rw [List.flatMap_cons, List.append_assoc, stringUnits_quoteRune, ih]
      rfl

/-- No character is a surrogate. -/
theorem char_scalar (c : Char) :
    isHighSurrogate c.toNat = false ∧ isLowSurrogate c.toNat = false := by
  have valid := c.valid
  have same : c.toNat = c.val.toNat := rfl
  simp only [isHighSurrogate, isLowSurrogate, Bool.and_eq_false_iff, decide_eq_false_iff_not]
  rcases valid with low | ⟨high, _⟩
  · omega
  · omega

theorem unitChar_char (c : Char) : unitChar c.toNat = c := by
  obtain ⟨high, low⟩ := char_scalar c
  rw [unitChar, high, low, Char.ofNat_toNat]
  rfl

theorem joinUnits_number (c : Char) (rest : List StringUnit) :
    joinUnits (.inr c.toNat :: rest) = c :: joinUnits rest := by
  obtain ⟨high, _⟩ := char_scalar c
  cases rest with
  | nil => simp [joinUnits, unitChar_char]
  | cons unit later =>
      cases unit with
      | inl other => simp [joinUnits, unitChar_char]
      | inr low =>
          rw [joinUnits, high, Bool.false_and, if_neg Bool.false_ne_true, unitChar_char]

theorem joinUnits_unitOf (text : List (Option Char)) :
    joinUnits (text.map unitOf) = text.map fun rune => rune.getD replacement := by
  induction text with
  | nil => rfl
  | cons rune later ih =>
      rw [List.map_cons, List.map_cons, ← ih]
      cases rune with
      | none => exact joinUnits_number replacement _
      | some c =>
          unfold unitOf
          dsimp only
          split
          · exact joinUnits_number c _
          · rfl

/-- A string is read as the text that it can be read as. -/
theorem stringBody_quote (bytes : List UInt8) (rest : List Char) :
    stringBody ((runes bytes).flatMap quoteRune ++ '"' :: rest) = some (replaced bytes, rest) := by
  rw [stringBody, stringUnits_quote, Option.map_some, replaced, ← joinUnits_unitOf]

/-! ## Numbers -/

/-- What cannot continue a number. -/
def Ends (rest : List Char) : Prop :=
  ∀ c ∈ rest.head?, c.isDigit = false ∧ c ≠ '.' ∧ c ≠ 'e' ∧ c ≠ 'E'

theorem decimal_ofNat (value : Nat) : decimal value = Nat.toDigits 10 value := Nat.toList_repr

theorem decimal_negSucc (value : Nat) :
    decimal (Int.negSucc value) = '-' :: Nat.toDigits 10 (value + 1) := by
  show ("-" ++ (value + 1).repr).toList = _
  rw [String.toList_append, Nat.toList_repr]
  rfl

theorem toDigits_digits (value : Nat) : ∀ c ∈ Nat.toDigits 10 value, c.isDigit = true :=
  fun _ member => Nat.isDigit_of_mem_toDigits (by decide) (by decide) member

theorem someDigits_toDigits {rest : List Char} (ends : Ends rest) (value : Nat) :
    someDigits (Nat.toDigits 10 value ++ rest) = some (Nat.toDigits 10 value, rest) := by
  have read : (Nat.toDigits 10 value ++ rest).takeWhile Char.isDigit = Nat.toDigits 10 value ∧
      (Nat.toDigits 10 value ++ rest).dropWhile Char.isDigit = rest := by
    cases rest with
    | nil =>
        rw [List.append_nil, List.takeWhile_eq_self_iff.mpr (toDigits_digits value)]
        exact ⟨rfl, List.dropWhile_eq_nil_iff.mpr (toDigits_digits value)⟩
    | cons stop later => exact takeWhile_stop (toDigits_digits value) (ends stop rfl).1
  unfold someDigits
  rw [read.1, read.2]
  exact if_neg Nat.toDigits_ne_nil

theorem integerDigits_toDigits {rest : List Char} (ends : Ends rest) (value : Nat) :
    integerDigits (Nat.toDigits 10 value ++ rest) = some (Nat.toDigits 10 value, rest) := by
  rcases Nat.eq_zero_or_pos value with rfl | positive
  · rw [Nat.toDigits_zero]
    rfl
  · have head := toDigits_head positive
    have read := someDigits_toDigits ends value
    unfold integerDigits
    split
    · next later same =>
      cases digits : Nat.toDigits 10 value with
      | nil => exact absurd digits Nat.toDigits_ne_nil
      | cons c others =>
          rw [digits, List.cons_append] at same
          rw [digits] at head
          exact absurd (congrArg some (List.cons.inj same).1) head
    · exact read

theorem optionalDigits_ends {rest : List Char} (ends : Ends rest) {start : List Char}
    (letters : ∀ c ∈ start, c = '.' ∨ c = 'e' ∨ c = 'E') (signed : Bool) :
    optionalDigits start signed rest = some ([], rest) := by
  cases rest with
  | nil => rfl
  | cons c later =>
      obtain ⟨_, point, lower, upper⟩ := ends c rfl
      refine if_neg ?_
      intro member
      rcases letters c member with same | same | same
      · exact point same
      · exact lower same
      · exact upper same

/-- A number is read as it was written. -/
theorem numberLiteral_decimal {rest : List Char} (ends : Ends rest) (value : Int) :
    numberLiteral (decimal value ++ rest) = some (decimal value, rest) := by
  have fraction : optionalDigits ['.'] false rest = some ([], rest) :=
    optionalDigits_ends ends (by simp) false
  have exponent : optionalDigits ['e', 'E'] true rest = some ([], rest) :=
    optionalDigits_ends ends (by simp) true
  cases value with
  | ofNat value =>
      have text : decimal (Int.ofNat value) = Nat.toDigits 10 value := decimal_ofNat value
      have unsigned : ((Nat.toDigits 10 value ++ rest).take 1).filter (fun c => c == '-') = [] := by
        cases digits : Nat.toDigits 10 value with
        | nil => exact absurd digits Nat.toDigits_ne_nil
        | cons c others =>
            have digit := toDigits_digits value c (by rw [digits]; exact List.mem_cons_self)
            have other : c ≠ '-' := by
              rintro rfl
              cases digit
            simp [other]
      unfold numberLiteral
      rw [text, unsigned]
      simp only [List.length_nil, List.drop_zero, integerDigits_toDigits ends, fraction, exponent,
        Option.bind_eq_bind, Option.bind_some, List.nil_append, List.append_nil]
  | negSucc value =>
      have text : decimal (Int.negSucc value) = '-' :: Nat.toDigits 10 (value + 1) :=
        decimal_negSucc value
      have signed : ('-' :: (Nat.toDigits 10 (value + 1) ++ rest)).take 1 = ['-'] := rfl
      unfold numberLiteral
      rw [text, List.cons_append, signed]
      show (integerDigits (Nat.toDigits 10 (value + 1) ++ rest) >>= _) = _
      simp only [integerDigits_toDigits ends, fraction, exponent, Option.bind_eq_bind,
        Option.bind_some, List.append_nil]
      rfl

theorem decimalValue_toDigits (value : Nat) : decimalValue (Nat.toDigits 10 value) = some value := by
  have digits : Nat.toDigits 10 value ≠ [] ∧ (Nat.toDigits 10 value).all Char.isDigit = true :=
    ⟨Nat.toDigits_ne_nil, List.all_eq_true.mpr (toDigits_digits value)⟩
  unfold decimalValue
  rw [if_pos digits, Nat.ofDigitChars_toDigits (by decide) (by decide)]

theorem parseInt64_decimal {value : Int} (least : -2 ^ 63 ≤ value) (most : value < 2 ^ 63) :
    parseInt64 (decimal value) = some value := by
  cases value with
  | ofNat value =>
      have text : decimal (Int.ofNat value) = Nat.toDigits 10 value := decimal_ofNat value
      have fits : value < 2 ^ 63 := by
        have most : (value : Int) < 2 ^ 63 := most
        omega
      rw [text]
      unfold parseInt64
      split
      · next later same =>
        have sign := toDigits_digits value '-' (by rw [same]; exact List.mem_cons_self)
        cases sign
      · rw [decimalValue_toDigits, Option.bind_some, if_pos fits]
        rfl
  | negSucc value =>
      have text : decimal (Int.negSucc value) = '-' :: Nat.toDigits 10 (value + 1) :=
        decimal_negSucc value
      have fits : value + 1 ≤ 2 ^ 63 := by omega
      rw [text]
      show ((decimalValue (Nat.toDigits 10 (value + 1))).bind _) = _
      rw [decimalValue_toDigits, Option.bind_some, if_pos fits]
      rfl

theorem parseUint64_decimal {value : Nat} (most : value < 2 ^ 64) :
    parseUint64 (decimal value) = some value := by
  unfold parseUint64
  rw [decimal_ofNat, decimalValue_toDigits, Option.bind_some, if_pos most]

/-! ## Objects -/

theorem ends_comma (rest : List Char) : Ends (',' :: rest) := by
  intro c same
  obtain rfl := Option.some.inj same
  decide

theorem ends_brace (rest : List Char) : Ends ('}' :: rest) := by
  intro c same
  obtain rfl := Option.some.inj same
  decide

theorem decimal_head (value : Int) :
    ∃ c rest, decimal value = c :: rest ∧ (c = '-' ∨ c.isDigit = true) := by
  cases value with
  | ofNat value =>
      have text : decimal (Int.ofNat value) = Nat.toDigits 10 value := decimal_ofNat value
      cases digits : Nat.toDigits 10 value with
      | nil => exact absurd digits Nat.toDigits_ne_nil
      | cons c rest =>
          exact ⟨c, rest, text.trans digits, .inr (toDigits_digits value c
            (by rw [digits]; exact List.mem_cons_self))⟩
  | negSucc value => exact ⟨'-', _, decimal_negSucc value, .inl rfl⟩

/-- A scalar begins with no space and no brace. -/
theorem Scalar.head (field : Scalar) (rest : List Char) :
    ∃ c later, field.marshal ++ rest = c :: later ∧ isSpace c = false ∧ c ≠ '{' ∧ c ≠ '[' := by
  cases field with
  | string bytes => exact ⟨'"', _, rfl, rfl, by decide, by decide⟩
  | integer value =>
      obtain ⟨c, later, text, sign | digit⟩ := decimal_head value
      · subst sign
        exact ⟨'-', later ++ rest, congrArg (· ++ rest) text, rfl, by decide, by decide⟩
      · refine ⟨c, later ++ rest, congrArg (· ++ rest) text, ?_, ?_, ?_⟩
        · cases spaced : isSpace c with
          | false => rfl
          | true =>
              simp only [isSpace, Bool.or_eq_true, beq_iff_eq] at spaced
              rcases spaced with ((rfl | rfl) | rfl) | rfl <;> cases digit
        · rintro rfl
          cases digit
        · rintro rfl
          cases digit

theorem scalar_string (bytes : List UInt8) (rest : List Char) :
    scalar (quote bytes ++ rest) = some (.string (replaced bytes), rest) := by
  have text : quote bytes ++ rest = '"' :: ((runes bytes).flatMap quoteRune ++ '"' :: rest) := by
    simp [quote]
  rw [text]
  show (stringBody _).map _ = _
  rw [stringBody_quote]
  rfl

theorem scalar_integer (value : Int) {rest : List Char} (ends : Ends rest) :
    scalar (decimal value ++ rest) = some (.number (decimal value), rest) := by
  have read := numberLiteral_decimal ends value
  obtain ⟨c, later, text, head⟩ := decimal_head value
  rw [text, List.cons_append] at read ⊢
  have letter : ∀ other, other ≠ '-' → other.isDigit = false → c ≠ other := by
    rintro other sign digit rfl
    rcases head with same | same
    · exact sign same
    · rw [digit] at same
      cases same
  unfold scalar
  split
  · next same => exact absurd (List.cons.inj same).1 (letter '"' (by decide) (by decide))
  · next same => exact absurd (List.cons.inj same).1 (letter 't' (by decide) (by decide))
  · next same => exact absurd (List.cons.inj same).1 (letter 'f' (by decide) (by decide))
  · next same => exact absurd (List.cons.inj same).1 (letter 'n' (by decide) (by decide))
  · rw [read]
    rfl

/-- A scalar is read as a value, whatever may be nested around it. -/
theorem Scalar.value (field : Scalar) (depth : Nat) {rest : List Char} (ends : Ends rest) :
    Json.value depth (skipSpace (field.marshal ++ rest)) = some (field.read, rest) := by
  have read : scalar (field.marshal ++ rest) = some (field.read, rest) := by
    cases field with
    | string bytes => exact scalar_string bytes rest
    | integer value => exact scalar_integer value ends
  obtain ⟨c, later, text, space, brace, bracket⟩ := field.head rest
  rw [text] at read ⊢
  have kept : skipSpace (c :: later) = c :: later :=
    List.dropWhile_cons_of_neg (by rw [space]; exact Bool.false_ne_true)
  rw [kept]
  cases depth with
  | zero => exact read
  | succ depth =>
      unfold Json.value
      split
      · next same => exact absurd (List.cons.inj same).1 brace
      · next same => exact absurd (List.cons.inj same).1 bracket
      · exact read

theorem member_field (field : String × Scalar) (depth : Nat) {rest : List Char}
    (ends : Ends rest) :
    member (value depth) (marshalField field ++ rest) =
      some ((field.1.toList, field.2.read), rest) := by
  have text : marshalField field ++ rest = '"' :: ((runes (encodeUtf8 field.1.toList)).flatMap
      quoteRune ++ '"' :: ':' :: (field.2.marshal ++ rest)) := by
    simp [marshalField, quote]
  have spaced : ∀ later, skipSpace ('"' :: later) = '"' :: later :=
    fun later => List.dropWhile_cons_of_neg (by decide)
  have colon : ∀ later, skipSpace (':' :: later) = ':' :: later :=
    fun later => List.dropWhile_cons_of_neg (by decide)
  rw [text, member, spaced]
  simp only [stringBody_quote, replaced_encode, colon, field.2.value depth ends,
    Option.bind_eq_bind, Option.bind_some]

/-- The fields of an object are read one by one. -/
theorem separated_fields (depth : Nat) (field : String × Scalar) (fields : List (String × Scalar))
    (rest : List Char) {fuel : Nat} (enough : fields.length < fuel) :
    separated (member (value depth)) '}' fuel (marshalFields (field :: fields) ++ rest) =
      some ((field :: fields).map fun field => (field.1.toList, field.2.read), rest) := by
  have brace : ∀ later, skipSpace ('}' :: later) = '}' :: later :=
    fun later => List.dropWhile_cons_of_neg (by decide)
  have comma : ∀ later, skipSpace (',' :: later) = ',' :: later :=
    fun later => List.dropWhile_cons_of_neg (by decide)
  induction fields generalizing field fuel with
  | nil =>
      cases fuel with
      | zero => cases enough
      | succ fuel =>
          have text : marshalFields [field] ++ rest = marshalField field ++ '}' :: rest := by
            simp [marshalFields]
          rw [text, separated, member_field field depth (ends_brace rest)]
          simp only [Option.bind_eq_bind, Option.bind_some, brace, if_true]
          rfl
  | cons next fields ih =>
      cases fuel with
      | zero => cases enough
      | succ fuel =>
          have text : marshalFields (field :: next :: fields) ++ rest =
              marshalField field ++ ',' :: (marshalFields (next :: fields) ++ rest) := by
            simp [marshalFields]
          have later := ih next (Nat.lt_of_succ_lt_succ enough)
          rw [text, separated, member_field field depth (ends_comma _)]
          simp only [Option.bind_eq_bind, Option.bind_some, comma, later]
          rfl

theorem length_marshalFields (fields : List (String × Scalar)) :
    fields.length < (marshalFields fields).length := by
  induction fields with
  | nil => decide
  | cons field fields ih =>
      cases fields with
      | nil => simp [marshalFields, marshalField, quote]
      | cons next fields =>
          have text : marshalFields (field :: next :: fields) =
              marshalField field ++ ',' :: marshalFields (next :: fields) := rfl
          simp only [text, List.length_append, List.length_cons] at ih ⊢
          omega

/-- An object of scalars is read back field by field. -/
theorem parse_object (fields : List (String × Scalar)) :
    parse (marshalObject fields) =
      some (.object (fields.map fun field => (field.1.toList, field.2.read))) := by
  have brace : ∀ later, skipSpace ('{' :: later) = '{' :: later :=
    fun later => List.dropWhile_cons_of_neg (by decide)
  have members : enclosed (member (value 9999)) '}' (marshalFields fields) =
      some (fields.map fun field => (field.1.toList, field.2.read), []) := by
    cases fields with
    | nil => rfl
    | cons field fields =>
        have whole := separated_fields 9999 field fields []
          (Nat.lt_of_succ_lt (length_marshalFields (field :: fields)))
        rw [List.append_nil] at whole
        obtain ⟨later, quoted⟩ : ∃ later, marshalFields (field :: fields) = '"' :: later := by
          cases fields with
          | nil => exact ⟨_, rfl⟩
          | cons next fields => exact ⟨_, rfl⟩
        rw [quoted] at whole ⊢
        exact whole
  have depth : maxNestingDepth = 9999 + 1 := rfl
  unfold parse marshalObject
  rw [replaced_encode, brace, depth, value, members]
  rfl

/-! ## Lengths -/

/-- The bytes that a rune of a string takes. -/
def runeLength : Option Char → Nat
  | none => 6
  | some c => if (shorthand c).isSome then 2 else if numbered c then 6 else c.utf8Size

/-- The bytes that a string takes, with its quotes. -/
def quotedLength (bytes : List UInt8) : Nat := ((runes bytes).map runeLength).sum + 2

def Scalar.length : Scalar → Nat
  | string bytes => quotedLength bytes
  | integer value => (decimal value).length

@[simp] theorem Scalar.length_string (bytes : List UInt8) :
    (Scalar.string bytes).length = quotedLength bytes := rfl

@[simp] theorem Scalar.length_integer (value : Int) :
    (Scalar.integer value).length = (decimal value).length := rfl

theorem hexDigit_letter : ∀ digit < 16, (hexDigit digit).utf8Size = 1 := by decide

theorem length_number (code : Nat) : (encodeUtf8 ('\\' :: 'u' :: hexQuad code)).length = 6 := by
  refine encodeUtf8_ascii ?_
  have digit (place : Nat) : (hexDigit (place % 16)).utf8Size = 1 :=
    hexDigit_letter _ (Nat.mod_lt _ (by decide))
  intro c member
  simp only [hexQuad, List.mem_cons, List.not_mem_nil, or_false] at member
  rcases member with rfl | rfl | rfl | rfl | rfl | rfl
  · decide
  · decide
  · exact digit _
  · exact digit _
  · exact digit _
  · exact digit _

theorem shorthand_letter {c letter : Char} (short : shorthand c = some letter) :
    letter.utf8Size = 1 := by
  unfold shorthand at short
  split_ifs at short with quoted
  all_goals obtain rfl := Option.some.inj short
  · rcases quoted with rfl | rfl
    · decide
    · decide
  all_goals decide

theorem length_quoteRune (rune : Option Char) :
    (encodeUtf8 (quoteRune rune)).length = runeLength rune := by
  cases rune with
  | none => exact length_number replacement.toNat
  | some c =>
      cases short : shorthand c with
      | some letter =>
          have quoted : quoteRune (some c) = ['\\', letter] := by simp only [quoteRune, short]
          have size : runeLength (some c) = 2 := by simp [runeLength, short]
          rw [quoted, size]
          refine encodeUtf8_ascii ?_
          intro c member
          simp only [List.mem_cons, List.not_mem_nil, or_false] at member
          rcases member with rfl | rfl
          · decide
          · exact shorthand_letter short
      | none =>
          cases written : numbered c with
          | true =>
              have quoted : quoteRune (some c) = '\\' :: 'u' :: hexQuad c.toNat := by
                simp only [quoteRune, short, written, if_true]
              have size : runeLength (some c) = 6 := by simp [runeLength, short, written]
              rw [quoted, size]
              exact length_number c.toNat
          | false =>
              have quoted : quoteRune (some c) = [c] := by simp [quoteRune, short, written]
              have size : runeLength (some c) = c.utf8Size := by simp [runeLength, short, written]
              rw [quoted, size]
              show (String.utf8EncodeChar c ++ []).length = c.utf8Size
              rw [List.append_nil, String.length_utf8EncodeChar]

theorem length_quote (bytes : List UInt8) : (encodeUtf8 (quote bytes)).length = quotedLength bytes := by
  have body (text : List (Option Char)) :
      (encodeUtf8 (text.flatMap quoteRune)).length = (text.map runeLength).sum := by
    induction text with
    | nil => rfl
    | cons rune later ih =>
        rw [List.flatMap_cons, encodeUtf8_append, List.length_append, length_quoteRune, ih]
        rfl
  have quotes : ∀ text, (encodeUtf8 ('"' :: text ++ ['"'])).length = (encodeUtf8 text).length + 2 := by
    intro text
    have letter : (encodeUtf8 ['"']).length = 1 := by decide
    have split : '"' :: text ++ ['"'] = ['"'] ++ text ++ ['"'] := rfl
    rw [split, encodeUtf8_append, encodeUtf8_append, List.length_append, List.length_append, letter]
    omega
  rw [quote, quotes, body]
  rfl

theorem length_decimal (value : Int) : (encodeUtf8 (decimal value)).length = (decimal value).length := by
  refine encodeUtf8_ascii ?_
  have digit : ∀ value, ∀ c ∈ Nat.toDigits 10 value, c.utf8Size = 1 := by
    intro value c member
    have digit := toDigits_digits value c member
    rw [Char.utf8Size_eq_one_iff]
    simp only [Char.isDigit, Bool.and_eq_true, decide_eq_true_eq] at digit
    exact UInt32.le_trans digit.2 (by decide)
  cases value with
  | ofNat value =>
      have text : decimal (Int.ofNat value) = Nat.toDigits 10 value := decimal_ofNat value
      rw [text]
      exact digit value
  | negSucc value =>
      rw [decimal_negSucc]
      intro c member
      rcases List.mem_cons.mp member with rfl | later
      · decide
      · exact digit _ c later

theorem Scalar.length_marshal (field : Scalar) : (encodeUtf8 field.marshal).length = field.length := by
  cases field with
  | string bytes => exact length_quote bytes
  | integer value => exact length_decimal value

/-- The bytes of a field, with the colon and the letter after it. -/
def fieldLength (field : String × Scalar) : Nat :=
  quotedLength (encodeUtf8 field.1.toList) + field.2.length + 2

theorem length_marshalObject {fields : List (String × Scalar)} (filled : fields ≠ []) :
    (marshalObject fields).length = (fields.map fieldLength).sum + 1 := by
  have letter : ∀ c : Char, c.utf8Size = 1 → ∀ text,
      (encodeUtf8 (c :: text)).length = (encodeUtf8 text).length + 1 := by
    intro c size text
    rw [encodeUtf8, List.flatMap_cons, List.length_append, String.length_utf8EncodeChar, size,
      Nat.add_comm]
    rfl
  have one : ∀ (field : String × Scalar) (rest : List Char),
      (encodeUtf8 (marshalField field ++ rest)).length + 1 =
        fieldLength field + (encodeUtf8 rest).length := by
    intro field rest
    have text : marshalField field ++ rest =
        quote (encodeUtf8 field.1.toList) ++ (':' :: (field.2.marshal ++ rest)) := by
      simp [marshalField]
    rw [text, encodeUtf8_append, List.length_append, length_quote, letter ':' (by decide),
      encodeUtf8_append, List.length_append, Scalar.length_marshal, fieldLength]
    omega
  have all : ∀ fields : List (String × Scalar), fields ≠ [] →
      (encodeUtf8 (marshalFields fields)).length = (fields.map fieldLength).sum := by
    intro fields filled
    induction fields with
    | nil => exact absurd rfl filled
    | cons field fields ih =>
        cases fields with
        | nil =>
            have whole := one field ['}']
            have brace : (encodeUtf8 ['}']).length = 1 := by decide
            have text : marshalFields [field] = marshalField field ++ ['}'] := rfl
            simp only [text, List.map_cons, List.map_nil, List.sum_cons, List.sum_nil]
            omega
        | cons next fields =>
            have whole := one field (',' :: marshalFields (next :: fields))
            have later := ih (by rintro ⟨⟩)
            have comma := letter ',' (by decide) (marshalFields (next :: fields))
            have text : marshalFields (field :: next :: fields) =
                marshalField field ++ ',' :: marshalFields (next :: fields) := rfl
            rw [text, List.map_cons, List.sum_cons, ← later]
            omega
  rw [marshalObject, letter '{' (by decide), all fields filled]

/-- A letter that stands for itself. -/
def Plain (c : Char) : Prop := shorthand c = none ∧ numbered c = false ∧ c.utf8Size = 1

theorem quotedLength_plain {text : List Char} (plain : ∀ c ∈ text, Plain c) :
    quotedLength (encodeUtf8 text) = text.length + 2 := by
  have lengths : (text.map fun c => runeLength (some c)) = text.map fun _ => 1 := by
    refine List.map_congr_left fun c member => ?_
    obtain ⟨short, written, size⟩ := plain c member
    simp only [runeLength, short, written, size, Option.isSome_none, Bool.false_eq_true, if_false]
  rw [quotedLength, runes_encode, List.map_map]
  show (text.map fun c => runeLength (some c)).sum + 2 = _
  rw [lengths, List.map_const', List.sum_replicate_nat]
  omega

/-! ## Records that are read back -/

variable {α : Type}

/-- A field is found by its own name. -/
theorem findField_self {fields : List (Field α)} (distinct : (fields.map Field.name).Nodup)
    {field : Field α} (member : field ∈ fields) :
    findField fields field.name.toList = some field := by
  have found : (fields.find? fun other => other.name.toList == field.name.toList) = some field := by
    induction fields with
    | nil => cases member
    | cons first rest ih =>
        rw [List.map_cons, List.nodup_cons] at distinct
        rcases List.mem_cons.mp member with rfl | later
        · exact List.find?_cons_of_pos (by simp)
        · rw [List.find?_cons_of_neg]
          · exact ih distinct.2 later
          · intro same
            have names := String.toList_inj.mp (beq_iff_eq.mp same)
            exact distinct.1 (names ▸ List.mem_map_of_mem later)
  rw [findField, found]
  rfl

/-- Fields under their own names are taken in order. -/
theorem decodeFields_written {fields : List (Field α)} (distinct : (fields.map Field.name).Nodup)
    {written : List (Field α × Json)} (known : ∀ entry ∈ written, entry.1 ∈ fields) (initial : α) :
    decodeFields fields (written.map fun entry => (entry.1.name.toList, entry.2)) initial =
      written.foldlM (fun record entry => entry.1.set entry.2 record) initial := by
  induction written generalizing initial with
  | nil => rfl
  | cons entry rest ih =>
      have here := findField_self distinct (known entry List.mem_cons_self)
      have later := ih fun other member => known other (List.mem_cons_of_mem entry member)
      have step : decodeFields fields ((entry :: rest).map fun entry =>
          (entry.1.name.toList, entry.2)) initial =
        ((findField fields entry.1.name.toList).bind fun field => field.set entry.2 initial).bind
          fun record => decodeFields fields (rest.map fun entry =>
            (entry.1.name.toList, entry.2)) record := rfl
      rw [step, here, List.foldlM_cons]
      exact bind_congr fun record => later record

/-- The fields of a record, each with what it holds. -/
theorem zip_members {fields : List (Field α)} {members : List (String × Scalar)}
    (named : members.map Prod.fst = fields.map Field.name) :
    (fields.zip (members.map Prod.snd)).map (fun entry => (entry.1.name, entry.2)) = members := by
  induction fields generalizing members with
  | nil =>
      cases members with
      | nil => rfl
      | cons _ _ => cases named
  | cons field fields ih =>
      cases members with
      | nil => cases named
      | cons first rest =>
          obtain ⟨name, later⟩ := List.cons.inj named
          rw [List.map_cons, List.zip_cons_cons, List.map_cons, ih later, ← name]

/-- A record is read back field by field. -/
theorem decodeStrict_record {fields : List (Field α)} (distinct : (fields.map Field.name).Nodup)
    {members : List (String × Scalar)} (named : members.map Prod.fst = fields.map Field.name)
    (initial : α) :
    decodeStrict fields (marshalObject members) initial =
      (fields.zip (members.map Prod.snd)).foldlM
        (fun record entry => entry.1.set entry.2.read record) initial := by
  set written := fields.zip (members.map Prod.snd) with written_eq
  have known : ∀ entry ∈ written.map fun entry => (entry.1, entry.2.read), entry.1 ∈ fields := by
    intro entry member
    obtain ⟨origin, there, rfl⟩ := List.mem_map.mp member
    exact (List.of_mem_zip there).1
  have read : members.map (fun field => (field.1.toList, field.2.read)) =
      (written.map fun entry => (entry.1, entry.2.read)).map
        fun entry => (entry.1.name.toList, entry.2) := by
    rw [← zip_members named, ← written_eq, List.map_map, List.map_map]
    rfl
  have once : ((members.map fun field => (field.1.toList, field.2.read)).map Prod.fst).Nodup := by
    have names : (members.map fun field => (field.1.toList, field.2.read)).map Prod.fst =
        (fields.map Field.name).map String.toList := by
      rw [← named, List.map_map, List.map_map]
      rfl
    rw [names]
    exact List.Nodup.map (fun left right same => String.toList_inj.mp same) distinct
  unfold decodeStrict
  rw [parse_object]
  show (if _ then _ else _) = _
  rw [if_pos once, read, decodeFields_written distinct known, List.foldlM_map]

end Json

end SlotsGame.Theory
