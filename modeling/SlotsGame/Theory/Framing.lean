/-
# SlotsGame.Theory.Framing -- frames that delimit themselves

A frame delimits itself when what stands for a value can be told from whatever follows
it.  Such frames compose: one after the other (`pair`), behind a size of fixed length
(`sized`), up to a separator (`terminated`), and as a sequence (`sequence`, `frames`),
which is then injective although nothing separates its members.  Base64 without padding is injective in the same way, by its
groups of three bytes.
-/
import Mathlib.Data.List.Basic
import Mathlib.Data.Set.Function
import Mathlib.Logic.Function.Basic

namespace SlotsGame.Theory

set_option autoImplicit false

universe u v w

/-- What stands for a valid value can be told from whatever follows it. -/
def SelfDelimiting {α : Type u} {β : Type v} (valid : Set α) (frame : α → List β) : Prop :=
  ∀ ⦃left⦄, left ∈ valid → ∀ ⦃right⦄, right ∈ valid → ∀ ⦃first second : List β⦄,
    frame left ++ first = frame right ++ second → left = right ∧ first = second

namespace SelfDelimiting

variable {α : Type u} {β : Type v} {γ : Type w} {valid : Set α} {frame : α → List β}

/-- Frames of one length. -/
theorem of_length {length : Nat} (lengths : ∀ value, (frame value).length = length)
    (injective : valid.InjOn frame) : SelfDelimiting valid frame := by
  intro left leftValid right rightValid first second same
  obtain ⟨frames, rest⟩ := List.append_inj same ((lengths left).trans (lengths right).symm)
  exact ⟨injective leftValid rightValid frames, rest⟩

/-- A frame of something that determines the value. -/
theorem comap (framed : SelfDelimiting valid frame) {part : γ → α} {whole : Set γ}
    (maps : whole.MapsTo part valid) (injective : whole.InjOn part) :
    SelfDelimiting whole (frame ∘ part) := by
  intro left leftValid right rightValid first second same
  obtain ⟨parts, rest⟩ := framed (maps leftValid) (maps rightValid) same
  exact ⟨injective leftValid rightValid parts, rest⟩

/-- One frame after the other. -/
theorem pair {later : Set γ} {frameLater : γ → List β} (framed : SelfDelimiting valid frame)
    (framedLater : SelfDelimiting later frameLater) :
    SelfDelimiting (valid ×ˢ later) fun value => frame value.1 ++ frameLater value.2 := by
  rintro ⟨left, leftLater⟩ ⟨leftValid, leftLaterValid⟩ ⟨right, rightLater⟩
    ⟨rightValid, rightLaterValid⟩ first second same
  simp only [List.append_assoc] at same
  obtain ⟨heads, same⟩ := framed leftValid rightValid same
  obtain ⟨tails, rest⟩ := framedLater leftLaterValid rightLaterValid same
  exact ⟨Prod.ext heads tails, rest⟩

/-- Content behind its size. -/
theorem sized {sizes : Set Nat} {size : Nat → List β} (framed : SelfDelimiting sizes size) :
    SelfDelimiting {content : List β | content.length ∈ sizes}
      fun content => size content.length ++ content := by
  intro left leftValid right rightValid first second same
  simp only [List.append_assoc] at same
  obtain ⟨lengths, same⟩ := framed leftValid rightValid same
  exact List.append_inj same lengths

/-- A sequence of frames, none of which is empty, determines its members. -/
theorem sequence (framed : SelfDelimiting valid frame) (inhabited : ∀ value, frame value ≠ [])
    {left right : List α} (leftValid : ∀ value ∈ left, value ∈ valid)
    (rightValid : ∀ value ∈ right, value ∈ valid)
    (same : left.flatMap frame = right.flatMap frame) : left = right := by
  induction left generalizing right with
  | nil =>
      cases right with
      | nil => rfl
      | cons value rest =>
          rw [List.flatMap_nil, List.flatMap_cons] at same
          exact absurd (List.append_eq_nil_iff.mp same.symm).1 (inhabited value)
  | cons value rest ih =>
      cases right with
      | nil =>
          rw [List.flatMap_nil, List.flatMap_cons] at same
          exact absurd (List.append_eq_nil_iff.mp same).1 (inhabited value)
      | cons other tail =>
          rw [List.flatMap_cons, List.flatMap_cons] at same
          obtain ⟨heads, same⟩ := framed (leftValid value List.mem_cons_self)
            (rightValid other List.mem_cons_self) same
          rw [heads, ih (fun later held => leftValid later (List.mem_cons_of_mem _ held))
            (fun later held => rightValid later (List.mem_cons_of_mem _ held)) same]

/-- Content up to a separator. -/
theorem terminated (separator : β) :
    SelfDelimiting {content : List β | separator ∉ content}
      fun content => content ++ [separator] := by
  intro left leftClean
  induction left with
  | nil =>
      intro right rightClean first second same
      cases right with
      | nil => exact ⟨rfl, List.append_cancel_left same⟩
      | cons c tail =>
          have clash := (List.cons.inj same).1
          exact absurd List.mem_cons_self (clash ▸ rightClean)
  | cons c rest ih =>
      intro right rightClean first second same
      cases right with
      | nil =>
          have clash := (List.cons.inj same).1
          exact absurd List.mem_cons_self (clash ▸ leftClean)
      | cons other tail =>
          obtain ⟨heads, tails⟩ := List.cons.inj same
          have leftRest : separator ∉ rest := fun member =>
            leftClean (List.mem_cons_of_mem c member)
          have rightRest : separator ∉ tail := fun member =>
            rightClean (List.mem_cons_of_mem other member)
          obtain ⟨rests, after⟩ := ih leftRest rightRest tails
          exact ⟨by rw [heads, rests], after⟩

/-- Equally many frames are told from whatever follows them. -/
theorem frames (framed : SelfDelimiting valid frame) {left right : List α}
    (count : left.length = right.length) (leftValid : ∀ value ∈ left, value ∈ valid)
    (rightValid : ∀ value ∈ right, value ∈ valid) {first second : List β}
    (same : left.flatMap frame ++ first = right.flatMap frame ++ second) :
    left = right ∧ first = second := by
  induction left generalizing right with
  | nil =>
      obtain rfl := List.eq_nil_of_length_eq_zero count.symm
      exact ⟨rfl, same⟩
  | cons value rest ih =>
      cases right with
      | nil => cases count
      | cons other tail =>
          simp only [List.flatMap_cons, List.append_assoc] at same
          obtain ⟨heads, others⟩ := framed (leftValid value List.mem_cons_self)
            (rightValid other List.mem_cons_self) same
          obtain ⟨tails, after⟩ := ih (Nat.succ.inj count)
            (fun later held => leftValid later (List.mem_cons_of_mem _ held))
            (fun later held => rightValid later (List.mem_cons_of_mem _ held)) others
          exact ⟨by rw [heads, tails], after⟩

end SelfDelimiting

/-! ## Base64 -/

/-- The alphabet of base64 for URLs. -/
def urlAlphabet : List Char :=
  "ABCDEFGHIJKLMNOPQRSTUVWXYZabcdefghijklmnopqrstuvwxyz0123456789-_".toList

def urlChar (sextet : Nat) : Char := urlAlphabet.getD sextet '='

/-- Base64 for URLs without padding. -/
def rawURLEncode : List (Fin 256) → List Char
  | [] => []
  | [first] => [urlChar (first / 4), urlChar (first % 4 * 16)]
  | [first, second] =>
      [urlChar (first / 4), urlChar (first % 4 * 16 + second / 16), urlChar (second % 16 * 4)]
  | first :: second :: third :: rest =>
      urlChar (first / 4) :: urlChar (first % 4 * 16 + second / 16) ::
        urlChar (second % 16 * 4 + third / 64) :: urlChar (third % 64) :: rawURLEncode rest

theorem urlChar_fin_inj : ∀ left right : Fin 64, urlChar left = urlChar right → left = right := by
  decide +kernel

theorem urlChar_inj {left right : Nat} (leftSextet : left < 64) (rightSextet : right < 64)
    (same : urlChar left = urlChar right) : left = right :=
  Fin.mk.inj (urlChar_fin_inj ⟨left, leftSextet⟩ ⟨right, rightSextet⟩ same)

theorem rawURLEncode_injective : Function.Injective rawURLEncode := by
  intro left
  induction left using rawURLEncode.induct with
  | case1 =>
      intro right same
      match right with
      | [] => rfl
      | [_] => cases same
      | [_, _] => cases same
      | _ :: _ :: _ :: _ => cases same
  | case2 first =>
      intro right same
      match right with
      | [] => cases same
      | [other] =>
          simp only [rawURLEncode, List.cons.injEq, and_true] at same
          have high := urlChar_inj (by omega) (by omega) same.1
          have low := urlChar_inj (by omega) (by omega) same.2
          congr 1
          omega
      | [_, _] => simp [rawURLEncode] at same
      | _ :: _ :: _ :: _ => simp [rawURLEncode] at same
  | case3 first second =>
      intro right same
      match right with
      | [] => cases same
      | [_] => simp [rawURLEncode] at same
      | [other, another] =>
          simp only [rawURLEncode, List.cons.injEq, and_true] at same
          have high := urlChar_inj (by omega) (by omega) same.1
          have middle := urlChar_inj (by omega) (by omega) same.2.1
          have low := urlChar_inj (by omega) (by omega) same.2.2
          have firsts : first = other := by omega
          have seconds : second = another := by omega
          rw [firsts, seconds]
      | _ :: _ :: _ :: _ => simp [rawURLEncode] at same
  | case4 first second third rest ih =>
      intro right same
      match right with
      | [] => cases same
      | [_] => simp [rawURLEncode] at same
      | [_, _] => simp [rawURLEncode] at same
      | other :: another :: last :: tail =>
          simp only [rawURLEncode, List.cons.injEq] at same
          obtain ⟨one, two, three, four, same⟩ := same
          have one := urlChar_inj (by omega) (by omega) one
          have two := urlChar_inj (by omega) (by omega) two
          have three := urlChar_inj (by omega) (by omega) three
          have four := urlChar_inj (by omega) (by omega) four
          have firsts : first = other := by omega
          have seconds : second = another := by omega
          have thirds : third = last := by omega
          rw [firsts, seconds, thirds, ih same]

end SlotsGame.Theory
