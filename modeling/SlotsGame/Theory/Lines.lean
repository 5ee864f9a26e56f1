/-
# SlotsGame.Theory.Lines -- records that end in a letter of their own

A content of `joined` records is read back record by record, as long as no record
contains the letter that ends it.  What the records are of does not matter.
-/
import Mathlib.Data.List.Basic
import Mathlib.Data.List.Induction

namespace SlotsGame.Theory

set_option autoImplicit false

section Lines

variable {α : Type} (stop : α)

/-- Each record, and the letter after it. -/
def joined (records : List (List α)) : List α := records.flatMap fun record => record ++ [stop]

theorem joined_append (front back : List (List α)) :
    joined stop (front ++ back) = joined stop front ++ joined stop back := by
  simp [joined]

theorem joined_cons (record : List α) (rest : List (List α)) :
    joined stop (record :: rest) = record ++ stop :: joined stop rest := by
  simp [joined]

theorem joined_singleton (record : List α) : joined stop [record] = record ++ [stop] := by
  simp [joined]

variable [DecidableEq α]

/-- The records of a content; the last may lack its end. -/
def scanned (started : List α) : List α → List (List α)
  | [] => if started = [] then [] else [started]
  | letter :: rest =>
      if letter = stop then started :: scanned [] rest else scanned (started ++ [letter]) rest

/-- A content that ends in the middle of no record. -/
def complete (content : List α) : Bool :=
  match content.getLast? with
  | none => true
  | some last => last == stop

theorem scanned_record {record : List α} (unbroken : stop ∉ record) (started rest : List α) :
    scanned stop started (record ++ stop :: rest) = (started ++ record) :: scanned stop [] rest := by
  induction record generalizing started with
  | nil => simp [scanned]
  | cons letter record ih =>
      simp only [List.mem_cons, not_or] at unbroken
      rw [List.cons_append, scanned, if_neg (Ne.symm unbroken.1), ih unbroken.2,
        List.append_assoc, List.singleton_append]

/-- Reading undoes joining. -/
theorem scanned_joined {records : List (List α)} (unbroken : ∀ record ∈ records, stop ∉ record) :
    scanned stop [] (joined stop records) = records := by
  induction records with
  | nil => rfl
  | cons record rest ih =>
      have first := unbroken record List.mem_cons_self
      have later := ih fun other member => unbroken other (List.mem_cons_of_mem _ member)
      rw [joined_cons, scanned_record stop first, List.nil_append, later]

theorem scanned_unbroken {started content : List α} (fresh : stop ∉ started) :
    ∀ record ∈ scanned stop started content, stop ∉ record := by
  induction content generalizing started with
  | nil =>
      intro record member
      rw [scanned] at member
      split at member
      · cases member
      · rwa [List.mem_singleton.mp member]
  | cons letter rest ih =>
      rw [scanned]
      split
      · rintro record (_ | ⟨_, later⟩)
        · exact fresh
        · exact ih List.not_mem_nil record later
      · rename_i other
        refine ih ?_
        simp only [List.mem_append, List.mem_singleton, not_or]
        exact ⟨fresh, fun same => other same.symm⟩

theorem complete_joined (records : List (List α)) : complete stop (joined stop records) = true := by
  induction records using List.reverseRecOn with
  | nil => rfl
  | append_singleton front last _ =>
      rw [joined_append, joined_singleton, complete, ← List.append_assoc, List.getLast?_concat]
      exact beq_self_eq_true stop

end Lines

end SlotsGame.Theory
