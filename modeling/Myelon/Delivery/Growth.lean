/-
A total that grows from entry to entry.

Each entry of a log notes the total when it was made. What the total grew by before an
entry is booked to that entry, so the growth of the whole log is what is booked to the
entries that meet a test and to those that do not.
-/

import Mathlib.Data.List.Basic

namespace Delivery

variable {Entry : Type}

def total : Nat → List (Nat × Entry) → Nat
  | start, [] => start
  | _, entry :: rest => total entry.1 rest

/-- The growth that is booked to the entries which meet the test. -/
def grown (meets : Entry → Bool) : Nat → List (Nat × Entry) → Nat
  | _, [] => 0
  | start, entry :: rest =>
      (if meets entry.2 = true then entry.1 - start else 0) + grown meets entry.1 rest

/-- The total never falls. -/
def Ascending : Nat → List (Nat × Entry) → Prop
  | _, [] => True
  | start, entry :: rest => start ≤ entry.1 ∧ Ascending entry.1 rest

def AllMeet (meets : Entry → Bool) : Nat → List (Nat × Entry) → Prop
  | _, [] => True
  | start, entry :: rest =>
      (meets entry.2 = false → entry.1 = start) ∧ AllMeet meets entry.1 rest

variable {meets : Entry → Bool}

theorem total_append (start : Nat) (first second : List (Nat × Entry)) :
    total start (first ++ second) = total (total start first) second := by
  induction first generalizing start with
  | nil => rfl
  | cons entry rest ih => exact ih entry.1

theorem grown_append (start : Nat) (first second : List (Nat × Entry)) :
    grown meets start (first ++ second) =
      grown meets start first + grown meets (total start first) second := by
  induction first generalizing start with
  | nil =>
      simp only [List.nil_append, grown, total]
      omega
  | cons entry rest ih =>
      simp only [List.cons_append, grown, total, ih entry.1]
      omega

theorem ascending_append (start : Nat) (first second : List (Nat × Entry)) :
    Ascending start (first ++ second) ↔
      Ascending start first ∧ Ascending (total start first) second := by
  induction first generalizing start with
  | nil =>
      simp only [List.nil_append, Ascending, total, true_and]
  | cons entry rest ih =>
      simp only [List.cons_append, Ascending, total, ih entry.1, and_assoc]

theorem grown_le (start : Nat) (log : List (Nat × Entry)) (ascending : Ascending start log) :
    start + grown meets start log ≤ total start log := by
  induction log generalizing start with
  | nil => exact Nat.le_refl start
  | cons entry rest ih =>
      obtain ⟨first, later⟩ := ascending
      have behind := ih entry.1 later
      simp only [grown, total]
      split <;> omega

theorem allMeet_of_all (start : Nat) {log : List (Nat × Entry)}
    (all : ∀ entry ∈ log, meets entry.2 = true) : AllMeet meets start log := by
  induction log generalizing start with
  | nil => trivial
  | cons entry rest ih =>
      constructor
      · intro fails
        rw [all entry List.mem_cons_self] at fails
        cases fails
      · exact ih entry.1 (fun other member => all other (List.mem_cons_of_mem entry member))

/-- The test accounts for the whole growth just if nothing is booked beside it. -/
theorem grown_eq_iff (start : Nat) (log : List (Nat × Entry)) (ascending : Ascending start log) :
    start + grown meets start log = total start log ↔ AllMeet meets start log := by
  induction log generalizing start with
  | nil => exact ⟨fun _ => trivial, fun _ => rfl⟩
  | cons entry rest ih =>
      obtain ⟨first, later⟩ := ascending
      have behind : entry.1 + grown meets entry.1 rest ≤ total entry.1 rest := grown_le _ _ later
      have rest_iff := ih entry.1 later
      simp only [grown, total, AllMeet]
      rw [← rest_iff]
      cases meets entry.2 with
      | true =>
          simp only [if_true, Bool.true_eq_false, false_implies, true_and]
          omega
      | false =>
          simp only [Bool.false_eq_true, if_false, true_implies]
          omega

end Delivery
