/-
Words in memory, least significant byte first.

A word of so many bytes is written at the front of what follows it, and reading as many
bytes gives it back with what follows. A record is written one word after the other and
read in the same order.
-/

import Mathlib.Algebra.Order.Ring.Int

namespace Layout

def wordBytes : Nat → Nat → List UInt8
  | 0, _ => []
  | width + 1, number => UInt8.ofNat number :: wordBytes width (number / 256)

def wordValue : List UInt8 → Nat
  | [] => 0
  | byte :: rest => byte.toNat + 256 * wordValue rest

def splitWord (width : Nat) (bytes : List UInt8) : Nat × List UInt8 :=
  (wordValue (bytes.take width), bytes.drop width)

@[simp] theorem wordBytes_length (width number : Nat) :
    (wordBytes width number).length = width := by
  induction width generalizing number with
  | zero => rfl
  | succ width ih => simp only [wordBytes, List.length_cons, ih]

theorem wordValue_wordBytes (width number : Nat) :
    wordValue (wordBytes width number) = number % 256 ^ width := by
  induction width generalizing number with
  | zero => simp only [wordBytes, wordValue, Nat.pow_zero, Nat.mod_one]
  | succ width ih =>
      have low : (UInt8.ofNat number).toNat = number % 256 := UInt8.toNat_ofNat'
      rw [wordBytes, wordValue, ih, low, Nat.pow_succ', Nat.mod_mul]

@[simp] theorem splitWord_append (width number : Nat) (rest : List UInt8) :
    splitWord width (wordBytes width number ++ rest) = (number % 256 ^ width, rest) := by
  have front : (wordBytes width number ++ rest).take width = wordBytes width number :=
    List.take_left' (wordBytes_length width number)
  have behind : (wordBytes width number ++ rest).drop width = rest :=
    List.drop_left' (wordBytes_length width number)
  rw [splitWord, front, behind, wordValue_wordBytes]

end Layout
