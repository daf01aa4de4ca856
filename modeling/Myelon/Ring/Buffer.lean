/-
The slots of a ring buffer, and the arithmetic of sequences.

A sequence is an `i64`, so an integer that stays in range. Both backends place it in the slot
that the low bits of it name, so two sequences share a slot when they differ by a multiple of
the size.
-/

import Mathlib.Algebra.Order.Ring.Int

namespace Ring

def InRange (value : Int) : Prop := -2 ^ 63 ≤ value ∧ value < 2 ^ 63

instance (value : Int) : Decidable (InRange value) :=
  inferInstanceAs (Decidable (_ ∧ _))

def isPowOf2 (num : Nat) : Bool :=
  num != 0 && num &&& (num - 1) == 0

/-- A size which the constructors of both ring buffers accept. -/
structure RingSize where
  size : Nat
  isPowOf2 : Ring.isPowOf2 size = true
  inRange : size < 2 ^ 63

namespace RingSize

variable (ring : RingSize)

def indexMask : Nat := ring.size - 1

/-- The slot of a sequence, from its low bits. -/
def index (sequence : Int) : Nat := sequence.toNat &&& ring.indexMask

def wrapPoint (sequence : Int) : Int := sequence - ring.size

def freeSlots (producer highestReadByConsumers : Int) : Int :=
  highestReadByConsumers - ring.wrapPoint producer

theorem isPowerOfTwo : ring.size.isPowerOfTwo := by
  apply Nat.ne_zero_and_sub_one_eq_zero_iff_isPowerOfTwo.mp
  have accepted := ring.isPowOf2
  simp only [Ring.isPowOf2, Bool.and_eq_true, bne_iff_ne, beq_iff_eq] at accepted
  exact accepted

theorem size_pos : 0 < ring.size := Nat.pos_of_isPowerOfTwo ring.isPowerOfTwo

theorem index_eq_mod (sequence : Int) : ring.index sequence = sequence.toNat % ring.size := by
  obtain ⟨exponent, same⟩ := ring.isPowerOfTwo
  unfold index indexMask
  rw [same]
  exact Nat.and_two_pow_sub_one_eq_mod _ exponent

theorem index_ne {first second : Int} (nonnegative : 0 ≤ first) (before : first < second)
    (near : second < first + ring.size) : ring.index first ≠ ring.index second := by
  rw [index_eq_mod, index_eq_mod]
  intro same
  have divides := Nat.dvd_of_mod_eq_zero (Nat.sub_mod_eq_zero_of_mod_eq same.symm)
  have apart := Nat.le_of_dvd (by omega) divides
  omega

theorem freeSlots_eq (producer rear : Int) :
    ring.freeSlots producer rear = rear - producer + ring.size := by
  unfold freeSlots wrapPoint
  omega

end RingSize
end Ring
