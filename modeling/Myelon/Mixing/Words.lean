/-
Operations on words that lose nothing.

Hashes and pseudo random generators are chains of such operations. Each of them is injective,
so a chain is, and a hash that folds one over the bytes of a message tells any two messages
apart that differ in one byte.
-/

import Mathlib.Data.BitVec
import Mathlib.Dynamics.PeriodicPts.Lemmas

namespace Mixing

open Function

variable {width : Nat}

theorem xor_injective (mask : BitVec width) : Injective (· ^^^ mask) :=
  fun _ _ same => (BitVec.xor_left_inj mask).mp same

theorem mul_injective {multiplier inverse : BitVec width}
    (unit : multiplier * inverse = BitVec.ofNat width 1) :
    Injective (· * multiplier) := by
  intro left right same
  have undone := congrArg (· * inverse) same
  simpa only [BitVec.mul_assoc, unit, BitVec.mul_one] using undone

theorem rotateLeft_injective (amount : Nat) :
    Injective (fun word : BitVec width => word.rotateLeft amount) := by
  intro left right same
  apply BitVec.eq_of_getLsbD_eq
  intro index inside
  have turn : amount % width < width := Nat.mod_lt _ (by omega)
  have bits (place : Nat) := congrArg (BitVec.getLsbD · place) same
  simp only [BitVec.getLsbD_rotateLeft] at bits
  by_cases low : index < width - amount % width
  · have moved := bits (index + amount % width)
    have beyond : ¬ index + amount % width < amount % width := by omega
    have place : index + amount % width < width := by omega
    simpa only [beyond, place, decide_false, decide_true, cond_false, Bool.true_and,
      Nat.add_sub_cancel] using moved
  · have moved := bits (index - (width - amount % width))
    have wrapped : index - (width - amount % width) < amount % width := by omega
    have place : width - amount % width + (index - (width - amount % width)) = index := by omega
    simpa only [wrapped, place, decide_true, cond_true] using moved

/-! ### Shifting a word over itself -/

theorem eq_zero_of_eq_shiftLeft {word : BitVec width} {amount : Nat} (positive : 0 < amount)
    (same : word = word <<< amount) : word = BitVec.ofNat width 0 := by
  apply BitVec.eq_of_getLsbD_eq
  intro index
  induction index using Nat.strong_induction_on with
  | _ index ih =>
    intro inside
    rw [same, BitVec.getLsbD_shiftLeft, BitVec.getLsbD_zero]
    by_cases low : index < amount
    · simp only [low, decide_true, Bool.not_true, Bool.and_false, Bool.false_and]
    · rw [ih (index - amount) (by omega) (by omega), BitVec.getLsbD_zero, Bool.and_false]

theorem eq_zero_of_eq_shiftRight {word : BitVec width} {amount : Nat} (positive : 0 < amount)
    (same : word = word >>> amount) : word = BitVec.ofNat width 0 := by
  have value : word.toNat = word.toNat / 2 ^ amount := by
    rw [← Nat.shiftRight_eq_div_pow, ← BitVec.toNat_ushiftRight, ← same]
  apply BitVec.eq_of_toNat_eq
  rw [BitVec.toNat_zero]
  by_contra nonzero
  have smaller := Nat.div_lt_self (Nat.pos_of_ne_zero nonzero)
    (Nat.one_lt_two_pow (Nat.ne_of_gt positive))
  omega

/-- A word over which it is spread in a linear way can be told from the outcome, where only the
zero word is its own spread. -/
theorem xorSpread_injective {spread : BitVec width → BitVec width}
    (linear : ∀ left right, spread (left ^^^ right) = spread left ^^^ spread right)
    (fixed : ∀ word, word = spread word → word = BitVec.ofNat width 0) :
    Injective (fun word => word ^^^ spread word) := by
  intro left right same
  have difference : left ^^^ right = spread (left ^^^ right) := by
    calc left ^^^ right
        = (left ^^^ spread left) ^^^ spread left ^^^ right := by
          rw [BitVec.xor_assoc left, BitVec.xor_self, BitVec.xor_zero]
      _ = (right ^^^ spread right) ^^^ spread left ^^^ right := by
          rw [show left ^^^ spread left = right ^^^ spread right from same]
      _ = (right ^^^ right) ^^^ (spread left ^^^ spread right) := by ac_rfl
      _ = spread (left ^^^ right) := by
          rw [BitVec.xor_self, BitVec.zero_xor, linear]
  exact BitVec.xor_eq_zero_iff.mp (fixed _ difference)

theorem xorShiftLeft_injective {amount : Nat} (positive : 0 < amount) :
    Injective (fun word : BitVec width => word ^^^ (word <<< amount)) :=
  xorSpread_injective (fun _ _ => BitVec.shiftLeft_xor_distrib _ _ _)
    (fun _ same => eq_zero_of_eq_shiftLeft positive same)

theorem xorShiftRight_injective {amount : Nat} (positive : 0 < amount) :
    Injective (fun word : BitVec width => word ^^^ (word >>> amount)) :=
  xorSpread_injective (fun _ _ => BitVec.ushiftRight_xor_distrib _ _ _)
    (fun _ same => eq_zero_of_eq_shiftRight positive same)

theorem injective_of_toBitVec {operation : UInt64 → UInt64} {bits : BitVec 64 → BitVec 64}
    (same : ∀ word, (operation word).toBitVec = bits word.toBitVec) (injective : Injective bits) :
    Injective operation := by
  intro left right equal
  apply UInt64.toBitVec_inj.mp
  apply injective
  rw [← same left, ← same right, equal]

theorem finite_word : Finite UInt64 :=
  Finite.of_injective (fun word : UInt64 => word.toBitVec.toFin) fun _ _ same =>
    UInt64.toBitVec_inj.mp (BitVec.toFin_inj.mp same)

/-! ### Folding a round over a message -/

section Folding

variable {State Letter : Type*} {round : State → Letter → State}

theorem foldl_injective (states : ∀ letter, Injective (round · letter)) (message : List Letter) :
    Injective (fun state => message.foldl round state) := by
  induction message with
  | nil => exact injective_id
  | cons letter rest ih =>
    intro left right same
    exact states letter (ih same)

theorem foldl_ne (states : ∀ letter, Injective (round · letter))
    (letters : ∀ state, Injective (round state)) (state : State) (before after : List Letter)
    {letter other : Letter} (differ : letter ≠ other) :
    (before ++ letter :: after).foldl round state ≠
      (before ++ other :: after).foldl round state := by
  rw [List.foldl_append, List.foldl_append]
  intro same
  exact differ (letters _ (foldl_injective states after same))

end Folding

/-! ### Generators -/

/-- The successive states of a generator that loses nothing, over finitely many states, come
back to where they began. -/
theorem returns {State : Type*} [Finite State] {next : State → State} (injective : Injective next)
    (seed : State) : ∃ period, 0 < period ∧ next^[period] seed = seed :=
  injective.mem_periodicPts seed

theorem iterate_ne {State : Type*} {next : State → State} (injective : Injective next)
    {stuck : State} (fixed : next stuck = stuck) {seed : State} (differ : seed ≠ stuck)
    (count : Nat) : next^[count] seed ≠ stuck := by
  intro same
  apply differ
  apply injective.iterate count
  rw [same, iterate_fixed fixed]

end Mixing
