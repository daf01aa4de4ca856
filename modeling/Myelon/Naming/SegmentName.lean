/-
Generated names of segments.

A name is what is left of a prefix and eight digits to the base 36. The digits come from
the clock, the process and a counter of the calls, which are mixed into one word; so two
calls get one name where what the clock has moved by undoes what the counter has.
-/

import Mathlib.Data.List.GetD
import Mathlib.Data.List.Nodup
import Mathlib.Data.Nat.ModEq

namespace Naming

def portableShmSegmentNameMaxLen : Nat := 14

def portableShmSegmentSuffixLen : Nat := 8

def portableShmSegmentSuffixModulus : Nat := 2821109907456

def base36Alphabet : List Char := "0123456789abcdefghijklmnopqrstuvwxyz".toList

def base36Digit (value : Nat) : Char := base36Alphabet.getD (value % 36) '0'

/-- The slots are filled from the last one on. -/
def encodeBase36 (value : Nat) : Nat → List Char
  | 0 => []
  | width + 1 => encodeBase36 (value / 36) width ++ [base36Digit value]

/-- What is kept of a prefix. One of which nothing is kept becomes a letter. -/
def prefixLetters (label : String) : List Char :=
  ((label.toList.filter Char.isAlphanum).map Char.toLower).take
    (portableShmSegmentNameMaxLen - portableShmSegmentSuffixLen)

def shortPrefix (label : String) : List Char :=
  if (prefixLetters label).isEmpty then ['d'] else prefixLetters label

/-- The nanoseconds since the epoch, as far as they fit into a word. A clock before the
epoch has none. -/
def timeSeed (clock : Option Nat) : BitVec 64 :=
  match clock with
  | some nanos => BitVec.ofNat 64 nanos
  | none => 0

def pidSeed (processId : BitVec 32) : BitVec 64 := processId.zeroExtend 64

def suffixSeed (clock : Option Nat) (processId : BitVec 32) (call : BitVec 64) : Nat :=
  (timeSeed clock ^^^ (pidSeed processId).rotateLeft 13 ^^^ call.rotateLeft 27).toNat %
    portableShmSegmentSuffixModulus

/-- The name that the call with this number gets. -/
def portableShmSegmentName (label : String) (clock : Option Nat) (processId : BitVec 32)
    (call : BitVec 64) : String :=
  String.ofList (shortPrefix label ++
    encodeBase36 (suffixSeed clock processId call) portableShmSegmentSuffixLen)

/-! ### Digits -/

theorem base36Digit_member (value : Nat) : base36Digit value ∈ base36Alphabet := by
  have inside : value % 36 < base36Alphabet.length := Nat.mod_lt value (by decide)
  unfold base36Digit
  rw [List.getD_eq_getElem base36Alphabet '0' inside]
  exact List.getElem_mem inside

theorem base36Digit_inj {first second : Nat} (same : base36Digit first = base36Digit second) :
    first % 36 = second % 36 := by
  have distinct : base36Alphabet.Nodup := by decide
  have inside : first % 36 < base36Alphabet.length := Nat.mod_lt first (by decide)
  have insideToo : second % 36 < base36Alphabet.length := Nat.mod_lt second (by decide)
  unfold base36Digit at same
  rw [List.getD_eq_getElem base36Alphabet '0' inside,
    List.getD_eq_getElem base36Alphabet '0' insideToo] at same
  exact (List.Nodup.getElem_inj_iff distinct).mp same

@[simp] theorem encodeBase36_length (value width : Nat) :
    (encodeBase36 value width).length = width := by
  induction width generalizing value with
  | zero => rfl
  | succ width ih =>
      simp only [encodeBase36, List.length_append, ih, List.length_singleton]

theorem encodeBase36_alphanumeric (value width : Nat) :
    ∀ digit ∈ encodeBase36 value width, digit.isAlphanum = true := by
  have letters : base36Alphabet.all Char.isAlphanum = true := by decide
  induction width generalizing value with
  | zero =>
      intro digit member
      cases member
  | succ width ih =>
      intro digit member
      rcases List.mem_append.mp member with before | last
      · exact ih (value / 36) digit before
      · rw [List.mem_singleton.mp last]
        exact List.all_eq_true.mp letters _ (base36Digit_member value)

theorem encodeBase36_inj {width first second : Nat}
    (same : encodeBase36 first width = encodeBase36 second width)
    (fits : first < 36 ^ width) (fitsToo : second < 36 ^ width) : first = second := by
  induction width generalizing first second with
  | zero => omega
  | succ width ih =>
      have parts := List.append_inj' same rfl
      have quotients : first / 36 = second / 36 := by
        apply ih parts.1
        · rw [Nat.pow_succ] at fits
          exact Nat.div_lt_of_lt_mul (Nat.mul_comm _ 36 ▸ fits)
        · rw [Nat.pow_succ] at fitsToo
          exact Nat.div_lt_of_lt_mul (Nat.mul_comm _ 36 ▸ fitsToo)
      have remainders : first % 36 = second % 36 := by
        apply base36Digit_inj
        injection parts.2
      omega

/-! ### Prefixes -/

theorem toLower_alphanumeric {character : Char} (letter : character.isAlphanum = true) :
    character.toLower.isAlphanum = true := by
  by_cases upper : 'A'.val ≤ character.val ∧ character.val ≤ 'Z'.val
  · have lower : character.toLower.val = character.val + ('a'.val - 'A'.val) := by
      unfold Char.toLower
      rw [dif_pos upper]
    have first : 65 ≤ character.val.toNat := UInt32.le_iff_toNat_le.mp upper.1
    have last : character.val.toNat ≤ 90 := UInt32.le_iff_toNat_le.mp upper.2
    have moved : character.toLower.val.toNat = character.val.toNat + 32 := by
      rw [lower, UInt32.toNat_add]
      change (character.val.toNat + 32) % 2 ^ 32 = _
      omega
    have from' : 'a'.val ≤ character.toLower.val := by
      apply UInt32.le_iff_toNat_le.mpr
      rw [moved]
      change 97 ≤ _
      omega
    have upTo : character.toLower.val ≤ 'z'.val := by
      apply UInt32.le_iff_toNat_le.mpr
      rw [moved]
      change _ ≤ 122
      omega
    have isLower : character.toLower.isLower = true := by
      change (decide _ && decide _) = true
      rw [Bool.and_eq_true, decide_eq_true_eq, decide_eq_true_eq]
      exact ⟨from', upTo⟩
    change (character.toLower.isUpper || character.toLower.isLower ||
      character.toLower.isDigit) = true
    rw [isLower, Bool.or_true, Bool.true_or]
  · have same : character.toLower = character := by
      unfold Char.toLower
      rw [dif_neg upper]
    rw [same]
    exact letter

theorem shortPrefix_length (label : String) : (shortPrefix label).length ≤ 6 := by
  unfold shortPrefix
  split
  · decide
  · exact List.length_take_le 6 _

theorem shortPrefix_alphanumeric (label : String) :
    ∀ character ∈ shortPrefix label, character.isAlphanum = true := by
  unfold shortPrefix
  split
  · intro character member
    rw [List.mem_singleton.mp member]
    rfl
  · intro character member
    obtain ⟨origin, kept, rfl⟩ := List.mem_map.mp (List.mem_of_mem_take member)
    exact toLower_alphanumeric (List.mem_filter.mp kept).2

/-! ### Names -/

section Names

variable (label : String) (clock : Option Nat) (processId : BitVec 32) (call : BitVec 64)

theorem segmentName_toList : (portableShmSegmentName label clock processId call).toList =
    shortPrefix label ++ encodeBase36 (suffixSeed clock processId call) 8 :=
  String.toList_ofList

theorem segmentName_length :
    (portableShmSegmentName label clock processId call).toList.length ≤ 14 := by
  have kept := shortPrefix_length label
  rw [segmentName_toList, List.length_append, encodeBase36_length]
  omega

theorem segmentName_alphanumeric :
    ∀ character ∈ (portableShmSegmentName label clock processId call).toList,
      character.isAlphanum = true := by
  intro character member
  rw [segmentName_toList] at member
  rcases List.mem_append.mp member with kept | digit
  · exact shortPrefix_alphanumeric label character kept
  · exact encodeBase36_alphanumeric _ 8 character digit

theorem suffixSeed_lt : suffixSeed clock processId call < 36 ^ 8 :=
  Nat.mod_lt _ (by decide)

end Names

theorem segmentName_eq_iff (label : String) (clock later : Option Nat) (processId : BitVec 32)
    (first second : BitVec 64) :
    portableShmSegmentName label clock processId first =
        portableShmSegmentName label later processId second ↔
      suffixSeed clock processId first = suffixSeed later processId second := by
  constructor
  · intro same
    have letters := congrArg String.toList same
    rw [segmentName_toList, segmentName_toList] at letters
    exact encodeBase36_inj (List.append_cancel_left letters)
      (suffixSeed_lt clock processId first) (suffixSeed_lt later processId second)
  · intro same
    unfold portableShmSegmentName
    rw [same]

/-- The two readings of the clock clash for two calls: once the numbers of the process and
of the calls are mixed in, they are a multiple of `36 ^ 8` apart. -/
def Clash (processId : BitVec 32) (first second : BitVec 64) (clock later : BitVec 64) : Prop :=
  ∃ multiple : Int,
    ((later ^^^ (pidSeed processId).rotateLeft 13 ^^^ second.rotateLeft 27).toNat : Int) =
      (clock ^^^ (pidSeed processId).rotateLeft 13 ^^^ first.rotateLeft 27).toNat +
        36 ^ 8 * multiple

/-- A generated name is valid, and two of them differ exactly where the clock does not
clash. -/
theorem segmentNames_differ_iff (label : String) (clock later : Option Nat)
    (processId : BitVec 32) (first second : BitVec 64) :
    ((portableShmSegmentName label clock processId first).toList.length ≤ 14 ∧
      ∀ character ∈ (portableShmSegmentName label clock processId first).toList,
        character.isAlphanum = true) ∧
    (portableShmSegmentName label clock processId first ≠
        portableShmSegmentName label later processId second ↔
      ¬ Clash processId first second (timeSeed clock) (timeSeed later)) := by
  constructor
  · exact ⟨segmentName_length label clock processId first,
      segmentName_alphanumeric label clock processId first⟩
  · apply not_congr
    rw [segmentName_eq_iff]
    unfold suffixSeed Clash
    generalize (timeSeed clock ^^^ _ ^^^ _).toNat = left
    generalize (timeSeed later ^^^ _ ^^^ _).toNat = right
    constructor
    · intro same
      have congruent : left ≡ right [MOD portableShmSegmentSuffixModulus] := same
      obtain ⟨multiple, apart⟩ := Nat.modEq_iff_dvd.mp congruent
      refine ⟨multiple, ?_⟩
      change (right : Int) - left = 36 ^ 8 * multiple at apart
      omega
    · intro ⟨multiple, apart⟩
      have congruent : left ≡ right [MOD portableShmSegmentSuffixModulus] := by
        apply Nat.modEq_iff_dvd.mpr
        refine ⟨multiple, ?_⟩
        change (right : Int) - left = 36 ^ 8 * multiple
        omega
      exact congruent

/-- Two calls, the second one `2 ^ 27` nanoseconds after the first. -/
theorem segmentNames_same :
    portableShmSegmentName "bench" (some 1700000000000000000) 4242 0 =
      portableShmSegmentName "bench" (some 1700000000134217728) 4242 1 := by
  decide +kernel

end Naming
