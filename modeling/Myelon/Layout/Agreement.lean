/-
What a creator and an attacher make of one header.

The header is read as it was written. The sizes in it are compared, the alignment is
not: an attacher with a larger one computes a payload of its own, and where the mapping
is long enough nobody notices.
-/

import Myelon.Layout.Header

namespace Layout

/-! ### A header is read as it was written -/

theorem uint16_word (value : UInt16) : UInt16.ofNat (value.toNat % 256 ^ 2) = value := by
  have small : value.toNat < 256 ^ 2 := by
    have bound := value.toNat_lt
    omega
  rw [Nat.mod_eq_of_lt small, UInt16.ofNat_toNat]

theorem uint32_word (value : UInt32) : UInt32.ofNat (value.toNat % 256 ^ 4) = value := by
  have small : value.toNat < 256 ^ 4 := by
    have bound := value.toNat_lt
    omega
  rw [Nat.mod_eq_of_lt small, UInt32.ofNat_toNat]

theorem uint64_word (value : UInt64) : UInt64.ofNat (value.toNat % 256 ^ 8) = value := by
  have small : value.toNat < 256 ^ 8 := by
    have bound := value.toNat_lt
    omega
  rw [Nat.mod_eq_of_lt small, UInt64.ofNat_toNat]

theorem bytesOfHeader_length {header : LayoutHeader} (magic : header.magic.length = 8) :
    (bytesOfHeader header).length = headerSize := by
  simp only [bytesOfHeader, List.length_append, wordBytes_length, magic]
  rfl

theorem headerAt_bytes {header : LayoutHeader} (rest : List UInt8)
    (magic : header.magic.length = 8) : headerAt (bytesOfHeader header ++ rest) = header := by
  have front : (bytesOfHeader header ++ rest).take 8 = header.magic := by
    rw [bytesOfHeader, List.append_assoc]
    exact List.take_left' magic
  have behind : ∀ later : List UInt8, (header.magic ++ later).drop 8 = later :=
    fun later => List.drop_left' magic
  unfold headerAt
  rw [front]
  simp only [bytesOfHeader, List.append_assoc, behind, splitWord_append, uint16_word,
    uint32_word, uint64_word]

/-! ### Where a payload begins -/

/-- The first multiple of the alignment behind the header. -/
def begins (alignment : UInt64) : UInt64 :=
  if alignment ≤ 8 then 56 else max 64 alignment

def effective (alignment : UInt64) : UInt64 :=
  max (max alignment layoutHeaderAlignment) headerAlignmentMin

theorem ok_of_toOption {α : Type} {outcome : Outcome α} {value : α}
    (found : outcome.toOption = some value) : outcome = .ok value := by
  cases outcome with
  | error failure => cases found
  | ok other => rw [Option.some.inj found]

theorem payloadOffset_power (exponent : Fin 64) :
    (payloadOffset (2 ^ exponent.val)).toOption = some (begins (2 ^ exponent.val)) := by
  revert exponent
  decide +kernel

theorem power_toNat (exponent : Fin 64) :
    ((2 : UInt64) ^ exponent.val).toNat = 2 ^ exponent.val := by
  revert exponent
  decide +kernel

theorem power_of_isPowerOfTwo {value : UInt64} (power : isPowerOfTwo value = true) :
    ∃ exponent : Fin 64, value = 2 ^ exponent.val := by
  simp only [isPowerOfTwo, Bool.and_eq_true, bne_iff_ne, beq_iff_eq] at power
  obtain ⟨positive, alone⟩ := power
  have nonzero : value.toNat ≠ 0 := fun zero => positive (UInt64.toNat_inj.mp zero)
  have one : (1 : UInt64) ≤ value := by
    rw [UInt64.le_iff_toNat_le]
    change 1 ≤ value.toNat
    omega
  have bits : value.toNat &&& (value.toNat - 1) = 0 := by
    have numbers := congrArg UInt64.toNat alone
    rw [UInt64.toNat_and, UInt64.toNat_sub_of_le _ _ one] at numbers
    exact numbers
  obtain ⟨exponent, same⟩ :=
    Nat.ne_zero_and_sub_one_eq_zero_iff_isPowerOfTwo.mp ⟨nonzero, bits⟩
  have small : exponent < 64 := by
    have bound := value.toNat_lt
    rw [same] at bound
    exact (Nat.pow_lt_pow_iff_right (by decide)).mp bound
  refine ⟨⟨exponent, small⟩, UInt64.toNat_inj.mp ?_⟩
  rw [same]
  exact (power_toNat ⟨exponent, small⟩).symm

theorem payloadOffset_ok {alignment : UInt64} (power : isPowerOfTwo alignment = true) :
    payloadOffset alignment = .ok (begins alignment) := by
  obtain ⟨exponent, rfl⟩ := power_of_isPowerOfTwo power
  exact ok_of_toOption (payloadOffset_power exponent)

theorem max_eq (left right : UInt64) : max left right = if left ≤ right then right else left :=
  rfl

theorem max_isPowerOfTwo {left right : UInt64} (power : isPowerOfTwo left = true)
    (powerToo : isPowerOfTwo right = true) : isPowerOfTwo (max left right) = true := by
  rw [max_eq]
  split
  · exact powerToo
  · exact power

theorem effective_isPowerOfTwo {alignment : UInt64} (power : isPowerOfTwo alignment = true) :
    isPowerOfTwo (effective alignment) = true :=
  max_isPowerOfTwo (max_isPowerOfTwo power (by decide)) (by decide)

def needed (payloadSize alignment : UInt64) : Nat :=
  payloadSize.toNat + (begins alignment).toNat

theorem makeContract_iff {payloadSize alignment : UInt64} {contract : LayoutContract}
    (power : isPowerOfTwo alignment = true) : makeContract payloadSize alignment = .ok contract ↔
      needed payloadSize alignment < 2 ^ 64 ∧
      contract = { payloadOffset := begins alignment
                   totalSize := payloadSize + begins alignment } := by
  rw [makeContract, bind_ok_iff, payloadOffset_ok power]
  constructor
  · rintro ⟨offset, same, done⟩
    cases same
    unfold checkedAdd at done
    by_cases fits : payloadSize.toNat + (begins alignment).toNat < 2 ^ 64
    · rw [if_pos fits] at done
      cases done
      exact ⟨fits, rfl⟩
    · rw [if_neg fits] at done
      cases done
  · rintro ⟨fits, rfl⟩
    refine ⟨_, rfl, ?_⟩
    have added : checkedAdd payloadSize (begins alignment) =
        some (payloadSize + begins alignment) := if_pos fits
    rw [added]
    rfl

theorem total_toNat {payloadSize alignment : UInt64}
    (fits : needed payloadSize alignment < 2 ^ 64) :
    (payloadSize + begins alignment).toNat = needed payloadSize alignment := by
  rw [UInt64.toNat_add]
  exact Nat.mod_eq_of_lt fits

/-! ### Where the two sides succeed -/

def unsealed (parameters : Parameters) : LayoutHeader :=
  { magic := layoutMagic
    version := currentLayoutVersion
    kind := parameters.kind.code
    headerSize := UInt16.ofNat headerSize
    alignment := (effective parameters.payloadAlignment).toUInt16
    payloadSize := parameters.payloadSize
    elementSize := parameters.elementSize
    capacity := parameters.capacity
    reserved := 0
    checksum := 0
    reserved2 := 0 }

def headerOf (parameters : Parameters) : LayoutHeader :=
  { unsealed parameters with checksum := checksum32 (bytesOfHeader (unsealed parameters)) }

structure Writes (memory : List UInt8) (parameters : Parameters) : Prop where
  sized : needed parameters.payloadSize parameters.payloadAlignment < 2 ^ 64
  room : needed parameters.payloadSize parameters.payloadAlignment ≤ memory.length
  alignment : (effective parameters.payloadAlignment).toNat < 2 ^ 16

theorem makeLayoutHeader_eq (parameters : Parameters) : makeLayoutHeader parameters =
    if (effective parameters.payloadAlignment).toNat < 2 ^ 16 then .ok (headerOf parameters)
    else incompatible "layout alignment does not fit u16" :=
  rfl

theorem writeLayoutBytes_iff {memory written : List UInt8} {parameters : Parameters}
    {contract : LayoutContract} (power : isPowerOfTwo parameters.payloadAlignment = true) :
    writeLayoutBytes memory parameters = .ok (written, contract) ↔
      Writes memory parameters ∧
      written = bytesOfHeader (headerOf parameters) ++ memory.drop headerSize ∧
      contract = { payloadOffset := begins parameters.payloadAlignment
                   totalSize := parameters.payloadSize +
                     begins parameters.payloadAlignment } := by
  have length : (bytesOfHeader (headerOf parameters)).length = headerSize :=
    bytesOfHeader_length rfl
  rw [writeLayoutBytes, bind_ok_iff]
  constructor
  · rintro ⟨middle, made, done⟩
    obtain ⟨sized, rfl⟩ := (makeContract_iff power).mp made
    rw [total_toNat sized, makeLayoutHeader_eq] at done
    split at done
    · cases done
    · rename_i room
      obtain ⟨header, fits, done⟩ := bind_ok_iff.mp done
      split at fits
      · rename_i small
        cases fits
        cases done
        rw [length]
        exact ⟨⟨sized, Nat.not_lt.mp room, small⟩, rfl, rfl⟩
      · cases fits
  · rintro ⟨writes, rfl, rfl⟩
    refine ⟨_, (makeContract_iff power).mpr ⟨writes.sized, rfl⟩, ?_⟩
    rw [total_toNat writes.sized, if_neg (Nat.not_lt.mpr writes.room), makeLayoutHeader_eq,
      if_pos writes.alignment]
    refine bind_ok_iff.mpr ⟨_, rfl, ?_⟩
    dsimp only
    rw [length]
    rfl

theorem headerOf_alignment {parameters : Parameters}
    (fits : (effective parameters.payloadAlignment).toNat < 2 ^ 16) :
    (headerOf parameters).alignment.toUInt64 = effective parameters.payloadAlignment := by
  apply UInt64.toNat_inj.mp
  rw [UInt16.toNat_toUInt64]
  change (effective parameters.payloadAlignment).toNat % 2 ^ 16 = _
  exact Nat.mod_eq_of_lt fits

/-- The checks that a header of the creator passes in front of the comparisons. -/
theorem readHeader_of {parameters : Parameters} (rest : List UInt8)
    (power : isPowerOfTwo parameters.payloadAlignment = true)
    (fits : (effective parameters.payloadAlignment).toNat < 2 ^ 16) :
    readHeader (bytesOfHeader (headerOf parameters) ++ rest) = .ok (headerOf parameters) := by
  have read : headerAt (bytesOfHeader (headerOf parameters) ++ rest) = headerOf parameters :=
    headerAt_bytes rest rfl
  have long : ¬ (bytesOfHeader (headerOf parameters) ++ rest).length < headerSize := by
    rw [List.length_append, bytesOfHeader_length rfl]
    omega
  have same := headerOf_alignment fits
  have power' := effective_isPowerOfTwo power
  have positive : ¬ (headerOf parameters).alignment = 0 := by
    intro zero
    rw [zero] at same
    rw [← same] at power'
    cases power'
  have healthy : ¬ ((headerOf parameters).alignment = 0 ∨
      isPowerOfTwo (headerOf parameters).alignment.toUInt64 = false) := by
    rintro (zero | odd)
    · exact positive zero
    · rw [same, power'] at odd
      cases odd
  have magic : ¬ (headerOf parameters).magic ≠ layoutMagic := not_not_intro rfl
  have version : ¬ (headerOf parameters).version ≠ currentLayoutVersion := not_not_intro rfl
  have checked : ¬ isValidChecksum (headerOf parameters) = false := by
    have opened : { headerOf parameters with checksum := 0 } = unsealed parameters := rfl
    rw [isValidChecksum, opened]
    intro differs
    have sealed : checksum32 (bytesOfHeader (unsealed parameters)) =
        (headerOf parameters).checksum := rfl
    rw [sealed, beq_self_eq_true] at differs
    cases differs
  have stored : (headerOf parameters).headerSize = UInt16.ofNat headerSize := rfl
  have size : ¬ (headerOf parameters).headerSize.toNat ≠ headerSize := by
    rw [stored]
    decide
  unfold readHeader
  rw [if_neg long]
  simp only [read]
  rw [if_neg magic, if_neg version, if_neg checked, if_neg size, if_neg healthy]

structure SameSizes (creator attacher : Parameters) : Prop where
  payloadSize : attacher.payloadSize = creator.payloadSize
  elementSize : attacher.elementSize = creator.elementSize
  capacity : attacher.capacity = creator.capacity
  kind : attacher.kind = creator.kind

/-- The alignment of which an attacher computes where the payload begins. -/
def joint (creator attacher : Parameters) : UInt64 :=
  max attacher.payloadAlignment (effective creator.payloadAlignment)

theorem segmentKind_code (kind : SegmentKind) : segmentKindFromU16 kind.code = .ok kind := by
  cases kind with
  | ringBuffer => rfl
  | cursor => rfl

theorem validateKind_iff {written expected : SegmentKind} :
    validateKind written.code expected = .ok () ↔ expected = written := by
  rw [validateKind, bind_ok_iff, segmentKind_code]
  constructor
  · rintro ⟨observed, same, done⟩
    cases same
    by_cases equal : written = expected
    · exact equal.symm
    · rw [if_pos equal] at done
      cases done
  · rintro rfl
    exact ⟨expected, rfl, if_neg (not_not_intro rfl)⟩

theorem validateSize_iff {field : String} {kind : SegmentKind} {observed expected : UInt64} :
    validateSize field kind observed expected = .ok () ↔ expected = observed := by
  unfold validateSize
  by_cases equal : observed = expected
  · rw [if_neg (not_not_intro equal)]
    exact ⟨fun _ => equal.symm, fun _ => rfl⟩
  · rw [if_pos equal]
    constructor
    · intro impossible
      cases impossible
    · exact fun same => absurd same.symm equal

theorem validateLayoutBytes_iff {creator attacher : Parameters} {rest : List UInt8}
    {observed : LayoutContract} (power : isPowerOfTwo creator.payloadAlignment = true)
    (powerToo : isPowerOfTwo attacher.payloadAlignment = true)
    (fits : (effective creator.payloadAlignment).toNat < 2 ^ 16) :
    validateLayoutBytes (bytesOfHeader (headerOf creator) ++ rest) attacher = .ok observed ↔
      SameSizes creator attacher ∧
      needed attacher.payloadSize (joint creator attacher) < 2 ^ 64 ∧
      needed attacher.payloadSize (joint creator attacher) ≤ headerSize + rest.length ∧
      observed = { payloadOffset := begins (joint creator attacher)
                   totalSize := attacher.payloadSize + begins (joint creator attacher) } := by
  have power' : isPowerOfTwo (joint creator attacher) = true :=
    max_isPowerOfTwo powerToo (effective_isPowerOfTwo power)
  have length : (bytesOfHeader (headerOf creator) ++ rest).length = headerSize + rest.length := by
    rw [List.length_append, bytesOfHeader_length rfl]
  rw [validateLayoutBytes, bind_ok_iff]
  constructor
  · rintro ⟨header, read, done⟩
    rw [readHeader_of rest power fits] at read
    cases read
    obtain ⟨_passed, kind, done⟩ := bind_ok_iff.mp done
    obtain ⟨_passed, payloadSize, done⟩ := bind_ok_iff.mp done
    obtain ⟨_passed, elementSize, done⟩ := bind_ok_iff.mp done
    obtain ⟨_passed, capacity, done⟩ := bind_ok_iff.mp done
    obtain ⟨contract, made, done⟩ := bind_ok_iff.mp done
    rw [headerOf_alignment fits] at made
    obtain ⟨sized, rfl⟩ := (makeContract_iff power').mp made
    rw [total_toNat sized, length] at done
    split at done
    · cases done
    · rename_i room
      cases done
      exact ⟨⟨validateSize_iff.mp payloadSize, validateSize_iff.mp elementSize,
        validateSize_iff.mp capacity, validateKind_iff.mp kind⟩, sized, Nat.not_lt.mp room, rfl⟩
  · rintro ⟨same, sized, room, rfl⟩
    refine ⟨_, readHeader_of rest power fits, ?_⟩
    refine bind_ok_iff.mpr ⟨(), validateKind_iff.mpr same.kind, ?_⟩
    refine bind_ok_iff.mpr ⟨(), validateSize_iff.mpr same.payloadSize, ?_⟩
    refine bind_ok_iff.mpr ⟨(), validateSize_iff.mpr same.elementSize, ?_⟩
    refine bind_ok_iff.mpr ⟨(), validateSize_iff.mpr same.capacity, ?_⟩
    rw [headerOf_alignment fits]
    refine bind_ok_iff.mpr ⟨_, (makeContract_iff power').mpr ⟨sized, rfl⟩, ?_⟩
    rw [total_toNat sized, length, if_neg (Nat.not_lt.mpr room)]
    rfl

/-! ### The two sides agree -/

/-- What a creator finds again with its own parameters, and what an attacher finds in a mapping
that begins with the header of the creator. -/
structure LayoutsAgree (creator attacher : Parameters) (memory rest : List UInt8) : Prop where
  created : ∀ written contract, writeLayoutBytes memory creator = .ok (written, contract) →
    validateLayoutBytes written creator = .ok contract
  attached : ∀ written contract observed,
    writeLayoutBytes memory creator = .ok (written, contract) →
    validateLayoutBytes (written.take headerSize ++ rest) attacher = .ok observed →
    observed.payloadOffset = contract.payloadOffset ∧
      observed.payloadOffset.toNat + attacher.payloadSize.toNat ≤ headerSize + rest.length
  unbroken : writeLayoutBytes memory creator ≠ .error .overflow ∧
    ∀ seen, validateLayoutBytes seen attacher ≠ .error .overflow

def Misaligned (creator attacher : Parameters) : Prop :=
  8 < attacher.payloadAlignment ∧ (creator.payloadAlignment ≤ 8 ∨
    max 64 creator.payloadAlignment < attacher.payloadAlignment)

/-- All that is compared is the same, and the longer segment fits as well. -/
structure Passes (creator attacher : Parameters) (rest : List UInt8) : Prop where
  sizes : SameSizes creator attacher
  sized : needed attacher.payloadSize attacher.payloadAlignment < 2 ^ 64
  room : needed attacher.payloadSize attacher.payloadAlignment ≤ headerSize + rest.length

theorem max_toNat (left right : UInt64) :
    (max left right).toNat = max left.toNat right.toNat := by
  rw [max_eq]
  by_cases below : left ≤ right
  · have numbers := UInt64.le_iff_toNat_le.mp below
    rw [if_pos below]
    omega
  · have numbers := mt UInt64.le_iff_toNat_le.mpr below
    rw [if_neg below]
    omega

theorem begins_toNat (alignment : UInt64) : (begins alignment).toNat =
    if alignment.toNat ≤ 8 then 56 else max 64 alignment.toNat := by
  unfold begins
  by_cases small : alignment ≤ 8
  · have number : alignment.toNat ≤ 8 := UInt64.le_iff_toNat_le.mp small
    rw [if_pos small, if_pos number]
    rfl
  · have number : ¬ alignment.toNat ≤ 8 :=
      fun numbers => small (UInt64.le_iff_toNat_le.mpr numbers)
    rw [if_neg small, if_neg number, max_toNat]
    rfl

theorem begins_behind (alignment : UInt64) : headerSize ≤ (begins alignment).toNat := by
  rw [begins_toNat, headerSize]
  split
  · omega
  · omega

theorem effective_toNat (alignment : UInt64) :
    (effective alignment).toNat = max alignment.toNat 8 := by
  have eight : layoutHeaderAlignment.toNat = 8 := rfl
  have eightToo : headerAlignmentMin.toNat = 8 := rfl
  rw [effective, max_toNat, max_toNat, eight, eightToo]
  omega

theorem misaligned_iff (creator attacher : Parameters) : Misaligned creator attacher ↔
    8 < attacher.payloadAlignment.toNat ∧ (creator.payloadAlignment.toNat ≤ 8 ∨
      max 64 creator.payloadAlignment.toNat < attacher.payloadAlignment.toNat) := by
  have sixtyFour : (64 : UInt64).toNat = 64 := rfl
  have eight : (8 : UInt64).toNat = 8 := rfl
  rw [Misaligned, UInt64.lt_iff_toNat_lt, UInt64.le_iff_toNat_le, UInt64.lt_iff_toNat_lt,
    max_toNat, sixtyFour, eight]

theorem joint_of_misaligned {creator attacher : Parameters}
    (misaligned : Misaligned creator attacher) :
    joint creator attacher = attacher.payloadAlignment ∧
      begins attacher.payloadAlignment ≠ begins creator.payloadAlignment := by
  obtain ⟨large, apart⟩ := (misaligned_iff creator attacher).mp misaligned
  constructor
  · apply UInt64.toNat_inj.mp
    rw [joint, max_toNat, effective_toNat]
    omega
  · intro same
    have offsets := congrArg UInt64.toNat same
    rw [begins_toNat, begins_toNat] at offsets
    split at offsets
    · omega
    · split at offsets
      · omega
      · omega

theorem begins_of_aligned {creator attacher : Parameters}
    (aligned : ¬ Misaligned creator attacher) :
    begins (joint creator attacher) = begins creator.payloadAlignment := by
  have apart := mt (misaligned_iff creator attacher).mpr aligned
  apply UInt64.toNat_inj.mp
  rw [begins_toNat, begins_toNat, joint, max_toNat, effective_toNat]
  split
  · split
    · rfl
    · omega
  · split
    · omega
    · omega

theorem alignUp_power (exponent : Fin 64) :
    (alignUp (UInt64.ofNat headerSize) (2 ^ exponent.val)).toOption.isSome = true := by
  revert exponent
  decide +kernel

theorem payloadOffset_unbroken (alignment : UInt64) :
    payloadOffset alignment ≠ .error .overflow := by
  change alignUp (UInt64.ofNat headerSize) (effective alignment) ≠ .error .overflow
  by_cases power : isPowerOfTwo (effective alignment) = true
  · obtain ⟨exponent, same⟩ := power_of_isPowerOfTwo power
    have found := alignUp_power exponent
    rw [same]
    intro broken
    rw [broken] at found
    cases found
  · unfold alignUp
    rw [if_pos (.inr (Bool.eq_false_iff.mpr power))]
    intro broken
    cases broken

theorem bind_unbroken {α β : Type} {first : Outcome α} {rest : α → Outcome β}
    (unbroken : first ≠ .error .overflow) (later : ∀ value, rest value ≠ .error .overflow) :
    first >>= rest ≠ .error .overflow := by
  cases first with
  | error failure =>
      intro broken
      have same : (Except.error failure : Outcome β) = .error .overflow := broken
      cases same
      exact unbroken rfl
  | ok value => exact later value

theorem makeContract_unbroken (payloadSize alignment : UInt64) :
    makeContract payloadSize alignment ≠ .error .overflow := by
  apply bind_unbroken (payloadOffset_unbroken alignment)
  intro offset
  split
  · exact nofun
  · exact nofun

theorem writeLayoutBytes_unbroken (memory : List UInt8) (parameters : Parameters) :
    writeLayoutBytes memory parameters ≠ .error .overflow := by
  apply bind_unbroken (makeContract_unbroken _ _)
  intro contract
  split
  · exact nofun
  · apply bind_unbroken
    · rw [makeLayoutHeader_eq]
      split
      · exact nofun
      · exact nofun
    · exact fun header => nofun

theorem readHeader_unbroken (memory : List UInt8) : readHeader memory ≠ .error .overflow := by
  unfold readHeader
  dsimp only
  repeat' split
  all_goals exact nofun

theorem validateSize_unbroken (field : String) (kind : SegmentKind) (observed expected : UInt64) :
    validateSize field kind observed expected ≠ .error .overflow := by
  unfold validateSize
  split
  · exact nofun
  · exact nofun

theorem validateKind_unbroken (kind : UInt16) (expected : SegmentKind) :
    validateKind kind expected ≠ .error .overflow := by
  apply bind_unbroken
  · unfold segmentKindFromU16
    repeat' split
    all_goals exact nofun
  · intro observed
    split
    · exact nofun
    · exact nofun

theorem validateLayoutBytes_unbroken (memory : List UInt8) (parameters : Parameters) :
    validateLayoutBytes memory parameters ≠ .error .overflow := by
  apply bind_unbroken (readHeader_unbroken memory)
  intro header
  apply bind_unbroken (validateKind_unbroken _ _)
  intro _same
  apply bind_unbroken (validateSize_unbroken _ _ _ _)
  intro _payloadSize
  apply bind_unbroken (validateSize_unbroken _ _ _ _)
  intro _elementSize
  apply bind_unbroken (validateSize_unbroken _ _ _ _)
  intro _capacity
  apply bind_unbroken (makeContract_unbroken _ _)
  intro contract
  split
  · exact nofun
  · exact nofun

/-- An attacher that passes the checks with such an alignment finds another payload. -/
theorem disagree_of_misaligned {creator attacher : Parameters} {memory rest : List UInt8}
    (power : isPowerOfTwo creator.payloadAlignment = true)
    (powerToo : isPowerOfTwo attacher.payloadAlignment = true) (writes : Writes memory creator)
    (passes : Passes creator attacher rest) (misaligned : Misaligned creator attacher) :
    ¬ LayoutsAgree creator attacher memory rest := by
  intro agree
  obtain ⟨moved, apart⟩ := joint_of_misaligned misaligned
  have written := (writeLayoutBytes_iff power).mpr ⟨writes, rfl, rfl⟩
  have header : (bytesOfHeader (headerOf creator) ++ memory.drop headerSize).take headerSize =
      bytesOfHeader (headerOf creator) := List.take_left' (bytesOfHeader_length rfl)
  have observed := (validateLayoutBytes_iff power powerToo writes.alignment).mpr
    ⟨passes.sizes, by rw [moved]; exact passes.sized, by rw [moved]; exact passes.room, rfl⟩
  rw [← header] at observed
  have same := (agree.attached _ _ _ written observed).1
  rw [moved] at same
  exact apart same

/-- The two sides agree exactly where no attacher with a larger alignment passes the checks:
the payload would begin elsewhere. -/
theorem layouts_agree_iff (creator attacher : Parameters) (memory rest : List UInt8)
    (power : isPowerOfTwo creator.payloadAlignment = true)
    (powerToo : isPowerOfTwo attacher.payloadAlignment = true) :
    LayoutsAgree creator attacher memory rest ↔
      ¬ (Writes memory creator ∧ Passes creator attacher rest ∧ Misaligned creator attacher) := by
  constructor
  · rintro agree ⟨writes, passes, misaligned⟩
    exact disagree_of_misaligned power powerToo writes passes misaligned agree
  · intro aligned
    refine ⟨?_, ?_, writeLayoutBytes_unbroken memory creator,
      fun seen => validateLayoutBytes_unbroken seen attacher⟩
    · intro written contract wrote
      obtain ⟨writes, rfl, rfl⟩ := (writeLayoutBytes_iff power).mp wrote
      have own : begins (joint creator creator) = begins creator.payloadAlignment := by
        apply begins_of_aligned
        rw [misaligned_iff]
        omega
      have same : needed creator.payloadSize (joint creator creator) =
          needed creator.payloadSize creator.payloadAlignment := by
        rw [needed, own, needed]
      have behind := begins_behind creator.payloadAlignment
      have room := writes.room
      apply (validateLayoutBytes_iff power power writes.alignment).mpr
      refine ⟨⟨rfl, rfl, rfl, rfl⟩, ?_, ?_, ?_⟩
      · rw [same]
        exact writes.sized
      · rw [same, List.length_drop]
        unfold needed at room ⊢
        omega
      · rw [own]
    · intro written contract observed wrote validated
      obtain ⟨writes, rfl, rfl⟩ := (writeLayoutBytes_iff power).mp wrote
      rw [List.take_left' (bytesOfHeader_length rfl)] at validated
      obtain ⟨sizes, sized, room, rfl⟩ :=
        (validateLayoutBytes_iff power powerToo writes.alignment).mp validated
      constructor
      · by_cases misaligned : Misaligned creator attacher
        · have moved := (joint_of_misaligned misaligned).1
          rw [moved] at sized room
          exact absurd ⟨writes, ⟨sizes, sized, room⟩, misaligned⟩ aligned
        · exact begins_of_aligned misaligned
      · rw [Nat.add_comm]
        exact room

def packed : Parameters :=
  { payloadSize := 64, elementSize := 64, capacity := 1, payloadAlignment := 8, kind := .cursor }

theorem layouts_agree_packed : LayoutsAgree packed packed (List.replicate 120 0)
    (List.replicate 64 0) := by
  apply (layouts_agree_iff packed packed (List.replicate 120 0) (List.replicate 64 0)
    (by decide) (by decide)).mpr
  rintro ⟨-, -, misaligned⟩
  exact absurd misaligned.1 (by decide)

/-- The same cursor to an attacher that wants it aligned to a cache line, in a mapping that is
a little longer. -/
theorem layouts_disagree : ¬ LayoutsAgree packed { packed with payloadAlignment := 64 }
    (List.replicate 128 0) (List.replicate 72 0) :=
  disagree_of_misaligned (by decide) (by decide)
    ⟨by decide +kernel, by decide +kernel, by decide⟩
    ⟨⟨rfl, rfl, rfl, rfl⟩, by decide +kernel, by decide +kernel⟩ ⟨by decide, .inl (by decide)⟩

end Layout
