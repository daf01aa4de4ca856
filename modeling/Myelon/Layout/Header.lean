/-
The header at the front of every segment.

The creator writes it in front of the payload. Whoever attaches reads it and compares it
with what it expects, and each of the two computes from its own alignment where the
payload begins.
-/

import Myelon.Layout.Bytes

namespace Layout

inductive MultiProcessError where
  | sharedMemoryError (message : String)
  | incompatibleLayout (message : String)
  deriving DecidableEq

/-- A call may end in an error, and where it is checked an operation that overflows panics. -/
inductive Failure where
  | error (error : MultiProcessError)
  | overflow
  deriving DecidableEq

abbrev Outcome := Except Failure

theorem bind_ok_iff {ε α β : Type} {first : Except ε α} {rest : α → Except ε β}
    {value : β} :
    first >>= rest = .ok value ↔ ∃ middle, first = .ok middle ∧ rest middle = .ok value := by
  cases first with
  | error failure =>
      constructor
      · intro impossible
        cases impossible
      · rintro ⟨middle, impossible, -⟩
        cases impossible
  | ok middle =>
      constructor
      · exact fun done => ⟨middle, rfl, done⟩
      · rintro ⟨other, same, done⟩
        cases same
        exact done

def incompatible {α : Type} (message : String) : Outcome α :=
  .error (.error (.incompatibleLayout message))

def layoutMagic : List UInt8 := [68, 83, 77, 80, 84, 86, 48, 49]

def currentLayoutVersion : UInt16 := 1

def headerAlignmentMin : UInt64 := 8

def migrationHint : String :=
  "MIGRATION: create a new ring/segment name for LayoutV2 and perform a rolling restart."

structure LayoutHeader where
  magic : List UInt8
  version : UInt16
  kind : UInt16
  headerSize : UInt16
  alignment : UInt16
  payloadSize : UInt64
  elementSize : UInt64
  capacity : UInt64
  reserved : UInt64
  checksum : UInt32
  reserved2 : UInt32
  deriving DecidableEq

inductive SegmentKind where
  | ringBuffer
  | cursor
  deriving DecidableEq

namespace SegmentKind

def code : SegmentKind → UInt16
  | .ringBuffer => 1
  | .cursor => 2

def name : SegmentKind → String
  | .ringBuffer => "ring_buffer"
  | .cursor => "cursor"

end SegmentKind

def segmentKindFromU16 (kind : UInt16) : Outcome SegmentKind :=
  if kind = 1 then .ok .ringBuffer
  else if kind = 2 then .ok .cursor
  else incompatible ("segment kind unknown: " ++ toString kind)

structure LayoutContract where
  payloadOffset : UInt64
  totalSize : UInt64
  deriving DecidableEq

/-! ### Arithmetic -/

/-- Plain addition, which panics where it overflows. -/
def plainAdd (left right : UInt64) : Outcome UInt64 :=
  if left.toNat + right.toNat < 2 ^ 64 then .ok (left + right) else .error .overflow

def plainSub (left right : UInt64) : Outcome UInt64 :=
  if right ≤ left then .ok (left - right) else .error .overflow

def checkedAdd (left right : UInt64) : Option UInt64 :=
  if left.toNat + right.toNat < 2 ^ 64 then some (left + right) else none

def isPowerOfTwo (value : UInt64) : Bool :=
  value != 0 && value &&& (value - 1) == 0

def alignUp (value align : UInt64) : Outcome UInt64 :=
  if align = 0 ∨ isPowerOfTwo align = false then
    incompatible "layout alignment must be power-of-two"
  else do
    let sum ← plainAdd value align
    let last ← plainSub sum 1
    let mask ← plainSub align 1
    pure (last &&& ~~~ mask)

def checksum32 (bytes : List UInt8) : UInt32 :=
  bytes.foldl (fun hash byte => (hash ^^^ byte.toUInt32) * 0x01000193) 0x811C9DC5

/-! ### The bytes of a header -/

def headerSize : Nat := 56

def layoutHeaderAlignment : UInt64 := 8

def bytesOfHeader (header : LayoutHeader) : List UInt8 :=
  header.magic ++ (wordBytes 2 header.version.toNat ++ (wordBytes 2 header.kind.toNat ++
    (wordBytes 2 header.headerSize.toNat ++ (wordBytes 2 header.alignment.toNat ++
    (wordBytes 8 header.payloadSize.toNat ++ (wordBytes 8 header.elementSize.toNat ++
    (wordBytes 8 header.capacity.toNat ++ (wordBytes 8 header.reserved.toNat ++
    (wordBytes 4 header.checksum.toNat ++ wordBytes 4 header.reserved2.toNat)))))))))

/-- The header at the front of the memory, as it is read without alignment. -/
def headerAt (memory : List UInt8) : LayoutHeader :=
  let (version, memory') := splitWord 2 (memory.drop 8)
  let (kind, memory') := splitWord 2 memory'
  let (headerSize, memory') := splitWord 2 memory'
  let (alignment, memory') := splitWord 2 memory'
  let (payloadSize, memory') := splitWord 8 memory'
  let (elementSize, memory') := splitWord 8 memory'
  let (capacity, memory') := splitWord 8 memory'
  let (reserved, memory') := splitWord 8 memory'
  let (checksum, memory') := splitWord 4 memory'
  let (reserved2, _) := splitWord 4 memory'
  { magic := memory.take 8
    version := UInt16.ofNat version
    kind := UInt16.ofNat kind
    headerSize := UInt16.ofNat headerSize
    alignment := UInt16.ofNat alignment
    payloadSize := UInt64.ofNat payloadSize
    elementSize := UInt64.ofNat elementSize
    capacity := UInt64.ofNat capacity
    reserved := UInt64.ofNat reserved
    checksum := UInt32.ofNat checksum
    reserved2 := UInt32.ofNat reserved2 }

def isValidChecksum (header : LayoutHeader) : Bool :=
  checksum32 (bytesOfHeader { header with checksum := 0 }) == header.checksum

/-! ### Reading and writing -/

structure Parameters where
  payloadSize : UInt64
  elementSize : UInt64
  capacity : UInt64
  payloadAlignment : UInt64
  kind : SegmentKind
  deriving DecidableEq

def readHeader (memory : List UInt8) : Outcome LayoutHeader :=
  if memory.length < headerSize then
    incompatible ("shared segment too small for layout header: got " ++ toString memory.length ++
      " bytes, expected at least " ++ toString headerSize)
  else
    let header := headerAt memory
    if header.magic ≠ layoutMagic then
      incompatible ("layout magic mismatch (expected " ++ toString layoutMagic ++ ", got " ++
        toString header.magic ++ ")")
    else if header.version ≠ currentLayoutVersion then
      incompatible ("layout version mismatch: got " ++ toString header.version ++
        ", expected " ++ toString currentLayoutVersion ++ ". " ++ migrationHint)
    else if isValidChecksum header = false then incompatible "layout checksum failed"
    else if header.headerSize.toNat ≠ headerSize then
      incompatible ("layout header size mismatch: got " ++ toString header.headerSize ++
        ", expected " ++ toString headerSize)
    else if header.alignment = 0 ∨ isPowerOfTwo header.alignment.toUInt64 = false then
      incompatible "layout alignment is invalid"
    else .ok header

def validateKind (headerKind : UInt16) (expected : SegmentKind) : Outcome Unit := do
  let observedKind ← segmentKindFromU16 headerKind
  if observedKind ≠ expected then
    incompatible ("segment kind mismatch: got " ++ observedKind.name ++ ", expected " ++
      expected.name)
  else pure ()

def payloadOffset (payloadAlignment : UInt64) : Outcome UInt64 :=
  alignUp (UInt64.ofNat headerSize)
    (max (max payloadAlignment layoutHeaderAlignment) headerAlignmentMin)

/-- Every size fits into 64 bits, so only the alignment can fail to fit. -/
def makeLayoutHeader (parameters : Parameters) : Outcome LayoutHeader :=
  let alignment := max (max parameters.payloadAlignment layoutHeaderAlignment) headerAlignmentMin
  if alignment.toNat < 2 ^ 16 then
    let header : LayoutHeader :=
      { magic := layoutMagic
        version := currentLayoutVersion
        kind := parameters.kind.code
        headerSize := UInt16.ofNat headerSize
        alignment := alignment.toUInt16
        payloadSize := parameters.payloadSize
        elementSize := parameters.elementSize
        capacity := parameters.capacity
        reserved := 0
        checksum := 0
        reserved2 := 0 }
    .ok { header with checksum := checksum32 (bytesOfHeader header) }
  else incompatible "layout alignment does not fit u16"

def makeContract (payloadSize payloadAlignment : UInt64) : Outcome LayoutContract := do
  let payloadOffset ← payloadOffset payloadAlignment
  match checkedAdd payloadSize payloadOffset with
  | none => .error (.error (.sharedMemoryError "shared memory size overflow"))
  | some totalSize => pure { payloadOffset, totalSize }

/-- The memory after the header was written, and where the payload begins. -/
def writeLayoutBytes (memory : List UInt8) (parameters : Parameters) :
    Outcome (List UInt8 × LayoutContract) := do
  let contract ← makeContract parameters.payloadSize parameters.payloadAlignment
  if memory.length < contract.totalSize.toNat then
    .error (.error (.sharedMemoryError "shared segment too small for layout"))
  else do
    let header ← makeLayoutHeader parameters
    let bytes := bytesOfHeader header
    pure (bytes ++ memory.drop bytes.length, contract)

def validateSize (field : String) (kind : SegmentKind) (observed expected : UInt64) :
    Outcome Unit :=
  if observed ≠ expected then
    incompatible (field ++ " mismatch for " ++ kind.name ++ " segment: got " ++
      toString observed ++ ", expected " ++ toString expected)
  else pure ()

def validateLayoutBytes (memory : List UInt8) (parameters : Parameters) :
    Outcome LayoutContract := do
  let header ← readHeader memory
  validateKind header.kind parameters.kind
  validateSize "payload size" parameters.kind header.payloadSize parameters.payloadSize
  validateSize "element size" parameters.kind header.elementSize parameters.elementSize
  validateSize "capacity" parameters.kind header.capacity parameters.capacity
  let contract ← makeContract parameters.payloadSize
    (max parameters.payloadAlignment header.alignment.toUInt64)
  if memory.length < contract.totalSize.toNat then
    incompatible ("shared segment too small for layout: got " ++ toString memory.length ++
      " bytes, expected at least " ++ toString contract.totalSize)
  else pure contract

end Layout
