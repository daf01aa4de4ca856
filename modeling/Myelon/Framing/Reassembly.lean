/-
The three receivers of framed messages, one frame after the other.

Between two frames a receiver is in front of the first frame of a message, or in
the loop that waits for the other frames of one. The buffer of two of them is
storage for bytes in words of 16; it only grows, and its length says how many of
the bytes count. The times of sending and receiving are left out.
-/

import Myelon.Framing.Fragment
import Myelon.Streaming.Transducer

namespace Framing

open Streaming

/-! ### The reassembly buffer -/

/-- The bytes that count are always inside of the storage. -/
structure ReassemblyBuffer where
  buf : List UInt8
  len : Nat
  msgId : Nat
  kind : UInt8
  within : len ≤ buf.length

namespace ReassemblyBuffer

def wordCapacity (byteCapacity : Nat) : Nat := (byteCapacity + (16 - 1)) / 16

def ensureCapacity (buf : List UInt8) (neededBytes : Nat) : List UInt8 :=
  let neededWords := wordCapacity neededBytes
  if buf.length / 16 < neededWords then
    buf ++ List.replicate (neededWords * 16 - buf.length) 0
  else buf

theorem ensureCapacity_length (buf : List UInt8) (neededBytes : Nat) :
    buf.length ≤ (ensureCapacity buf neededBytes).length ∧
      neededBytes ≤ (ensureCapacity buf neededBytes).length := by
  unfold ensureCapacity wordCapacity
  by_cases short : buf.length / 16 < (neededBytes + (16 - 1)) / 16
  · rw [if_pos short, List.length_append, List.length_replicate]
    omega
  · rw [if_neg short]
    omega

theorem ensureCapacity_take {buf : List UInt8} {len : Nat} (within : len ≤ buf.length)
    (neededBytes : Nat) : (ensureCapacity buf neededBytes).take len = buf.take len := by
  unfold ensureCapacity
  by_cases short : buf.length / 16 < wordCapacity neededBytes
  · rw [if_pos short, List.take_append_of_le_length within]
  · rw [if_neg short]

def copyAt (buf : List UInt8) (start : Nat) (data : List UInt8) : List UInt8 :=
  buf.take start ++ data ++ buf.drop (start + data.length)

theorem copyAt_length {buf data : List UInt8} {start : Nat}
    (within : start + data.length ≤ buf.length) :
    (copyAt buf start data).length = buf.length := by
  simp only [copyAt, List.length_append, List.length_take, List.length_drop]
  omega

theorem copyAt_take {buf : List UInt8} (data : List UInt8) {start : Nat}
    (within : start ≤ buf.length) :
    (copyAt buf start data).take (start + data.length) = buf.take start ++ data := by
  have length : (buf.take start ++ data).length = start + data.length := by
    rw [List.length_append, List.length_take, Nat.min_eq_left within]
  rw [copyAt, ← length, List.take_left]

def new : ReassemblyBuffer :=
  { buf := [], len := 0, msgId := 0, kind := 0, within := Nat.le_refl 0 }

def start (buffer : ReassemblyBuffer) (msgId : Nat) (kind : UInt8)
    (firstData : List UInt8) (totalLen : Nat) : ReassemblyBuffer :=
  let neededLen := max totalLen firstData.length
  { buf := copyAt (ensureCapacity buffer.buf neededLen) 0 firstData
    len := firstData.length
    msgId
    kind
    within := by
      have enough := (ensureCapacity_length buffer.buf neededLen).2
      rw [copyAt_length (by omega)]
      omega }

def append (buffer : ReassemblyBuffer) (data : List UInt8) : ReassemblyBuffer :=
  let start := buffer.len
  let finish := start + data.length
  { buffer with
    buf := copyAt (ensureCapacity buffer.buf finish) start data
    len := finish
    within := by
      have enough := (ensureCapacity_length buffer.buf finish).2
      rw [copyAt_length (by omega)]
      omega }

def reset (buffer : ReassemblyBuffer) : ReassemblyBuffer :=
  { buffer with len := 0, msgId := 0, within := Nat.zero_le _ }

def bytes (buffer : ReassemblyBuffer) : List UInt8 := buffer.buf.take buffer.len

@[simp] theorem bytes_new : new.bytes = [] := rfl

@[simp] theorem bytes_start (buffer : ReassemblyBuffer) (msgId : Nat) (kind : UInt8)
    (firstData : List UInt8) (totalLen : Nat) :
    (buffer.start msgId kind firstData totalLen).bytes = firstData := by
  have copied := copyAt_take firstData
    (Nat.zero_le (ensureCapacity buffer.buf (max totalLen firstData.length)).length)
  rw [Nat.zero_add, List.take_zero, List.nil_append] at copied
  exact copied

@[simp] theorem bytes_append (buffer : ReassemblyBuffer) (data : List UInt8) :
    (buffer.append data).bytes = buffer.bytes ++ data := by
  have enough := (ensureCapacity_length buffer.buf (buffer.len + data.length)).2
  exact (copyAt_take data (by omega)).trans
    (congrArg (· ++ data) (ensureCapacity_take buffer.within _))

@[simp] theorem msgId_start (buffer : ReassemblyBuffer) (msgId : Nat) (kind : UInt8)
    (firstData : List UInt8) (totalLen : Nat) :
    (buffer.start msgId kind firstData totalLen).msgId = msgId := rfl

@[simp] theorem kind_start (buffer : ReassemblyBuffer) (msgId : Nat) (kind : UInt8)
    (firstData : List UInt8) (totalLen : Nat) :
    (buffer.start msgId kind firstData totalLen).kind = kind := rfl

@[simp] theorem msgId_append (buffer : ReassemblyBuffer) (data : List UInt8) :
    (buffer.append data).msgId = buffer.msgId := rfl

@[simp] theorem kind_append (buffer : ReassemblyBuffer) (data : List UInt8) :
    (buffer.append data).kind = buffer.kind := rfl

end ReassemblyBuffer

/-! ### The owned receiver -/

structure ReceivedMessageMeta where
  kind : UInt8
  msgId : Nat
  deriving DecidableEq

/-- A message of which frames are missing. -/
structure PartialMessage where
  messageMeta : ReceivedMessageMeta
  payload : List UInt8

def recvFirst (first : FrameMeta) :
    PartialMessage ⊕ (ReceivedMessageMeta × List UInt8) :=
  let messageMeta := { kind := first.kind, msgId := first.msgId }
  if isSingleFrame first.flags then .inr (messageMeta, first.data)
  else
    let payload := first.data
    if isLastFrame first.flags then .inr (messageMeta, payload)
    else .inl { messageMeta, payload }

/-- One round of the loop: a frame of another message is skipped. -/
def recvRest (pending : PartialMessage) (frame : FrameMeta) :
    PartialMessage ⊕ (ReceivedMessageMeta × List UInt8) :=
  if frame.msgId ≠ pending.messageMeta.msgId then .inl pending
  else
    let payload := pending.payload ++ frame.data
    if isLastFrame frame.flags then .inr (pending.messageMeta, payload)
    else .inl { pending with payload }

def handed (received : ReceivedMessageMeta × List UInt8) : Message :=
  { kind := received.1.kind, payload := received.2 }

/-- Repeated `recv_framed_message`. -/
def ownedReceiver : Transducer (Option PartialMessage) FrameMeta Message where
  step := fun pending frame =>
    let round := match pending with
      | none => recvFirst frame
      | some pending => recvRest pending frame
    match round with
    | .inl pending => (some pending, none)
    | .inr received => (none, some (handed received))

/-! ### The leased receiver -/

def leaseFirst (buffer : ReassemblyBuffer) (first : FrameMeta) :
    ReassemblyBuffer × (ReceivedMessageMeta ⊕ (ReceivedMessageMeta × List UInt8)) :=
  let messageMeta := { kind := first.kind, msgId := first.msgId }
  if isSingleFrame first.flags then (buffer, .inr (messageMeta, first.data))
  else
    let buffer := buffer.start first.msgId first.kind first.data first.len
    if isLastFrame first.flags then (buffer, .inr (messageMeta, buffer.bytes))
    else (buffer, .inl messageMeta)

def leaseRest (buffer : ReassemblyBuffer) (messageMeta : ReceivedMessageMeta)
    (frame : FrameMeta) :
    ReassemblyBuffer × (ReceivedMessageMeta ⊕ (ReceivedMessageMeta × List UInt8)) :=
  if frame.msgId ≠ messageMeta.msgId then (buffer, .inl messageMeta)
  else
    let buffer := buffer.append frame.data
    if isLastFrame frame.flags then (buffer, .inr (messageMeta, buffer.bytes))
    else (buffer, .inl messageMeta)

/-- Repeated `recv_message_blocking_leased` with one buffer. -/
def leasedReceiver :
    Transducer (ReassemblyBuffer × Option ReceivedMessageMeta) FrameMeta Message where
  step := fun state frame =>
    let round := match state.2 with
      | none => leaseFirst state.1 frame
      | some messageMeta => leaseRest state.1 messageMeta frame
    match round with
    | (buffer, .inl messageMeta) => ((buffer, some messageMeta), none)
    | (buffer, .inr received) => ((buffer, none), some (handed received))

/-! ### The batch receiver -/

def processFrame (buffer : ReassemblyBuffer) (frame : FrameMeta) :
    ReassemblyBuffer × Option Message :=
  if isSingleFrame frame.flags then
    (buffer, some { kind := frame.kind, payload := frame.data })
  else
    let buffer :=
      if isFirstFrame frame.flags then
        buffer.start frame.msgId frame.kind frame.data frame.len
      else if buffer.msgId = frame.msgId then buffer.append frame.data
      else buffer
    if isLastFrame frame.flags ∧ buffer.msgId = frame.msgId then
      (buffer.reset, some { kind := buffer.kind, payload := buffer.bytes })
    else (buffer, none)

/-- Repeated `process_available_messages` with one buffer. -/
def batchReceiver : Transducer ReassemblyBuffer FrameMeta Message where
  step := processFrame

/-! ### The owned and the leased receiver agree -/

/-- The buffer of the one holds what the other keeps in a vector of its own. -/
def SameProgress : ReassemblyBuffer × Option ReceivedMessageMeta →
    Option PartialMessage → Prop
  | (_, none), none => True
  | (buffer, some messageMeta), some pending =>
      pending.messageMeta = messageMeta ∧ pending.payload = buffer.bytes
  | _, _ => False

theorem leased_step {leased : ReassemblyBuffer × Option ReceivedMessageMeta}
    {owned : Option PartialMessage} (frame : FrameMeta) (same : SameProgress leased owned) :
    (leasedReceiver.step leased frame).2 = (ownedReceiver.step owned frame).2 ∧
      SameProgress (leasedReceiver.step leased frame).1 (ownedReceiver.step owned frame).1 := by
  obtain ⟨buffer, waiting⟩ := leased
  cases waiting with
  | none =>
      cases owned with
      | some pending => exact same.elim
      | none =>
          by_cases single : isSingleFrame frame.flags = true
          · simp [leasedReceiver, ownedReceiver, leaseFirst, recvFirst, single, SameProgress]
          · by_cases last : isLastFrame frame.flags = true
            · simp [leasedReceiver, ownedReceiver, leaseFirst, recvFirst, single, last,
                SameProgress]
            · simp [leasedReceiver, ownedReceiver, leaseFirst, recvFirst, single, last,
                SameProgress]
  | some messageMeta =>
      cases owned with
      | none => exact same.elim
      | some pending =>
          obtain ⟨rfl, payload⟩ := same
          by_cases other : frame.msgId = pending.messageMeta.msgId
          · by_cases last : isLastFrame frame.flags = true
            · simp [leasedReceiver, ownedReceiver, leaseRest, recvRest, other, last, payload,
                SameProgress]
            · simp [leasedReceiver, ownedReceiver, leaseRest, recvRest, other, last, payload,
                SameProgress]
          · simp [leasedReceiver, ownedReceiver, leaseRest, recvRest, other, payload,
              SameProgress]

theorem leased_after (buffer : ReassemblyBuffer) (frames : List FrameMeta) :
    SameProgress (leasedReceiver.after (buffer, none) frames)
      (ownedReceiver.after none frames) := by
  have start : SameProgress (buffer, none) none := trivial
  exact Transducer.after_related SameProgress
    (fun _ _ frame same => leased_step frame same) start frames

theorem leased_outputs (buffer : ReassemblyBuffer) (frames : List FrameMeta) :
    leasedReceiver.outputs (buffer, none) frames = ownedReceiver.outputs none frames := by
  have start : SameProgress (buffer, none) none := trivial
  exact Transducer.outputs_eq_of_related SameProgress
    (fun _ _ frame same => leased_step frame same) start frames

end Framing
