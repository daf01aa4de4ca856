/-
The cut of a message into frames, and the two publishers that write them.

A message has at least one frame, and the frame of an index is known from the
index alone: what it carries, and whether it is the first or the last.
-/

import Myelon.Framing.Frame

namespace Framing

universe u

structure Message where
  kind : UInt8
  payload : List UInt8
  deriving DecidableEq

/-! ### The calls of `write_frame` that one publication makes -/

def chunks (chunkSize : Nat) (payload : List UInt8) : List (List UInt8) :=
  (List.range ((payload.length + chunkSize - 1) / chunkSize)).map fun index =>
    (payload.drop (index * chunkSize)).take chunkSize

def frameWrites (payload : List UInt8) (kind : UInt8) (chunkSize msgId : Nat) :
    List FrameWrite :=
  if payload.isEmpty then
    [{ chunk := payload, kind, msgId, flags := frameFlags true true }]
  else
    (chunks chunkSize payload).zipIdx.map fun (chunk, index) =>
      let last := decide ((index + 1) * chunkSize ≥ payload.length)
      { chunk, kind, msgId, flags := frameFlags (index == 0) last }

/-! ### The publishers -/

/-- Monads in which a panic ends the program. -/
class Panics (m : Type → Type u) where
  panics : {α : Type} → m α

section Publish

variable {m : Type → Type u} [Monad m] [Panics m] {α ε : Type}

def forEach (body : α → m Unit) : List α → m Unit
  | [] => pure ()
  | item :: rest => do
      body item
      forEach body rest

/-- The first error ends the loop. -/
def tryEach (body : α → m (Except ε Unit)) : List α → m (Except ε Unit)
  | [] => pure (.ok ())
  | item :: rest => do
      let result ← body item
      match result with
      | .ok () => tryEach body rest
      | .error error => pure (.error error)

/-- The cut into chunks panics for a chunk size of zero. -/
def checkChunks (payload : List UInt8) (chunkSize : Nat) : m Unit :=
  if payload ≠ [] ∧ chunkSize = 0 then Panics.panics else pure ()

def publishFramedPayloadInPlace (nextMessageId : m Nat) (payload : List UInt8) (kind : UInt8)
    (chunkSize : Nat) (writeFrame : List UInt8 → UInt8 → Nat → UInt8 → m Unit) : m Unit := do
  let msgId ← nextMessageId
  checkChunks payload chunkSize
  forEach (fun write => writeFrame write.chunk write.kind write.msgId write.flags)
    (frameWrites payload kind chunkSize msgId)

def publishFramedPayloadResultInPlace (nextMessageId : m Nat) (payload : List UInt8)
    (kind : UInt8) (chunkSize : Nat)
    (writeFrame : List UInt8 → UInt8 → Nat → UInt8 → m (Except ε Unit)) :
    m (Except ε Unit) := do
  let msgId ← nextMessageId
  checkChunks payload chunkSize
  tryEach (fun write => writeFrame write.chunk write.kind write.msgId write.flags)
    (frameWrites payload kind chunkSize msgId)

end Publish

/-! ### The frames of a message by their index -/

def frameCount (chunkSize : Nat) (payload : List UInt8) : Nat :=
  max 1 ((payload.length + chunkSize - 1) / chunkSize)

def frameAt (chunkSize : Nat) (message : Message) (msgId index : Nat) : FrameWrite :=
  { chunk := (message.payload.drop (index * chunkSize)).take chunkSize
    kind := message.kind
    msgId
    flags := frameFlags (index == 0) (index + 1 == frameCount chunkSize message.payload) }

variable {chunkSize : Nat} {payload : List UInt8}

theorem frameCount_pos (chunkSize : Nat) (payload : List UInt8) :
    0 < frameCount chunkSize payload := by
  unfold frameCount
  omega

theorem frameCount_length (chunkSize : Nat) {first second : List UInt8}
    (same : first.length = second.length) :
    frameCount chunkSize first = frameCount chunkSize second := by
  unfold frameCount
  rw [same]

theorem reaches_end (positive : 0 < chunkSize) {index : Nat}
    (within : index < frameCount chunkSize payload) :
    payload.length ≤ (index + 1) * chunkSize ↔ index + 1 = frameCount chunkSize payload := by
  unfold frameCount at *
  have lower := Nat.div_mul_le_self (payload.length + chunkSize - 1) chunkSize
  have upper : payload.length + chunkSize - 1 <
      (payload.length + chunkSize - 1) / chunkSize * chunkSize + chunkSize :=
    Nat.lt_div_mul_add positive
  generalize (payload.length + chunkSize - 1) / chunkSize = count at *
  constructor
  · intro reached
    rcases Nat.lt_or_ge (index + 1) count with short | last
    · have more : (index + 1 + 1) * chunkSize ≤ count * chunkSize :=
        Nat.mul_le_mul_right _ (by omega)
      rw [Nat.succ_mul (index + 1)] at more
      omega
    · omega
  · intro last
    have all : count * chunkSize ≤ (index + 1) * chunkSize :=
      Nat.mul_le_mul_right _ (by omega)
    omega

theorem frameWrites_eq (positive : 0 < chunkSize) (message : Message) (msgId : Nat) :
    frameWrites message.payload message.kind chunkSize msgId =
      (List.range (frameCount chunkSize message.payload)).map
        (frameAt chunkSize message msgId) := by
  unfold frameWrites
  split
  · rename_i empty
    have none : message.payload = [] := List.isEmpty_iff.mp empty
    have one : frameCount chunkSize message.payload = 1 := by
      unfold frameCount
      rw [none, List.length_nil, Nat.zero_add, Nat.div_eq_of_lt (by omega)]
      rfl
    have alone : frameAt chunkSize message msgId 0 =
        { chunk := message.payload, kind := message.kind, msgId,
          flags := frameFlags true true } := by
      rw [frameAt, one, none, List.drop_nil, List.take_nil]
      rfl
    rw [one, List.range_one, List.map_singleton, alone]
  · rename_i nonempty
    have some : 0 < message.payload.length := by
      rw [List.length_pos_iff]
      exact fun none => nonempty (List.isEmpty_iff.mpr none)
    have count : frameCount chunkSize message.payload =
        (message.payload.length + chunkSize - 1) / chunkSize :=
      Nat.max_eq_right (Nat.div_pos (by omega) positive)
    refine List.ext_getElem ?_ ?_
    · simp [chunks, count]
    · intro index first second
      have within : index < frameCount chunkSize message.payload := by
        simpa using second
      have last := reaches_end positive within
      simp only [chunks, List.getElem_map, List.getElem_zipIdx, List.getElem_range, frameAt,
        Nat.zero_add, ge_iff_le]
      congr 2
      rw [Bool.eq_iff_iff, decide_eq_true_iff, beq_iff_eq]
      exact last

/-! ### What consecutive frames carry -/

def framesFrom (chunkSize : Nat) (message : Message) (msgId first count : Nat) :
    List FrameWrite :=
  (List.range' first count).map (frameAt chunkSize message msgId)

def payloadFrom (chunkSize : Nat) (payload : List UInt8) (first count : Nat) : List UInt8 :=
  (payload.drop (first * chunkSize)).take (count * chunkSize)

variable {message : Message} {msgId : Nat}

theorem framesFrom_succ (first count : Nat) :
    framesFrom chunkSize message msgId first (count + 1) =
      frameAt chunkSize message msgId first ::
        framesFrom chunkSize message msgId (first + 1) count := by
  rw [framesFrom, List.range'_succ, List.map_cons]
  rfl

theorem payloadFrom_succ (first count : Nat) :
    payloadFrom chunkSize payload first (count + 1) =
      (payload.drop (first * chunkSize)).take chunkSize ++
        payloadFrom chunkSize payload (first + 1) count := by
  unfold payloadFrom
  rw [Nat.succ_mul, Nat.add_comm, List.take_add, List.drop_drop, Nat.succ_mul]

theorem framesFrom_drop (first count dropped : Nat) :
    (framesFrom chunkSize message msgId first count).drop dropped =
      framesFrom chunkSize message msgId (first + dropped) (count - dropped) := by
  rw [framesFrom, ← List.map_drop, List.drop_range', Nat.mul_one]
  rfl

theorem framesFrom_take (first count taken : Nat) :
    (framesFrom chunkSize message msgId first count).take taken =
      framesFrom chunkSize message msgId first (min taken count) := by
  rw [framesFrom, framesFrom, ← List.map_take]
  rcases Nat.le_total count taken with all | some
  · rw [List.take_range'_of_length_le all, Nat.min_eq_right all]
  · rw [List.take_range'_of_length_ge some, Nat.min_eq_left some]

@[simp] theorem framesFrom_length (first count : Nat) :
    (framesFrom chunkSize message msgId first count).length = count := by
  rw [framesFrom, List.length_map, List.length_range']

theorem payload_within (positive : 0 < chunkSize) (payload : List UInt8) :
    payload.length ≤ frameCount chunkSize payload * chunkSize := by
  have counted := frameCount_pos chunkSize payload
  have last : payload.length ≤ (frameCount chunkSize payload - 1 + 1) * chunkSize :=
    (reaches_end positive (Nat.sub_lt counted Nat.one_pos)).mpr (Nat.sub_add_cancel counted)
  rwa [Nat.sub_add_cancel counted] at last

theorem payloadFrom_all (positive : 0 < chunkSize) {first count : Nat}
    (all : first + count = frameCount chunkSize payload) :
    payloadFrom chunkSize payload first count = payload.drop (first * chunkSize) := by
  have within := payload_within positive payload
  rw [← all, Nat.add_mul] at within
  refine List.take_of_length_le ?_
  rw [List.length_drop]
  omega

theorem payloadFrom_length (positive : 0 < chunkSize) {first count : Nat}
    (early : first + count < frameCount chunkSize payload) :
    (payloadFrom chunkSize payload first count).length = count * chunkSize := by
  rw [payloadFrom, List.length_take, List.length_drop]
  refine Nat.min_eq_left ?_
  rcases Nat.eq_zero_or_pos (first + count) with zero | nonempty
  · rw [show count = 0 by omega, Nat.zero_mul]
    exact Nat.zero_le _
  · have within : first + count - 1 < frameCount chunkSize payload := by omega
    have short : ¬ payload.length ≤ (first + count - 1 + 1) * chunkSize := fun reached =>
      absurd ((reaches_end positive within).mp reached) (by omega)
    rw [Nat.sub_add_cancel nonempty, Nat.add_mul] at short
    omega

theorem frameWrites_eq_framesFrom (positive : 0 < chunkSize) (message : Message) (msgId : Nat) :
    frameWrites message.payload message.kind chunkSize msgId =
      framesFrom chunkSize message msgId 0 (frameCount chunkSize message.payload) := by
  rw [frameWrites_eq positive, framesFrom, List.range_eq_range']

theorem frameAt_fits (index : Nat) :
    (frameAt chunkSize message msgId index).chunk.length ≤ chunkSize :=
  List.length_take_le _ _

end Framing
