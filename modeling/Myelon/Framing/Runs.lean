/-
What the receivers make of the frames that publications leave behind.

A publication that fails stops after some of its frames. The owned receiver goes on
with a message until its last frame, whoever it is from; the batch receiver starts
anew with every first frame.
-/

import Myelon.Framing.Reassembly

namespace Framing

open Streaming

variable {chunkSize : Nat}

/-- The frames one publication has written, all of its frames or fewer. -/
structure Run (chunkSize : Nat) where
  messageId : Nat
  message : Message
  emitted : Nat
  within : emitted ≤ frameCount chunkSize message.payload

def shownFrom (chunkSize : Nat) (message : Message) (msgId first count : Nat) :
    List FrameMeta :=
  (framesFrom chunkSize message msgId first count).map FrameWrite.shown

namespace Run

variable (run : Run chunkSize)

def framesAfter (first : Nat) : List FrameMeta :=
  shownFrom chunkSize run.message run.messageId first (run.emitted - first)

def frames : List FrameMeta := run.framesAfter 0

abbrev Complete : Prop := run.emitted = frameCount chunkSize run.message.payload

theorem frames_drop (first : Nat) : run.frames.drop first = run.framesAfter first := by
  rw [frames, framesAfter, framesAfter, shownFrom, shownFrom, ← List.map_drop, framesFrom_drop,
    Nat.zero_add, Nat.sub_zero]

@[simp] theorem framesAfter_length (first : Nat) :
    (run.framesAfter first).length = run.emitted - first := by
  rw [framesAfter, shownFrom, List.length_map, framesFrom_length]

@[simp] theorem frames_length : run.frames.length = run.emitted := run.framesAfter_length 0

theorem Complete.emitted_pos {run : Run chunkSize} (complete : run.Complete) :
    0 < run.emitted := by
  rw [complete]
  exact frameCount_pos _ _

end Run

def stream (runs : List (Run chunkSize)) : List FrameMeta := runs.flatMap Run.frames

/-- The messages whose publication was not cut short. -/
def completed (runs : List (Run chunkSize)) : List Message :=
  (runs.filter fun run => decide run.Complete).map Run.message

@[simp] theorem stream_nil : stream ([] : List (Run chunkSize)) = [] := rfl

@[simp] theorem stream_cons (run : Run chunkSize) (runs : List (Run chunkSize)) :
    stream (run :: runs) = run.frames ++ stream runs := rfl

theorem stream_append (first second : List (Run chunkSize)) :
    stream (first ++ second) = stream first ++ stream second :=
  List.flatMap_append

theorem completed_cons_complete {run : Run chunkSize} (complete : run.Complete)
    (runs : List (Run chunkSize)) : completed (run :: runs) = run.message :: completed runs :=
  congrArg (List.map Run.message) (List.filter_cons_of_pos (decide_eq_true complete))

theorem completed_cons_cut {run : Run chunkSize} (cut : ¬ run.Complete)
    (runs : List (Run chunkSize)) : completed (run :: runs) = completed runs :=
  congrArg (List.map Run.message) (List.filter_cons_of_neg (by simpa using cut))

theorem mem_completed {run : Run chunkSize} {runs : List (Run chunkSize)} (member : run ∈ runs)
    (complete : run.Complete) : run.message ∈ completed runs :=
  List.mem_map_of_mem (List.mem_filter.mpr ⟨member, decide_eq_true complete⟩)

theorem completed_subset {runs : List (Run chunkSize)} {message : Message}
    (member : message ∈ completed runs) : message ∈ runs.map Run.message := by
  obtain ⟨run, found, rfl⟩ := List.mem_map.mp member
  exact List.mem_map_of_mem (List.mem_filter.mp found).1

/-! ### Segments of one message -/

section Segments

variable (message : Message) (msgId : Nat)

theorem shownFrom_succ (first count : Nat) :
    shownFrom chunkSize message msgId first (count + 1) =
      (frameAt chunkSize message msgId first).shown ::
        shownFrom chunkSize message msgId (first + 1) count := by
  rw [shownFrom, framesFrom_succ, List.map_cons]
  rfl

theorem shownFrom_snoc (first count : Nat) :
    shownFrom chunkSize message msgId first (count + 1) =
      shownFrom chunkSize message msgId first count ++
        [(frameAt chunkSize message msgId (first + count)).shown] := by
  rw [shownFrom, framesFrom, List.range'_1_concat, List.map_append, List.map_append]
  rfl

theorem payloadFrom_last (positive : 0 < chunkSize) {payload : List UInt8} {first before : Nat}
    (all : first + (before + 1) = frameCount chunkSize payload) :
    payloadFrom chunkSize payload first before ++
      (payload.drop ((first + before) * chunkSize)).take chunkSize =
        payload.drop (first * chunkSize) := by
  rw [← payloadFrom_all positive all]
  unfold payloadFrom
  rw [Nat.succ_mul, List.take_add, List.drop_drop, ← Nat.add_mul]

@[simp] theorem shown_msgId (index : Nat) :
    (frameAt chunkSize message msgId index).shown.msgId = msgId := rfl

@[simp] theorem shown_kind (index : Nat) :
    (frameAt chunkSize message msgId index).shown.kind = message.kind := rfl

@[simp] theorem shown_data (index : Nat) :
    (frameAt chunkSize message msgId index).shown.data =
      (message.payload.drop (index * chunkSize)).take chunkSize := rfl

@[simp] theorem shown_flags (index : Nat) :
    (frameAt chunkSize message msgId index).shown.flags =
      frameFlags (index == 0) (index + 1 == frameCount chunkSize message.payload) := rfl

end Segments

/-! ### The owned receiver -/

variable {message : Message} {msgId : Nat}

/-- What a message that is waited for is before its first frame. -/
def emptyMessage (kind : UInt8) (msgId : Nat) : PartialMessage :=
  { messageMeta := { kind, msgId }, payload := [] }

theorem owned_first (index : Nat) :
    ownedReceiver.step none (frameAt chunkSize message msgId index).shown =
      ownedReceiver.step (some (emptyMessage message.kind msgId))
        (frameAt chunkSize message msgId index).shown := by
  by_cases last : index + 1 = frameCount chunkSize message.payload
  · by_cases first : index = 0
    · simp [ownedReceiver, recvFirst, recvRest, handed, emptyMessage, first, ← last]
    · simp [ownedReceiver, recvFirst, recvRest, handed, emptyMessage, first, last]
  · simp [ownedReceiver, recvFirst, recvRest, emptyMessage, last]

variable {pending : PartialMessage}

theorem owned_continues (same : pending.messageMeta.msgId = msgId) {index : Nat}
    (early : index + 1 ≠ frameCount chunkSize message.payload) :
    ownedReceiver.step (some pending) (frameAt chunkSize message msgId index).shown =
      (some { pending with payload :=
        pending.payload ++ (message.payload.drop (index * chunkSize)).take chunkSize }, none) := by
  simp [ownedReceiver, recvRest, same, early]

theorem owned_ends (same : pending.messageMeta.msgId = msgId) {index : Nat}
    (last : index + 1 = frameCount chunkSize message.payload) :
    ownedReceiver.step (some pending) (frameAt chunkSize message msgId index).shown =
      (none, some { kind := pending.messageMeta.kind, payload :=
        pending.payload ++ (message.payload.drop (index * chunkSize)).take chunkSize }) := by
  simp [ownedReceiver, recvRest, handed, same, last]

theorem owned_skips (other : pending.messageMeta.msgId ≠ msgId) (index : Nat) :
    ownedReceiver.step (some pending) (frameAt chunkSize message msgId index).shown =
      (some pending, none) := by
  simp [ownedReceiver, recvRest, Ne.symm other]

theorem owned_collects (same : pending.messageMeta.msgId = msgId) {first count : Nat}
    (early : first + count < frameCount chunkSize message.payload) :
    ownedReceiver.after (some pending) (shownFrom chunkSize message msgId first count) =
      some { pending with payload :=
        pending.payload ++ payloadFrom chunkSize message.payload first count } ∧
    ownedReceiver.outputs (some pending) (shownFrom chunkSize message msgId first count) = [] := by
  induction count generalizing first pending with
  | zero =>
      rw [payloadFrom, Nat.zero_mul, List.take_zero, List.append_nil]
      exact ⟨rfl, rfl⟩
  | succ count ih =>
      have soon : first + 1 ≠ frameCount chunkSize message.payload := by omega
      have rest : first + 1 + count < frameCount chunkSize message.payload := by omega
      rw [shownFrom_succ, Transducer.after_cons, Transducer.outputs_cons,
        owned_continues same soon, payloadFrom_succ, ← List.append_assoc]
      let collected : PartialMessage :=
        { pending with
          payload :=
            pending.payload ++ (message.payload.drop (first * chunkSize)).take chunkSize }
      have here : collected.messageMeta.msgId = msgId := same
      exact ih here rest

theorem owned_completes (positive : 0 < chunkSize) (same : pending.messageMeta.msgId = msgId)
    {first count : Nat} (all : first + count = frameCount chunkSize message.payload)
    (nonempty : 0 < count) :
    ownedReceiver.after (some pending) (shownFrom chunkSize message msgId first count) = none ∧
    ownedReceiver.outputs (some pending) (shownFrom chunkSize message msgId first count) =
      [{ kind := pending.messageMeta.kind
         payload := pending.payload ++ message.payload.drop (first * chunkSize) }] := by
  obtain ⟨before, rfl⟩ : ∃ before, count = before + 1 := ⟨count - 1, by omega⟩
  have early : first + before < frameCount chunkSize message.payload := by omega
  have last : first + before + 1 = frameCount chunkSize message.payload := by omega
  obtain ⟨after, outputs⟩ := owned_collects same early
  let collected : PartialMessage :=
    { pending with
      payload := pending.payload ++ payloadFrom chunkSize message.payload first before }
  have here : collected.messageMeta.msgId = msgId := same
  have ended := owned_ends here last
  rw [shownFrom_snoc, Transducer.after_snoc, Transducer.outputs_snoc, after, outputs, ended,
    List.append_assoc, payloadFrom_last positive all]
  exact ⟨rfl, rfl⟩

theorem owned_passes (other : pending.messageMeta.msgId ≠ msgId) (first count : Nat) :
    ownedReceiver.after (some pending) (shownFrom chunkSize message msgId first count) =
      some pending ∧
    ownedReceiver.outputs (some pending) (shownFrom chunkSize message msgId first count) = [] := by
  induction count generalizing first with
  | zero => exact ⟨rfl, rfl⟩
  | succ count ih =>
      rw [shownFrom_succ, Transducer.after_cons, Transducer.outputs_cons, owned_skips other]
      exact ih (first + 1)

variable {run : Run chunkSize}

/-- In front of a run, the owned receiver is as good as at work on its message. -/
theorem owned_enters {first : Nat} (nonempty : first < run.emitted) :
    ownedReceiver.after none (run.framesAfter first) =
      ownedReceiver.after (some (emptyMessage run.message.kind run.messageId))
        (run.framesAfter first) ∧
    ownedReceiver.outputs none (run.framesAfter first) =
      ownedReceiver.outputs (some (emptyMessage run.message.kind run.messageId))
        (run.framesAfter first) := by
  obtain ⟨rest, more⟩ : ∃ rest, run.emitted - first = rest + 1 :=
    ⟨run.emitted - first - 1, by omega⟩
  rw [Run.framesAfter, more, shownFrom_succ, Transducer.after_cons, Transducer.outputs_cons,
    Transducer.after_cons, Transducer.outputs_cons, owned_first]
  exact ⟨rfl, rfl⟩

theorem owned_complete (positive : 0 < chunkSize) (complete : run.Complete) {first : Nat}
    (nonempty : first < run.emitted) :
    ownedReceiver.after none (run.framesAfter first) = none ∧
    ownedReceiver.outputs none (run.framesAfter first) =
      [{ run.message with payload := run.message.payload.drop (first * chunkSize) }] := by
  obtain ⟨after, outputs⟩ := owned_enters nonempty
  have all : first + (run.emitted - first) = frameCount chunkSize run.message.payload := by
    omega
  have completes : _ ∧ ownedReceiver.outputs
      (some (emptyMessage run.message.kind run.messageId)) (run.framesAfter first) = _ :=
    owned_completes positive rfl all (by omega)
  exact ⟨after.trans completes.1, outputs.trans completes.2⟩

theorem owned_cut (cut : ¬ run.Complete) {first : Nat} (nonempty : first < run.emitted) :
    ownedReceiver.after none (run.framesAfter first) =
      some { messageMeta := { kind := run.message.kind, msgId := run.messageId }
             payload := payloadFrom chunkSize run.message.payload first (run.emitted - first) } ∧
    ownedReceiver.outputs none (run.framesAfter first) = [] := by
  obtain ⟨after, outputs⟩ := owned_enters nonempty
  have early : first + (run.emitted - first) < frameCount chunkSize run.message.payload := by
    have within := run.within
    omega
  have collects : ownedReceiver.after
      (some (emptyMessage run.message.kind run.messageId)) (run.framesAfter first) = _ ∧ _ :=
    owned_collects rfl early
  exact ⟨after.trans collects.1, outputs.trans collects.2⟩

/-! ### The batch receiver -/

variable {buffer : ReassemblyBuffer}

/-- A frame that is not the first of its message goes to the message in the buffer, if it
is one of that message. -/
theorem batch_continues (same : buffer.msgId = msgId) {index : Nat} (later : 0 < index)
    (early : index + 1 ≠ frameCount chunkSize message.payload) :
    batchReceiver.step buffer (frameAt chunkSize message msgId index).shown =
      (buffer.append ((message.payload.drop (index * chunkSize)).take chunkSize), none) := by
  have notFirst : index ≠ 0 := Nat.ne_of_gt later
  simp [batchReceiver, processFrame, same, notFirst, early]

theorem batch_ends (same : buffer.msgId = msgId) {index : Nat} (later : 0 < index)
    (last : index + 1 = frameCount chunkSize message.payload) :
    batchReceiver.step buffer (frameAt chunkSize message msgId index).shown =
      ((buffer.append ((message.payload.drop (index * chunkSize)).take chunkSize)).reset,
        some { kind := buffer.kind, payload :=
          buffer.bytes ++ (message.payload.drop (index * chunkSize)).take chunkSize }) := by
  have notFirst : index ≠ 0 := Nat.ne_of_gt later
  simp [batchReceiver, processFrame, same, notFirst, last]

theorem batch_skips (other : buffer.msgId ≠ msgId) {index : Nat} (later : 0 < index) :
    batchReceiver.step buffer (frameAt chunkSize message msgId index).shown = (buffer, none) := by
  have notFirst : index ≠ 0 := Nat.ne_of_gt later
  simp [batchReceiver, processFrame, other, notFirst]

theorem batch_single (single : frameCount chunkSize message.payload = 1) :
    batchReceiver.step buffer (frameAt chunkSize message msgId 0).shown =
      (buffer, some { kind := message.kind, payload := message.payload.take chunkSize }) := by
  simp [batchReceiver, processFrame, single]

theorem batch_starts (several : frameCount chunkSize message.payload ≠ 1) :
    batchReceiver.step buffer (frameAt chunkSize message msgId 0).shown =
      (buffer.start msgId message.kind (message.payload.take chunkSize)
        (message.payload.take chunkSize).length, none) := by
  have early : ¬ 1 = frameCount chunkSize message.payload := fun same => several same.symm
  simp [batchReceiver, processFrame, early, FrameWrite.shown, frameAt]

theorem batch_collects (same : buffer.msgId = msgId) {first count : Nat} (later : 0 < first)
    (early : first + count < frameCount chunkSize message.payload) :
    ((batchReceiver.after buffer (shownFrom chunkSize message msgId first count)).msgId = msgId ∧
      (batchReceiver.after buffer (shownFrom chunkSize message msgId first count)).kind =
        buffer.kind ∧
      (batchReceiver.after buffer (shownFrom chunkSize message msgId first count)).bytes =
        buffer.bytes ++ payloadFrom chunkSize message.payload first count) ∧
    batchReceiver.outputs buffer (shownFrom chunkSize message msgId first count) = [] := by
  induction count generalizing first buffer with
  | zero =>
      rw [payloadFrom, Nat.zero_mul, List.take_zero, List.append_nil]
      exact ⟨⟨same, rfl, rfl⟩, rfl⟩
  | succ count ih =>
      have soon : first + 1 ≠ frameCount chunkSize message.payload := by omega
      have rest : first + 1 + count < frameCount chunkSize message.payload := by omega
      rw [shownFrom_succ, Transducer.after_cons, Transducer.outputs_cons,
        batch_continues same later soon, payloadFrom_succ, ← List.append_assoc,
        ← ReassemblyBuffer.bytes_append]
      have here : (buffer.append
        ((message.payload.drop (first * chunkSize)).take chunkSize)).msgId = msgId := same
      exact ih here (Nat.succ_pos first) rest

theorem batch_completes (positive : 0 < chunkSize) (same : buffer.msgId = msgId)
    {first count : Nat} (later : 0 < first)
    (all : first + count = frameCount chunkSize message.payload) (nonempty : 0 < count) :
    batchReceiver.outputs buffer (shownFrom chunkSize message msgId first count) =
      [{ kind := buffer.kind
         payload := buffer.bytes ++ message.payload.drop (first * chunkSize) }] := by
  obtain ⟨before, rfl⟩ : ∃ before, count = before + 1 := ⟨count - 1, by omega⟩
  have early : first + before < frameCount chunkSize message.payload := by omega
  have last : first + before + 1 = frameCount chunkSize message.payload := by omega
  obtain ⟨⟨here, kind, bytes⟩, outputs⟩ := batch_collects same later early
  rw [shownFrom_snoc, Transducer.outputs_snoc, outputs, batch_ends here (by omega) last, kind,
    bytes, List.append_assoc, payloadFrom_last positive all]
  rfl

theorem batch_passes (other : buffer.msgId ≠ msgId) {first : Nat} (later : 0 < first)
    (count : Nat) :
    batchReceiver.after buffer (shownFrom chunkSize message msgId first count) = buffer ∧
    batchReceiver.outputs buffer (shownFrom chunkSize message msgId first count) = [] := by
  induction count generalizing first with
  | zero => exact ⟨rfl, rfl⟩
  | succ count ih =>
      rw [shownFrom_succ, Transducer.after_cons, Transducer.outputs_cons,
        batch_skips other later]
      exact ih (Nat.succ_pos first)

theorem batch_complete (positive : 0 < chunkSize) (buffer : ReassemblyBuffer)
    {run : Run chunkSize} (complete : run.Complete) :
    batchReceiver.outputs buffer run.frames = [run.message] := by
  have nonempty := complete.emitted_pos
  obtain ⟨more, emitted⟩ : ∃ more, run.emitted = more + 1 := ⟨run.emitted - 1, by omega⟩
  rw [Run.frames, Run.framesAfter, emitted, Nat.sub_zero, shownFrom_succ,
    Transducer.outputs_cons]
  by_cases single : frameCount chunkSize run.message.payload = 1
  · have short : run.message.payload.length ≤ chunkSize := by
      have reach := payload_within positive run.message.payload
      rwa [single, Nat.one_mul] at reach
    obtain rfl : more = 0 := by omega
    rw [batch_single single, List.take_of_length_le short]
    rfl
  · have all : 0 + 1 + more = frameCount chunkSize run.message.payload := by omega
    have here : (buffer.start run.messageId run.message.kind
        (run.message.payload.take chunkSize)
        (run.message.payload.take chunkSize).length).msgId = run.messageId := rfl
    rw [batch_starts single, batch_completes positive here (Nat.succ_pos 0) all (by omega)]
    simp

theorem batch_cut (buffer : ReassemblyBuffer) {run : Run chunkSize} (cut : ¬ run.Complete) :
    batchReceiver.outputs buffer run.frames = [] := by
  have within := run.within
  rcases Nat.eq_zero_or_pos run.emitted with none | nonempty
  · rw [Run.frames, Run.framesAfter, none]
    rfl
  · obtain ⟨more, emitted⟩ : ∃ more, run.emitted = more + 1 := ⟨run.emitted - 1, by omega⟩
    have several : frameCount chunkSize run.message.payload ≠ 1 := by omega
    have early : 0 + 1 + more < frameCount chunkSize run.message.payload := by omega
    have here : (buffer.start run.messageId run.message.kind
        (run.message.payload.take chunkSize)
        (run.message.payload.take chunkSize).length).msgId = run.messageId := rfl
    rw [Run.frames, Run.framesAfter, emitted, Nat.sub_zero, shownFrom_succ,
      Transducer.outputs_cons, batch_starts several]
    exact (batch_collects here (Nat.succ_pos 0) early).2

theorem batch_stream (positive : 0 < chunkSize) (buffer : ReassemblyBuffer)
    (runs : List (Run chunkSize)) :
    batchReceiver.outputs buffer (stream runs) = completed runs := by
  induction runs generalizing buffer with
  | nil => rfl
  | cons run rest ih =>
      rw [stream_cons, Transducer.outputs_append, ih]
      by_cases complete : run.Complete
      · rw [batch_complete positive buffer complete, completed_cons_complete complete]
        rfl
      · rw [batch_cut buffer complete, completed_cons_cut complete]
        rfl

end Framing
