/-
Messages that are published one after the other are received as they were.

No receiver depends on the ids: a message that is complete leaves nothing behind
which the next one could meet.
-/

import Myelon.Framing.Tape

namespace Framing

open Streaming

variable {chunkSize : Nat}

theorem owned_stream (positive : 0 < chunkSize) {runs : List (Run chunkSize)}
    (complete : ∀ run ∈ runs, run.Complete) :
    ownedReceiver.after none (stream runs) = none ∧
      ownedReceiver.outputs none (stream runs) = completed runs := by
  induction runs with
  | nil => exact ⟨rfl, rfl⟩
  | cons run rest ih =>
      have here := complete run List.mem_cons_self
      obtain ⟨after, outputs⟩ := owned_complete positive here here.emitted_pos
      obtain ⟨later, others⟩ := ih fun other member =>
        complete other (List.mem_cons_of_mem _ member)
      rw [stream_cons, Transducer.after_append, Transducer.outputs_append, Run.frames, after,
        outputs, later, others, completed_cons_complete here, Nat.zero_mul, List.drop_zero]
      exact ⟨rfl, rfl⟩

/-- Whatever the slots and the buffers held before, wherever the counter of message ids
stands and however the frames are cut into batches, each receiver gets the messages. -/
def RoundTrips (F : Type) [FramedTransportFrame F] (messages : List Message) : Prop :=
  ∀ (messageId : Nat) (old : Nat → F), ∃ frames metas,
    publishAll old messageId messages = some frames ∧ frameMetas frames = some metas ∧
    ownedReceiver.outputs none metas = messages ∧
    (∀ buffer, leasedReceiver.outputs (buffer, none) metas = messages) ∧
    ∀ (buffer : ReassemblyBuffer) (batches : List (List FrameMeta)),
      batches.flatten = metas →
      (batchReceiver.batchOutputs buffer batches).flatten = messages

theorem roundTrips_of_carries {F : Type} [FramedTransportFrame F] (carries : Carries F)
    (positive : 0 < FramedTransportFrame.payloadCapacity F) (messages : List Message) :
    RoundTrips F messages := by
  intro messageId old
  obtain ⟨frames, published, shown⟩ := publishAll_shows old carries positive messageId messages
  have complete : ∀ run ∈ numberedRuns (FramedTransportFrame.payloadCapacity F)
      (idsFrom messageId) messages, run.Complete := numberedRuns_complete
  have owned := (owned_stream positive complete).2
  rw [completed_numberedRuns] at owned
  refine ⟨frames, _, published, shown, owned, fun buffer => ?_, fun buffer batches cut => ?_⟩
  · rw [leased_outputs, owned]
  · rw [Transducer.batchOutputs_flatten, cut, batch_stream positive, completed_numberedRuns]

/-- What is published through either type of frames is received as it was. -/
theorem messages_round_trip (dataBytes : Nat) (positive : 1 ≤ dataBytes)
    (bounded : dataBytes < 2 ^ 32) (messages : List Message) :
    RoundTrips (FixedFrame dataBytes) messages ∧
      RoundTrips (AlignedFixedFrame dataBytes) messages :=
  ⟨roundTrips_of_carries (fixedFrame_carries bounded) positive messages,
    roundTrips_of_carries (alignedFixedFrame_carries bounded) positive messages⟩

/-- A message of two frames, an empty one, and one that fills its frame. -/
theorem messages_round_trip_small :
    RoundTrips (FixedFrame 2) [⟨1, [10, 11, 12]⟩, ⟨2, []⟩, ⟨3, [13, 14]⟩] ∧
      RoundTrips (AlignedFixedFrame 2) [⟨1, [10, 11, 12]⟩, ⟨2, []⟩, ⟨3, [13, 14]⟩] :=
  messages_round_trip 2 (by decide) (by decide) _

end Framing
