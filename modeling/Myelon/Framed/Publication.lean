/-
What the calls of a framed producer write.

A call that returns has written every frame of its message. A managed call that fails has
written the frames in front of the one for which it found no room.
-/

import Mathlib.Data.List.Forall2
import Myelon.Framed.Application
import Myelon.Framing.Tape
import Myelon.Ring.ProducerTriples

namespace Framed

open Interleaving Ring Framing

/-! ### Values that some calls have written -/

section Values

variable {F : Type} [FramedTransportFrame F]

def WrittenBy (writes : List FrameWrite) (values : List F) : Prop :=
  List.Forall₂ (fun write value => ∃ slot : F,
    FramedTransportFrame.writeFrame slot write.chunk write.kind write.msgId write.flags =
      some value) writes values

theorem writtenBy_nil : WrittenBy [] ([] : List F) := List.Forall₂.nil

theorem WrittenBy.cons {write : FrameWrite} {slot value : F} {writes : List FrameWrite}
    {values : List F}
    (filled : FramedTransportFrame.writeFrame slot write.chunk write.kind write.msgId
      write.flags = some value)
    (written : WrittenBy writes values) : WrittenBy (write :: writes) (value :: values) :=
  List.Forall₂.cons ⟨slot, filled⟩ written

theorem WrittenBy.shown (carries : Carries F) {writes : List FrameWrite} {values : List F}
    (fit : ∀ write ∈ writes,
      write.chunk.length ≤ FramedTransportFrame.payloadCapacity F)
    (written : WrittenBy writes values) :
    frameMetas values = some (writes.map FrameWrite.shown) := by
  induction written with
  | nil => rfl
  | @cons write value writes values first rest ih =>
      obtain ⟨slot, filled⟩ := first
      obtain ⟨after, same, shown⟩ := carries.written slot write (fit write List.mem_cons_self)
      rw [filled] at same
      cases same
      have one : frameMetas [value] = some [write.shown] := by
        unfold frameMetas
        rw [List.mapM_cons, shown, List.mapM_nil]
        rfl
      exact frameMetas_append one (ih fun other member => fit other (List.mem_cons_of_mem _ member))

end Values

/-! ### The loops over the frames -/

variable {transport : Transport} {application : Application transport}
variable [FramedTransportFrame application.interface.Value]
variable {policy : Policy application}
variable {written : List application.interface.Value}
variable {replies : List (Nat × application.interface.ProducerReply)}

def Wrote (policy : Policy application) (written : List application.interface.Value)
    (replies : List (Nat × application.interface.ProducerReply)) (writes : List FrameWrite)
    (producer : Ring.Producer) (world : World application.interface) : Prop :=
  ∃ values, WrittenBy writes values ∧
    policy.Resting (written ++ values) replies (-1) producer world

theorem Wrote.more {write : FrameWrite} {slot value : application.interface.Value}
    {writes : List FrameWrite} {producer : Ring.Producer} {world : World application.interface}
    (filled : FramedTransportFrame.writeFrame slot write.chunk write.kind write.msgId
      write.flags = some value)
    (wrote : Wrote policy (written ++ [value]) replies writes producer world) :
    Wrote policy written replies (write :: writes) producer world := by
  obtain ⟨values, writtenBy, resting⟩ := wrote
  rw [List.append_assoc] at resting
  exact ⟨value :: values, writtenBy.cons filled, resting⟩

theorem wrote_nothing {producer : Ring.Producer} {world : World application.interface}
    (resting : policy.Resting written replies (-1) producer world) :
    Wrote policy written replies [] producer world :=
  ⟨[], writtenBy_nil, by rwa [List.append_nil]⟩

theorem wrote_one {write : FrameWrite} {producer : Ring.Producer}
    {world : World application.interface}
    (extended : policy.Extended written replies (-1)
      (fun _ => Producer.writeFrame write.chunk write.kind write.msgId write.flags) 1
      producer world) :
    ∃ slot value, FramedTransportFrame.writeFrame slot write.chunk write.kind write.msgId
        write.flags = some value ∧
      policy.Resting (written ++ [value]) replies (-1) producer world := by
  obtain ⟨values, ⟨length, each⟩, resting⟩ := extended
  obtain ⟨value, rfl⟩ := List.length_eq_one_iff.mp length
  obtain ⟨slot, filled⟩ := each 0 value rfl
  exact ⟨slot, value, filled, resting⟩

theorem forEach_triple {body : FrameWrite → ProducerProcess application.interface Unit}
    (writesOne : ∀ write written,
      policy.ProducerTriple (policy.Resting written replies (-1)) (body write)
        (fun _ => policy.Extended written replies (-1) (fun _ =>
          Producer.writeFrame write.chunk write.kind write.msgId write.flags) 1))
    (writes : List FrameWrite) (written : List application.interface.Value) :
    policy.ProducerTriple (policy.Resting written replies (-1)) (forEach body writes)
      (fun _ => Wrote policy written replies writes) := by
  induction writes generalizing written with
  | nil => exact Contract.Triple.pure () (fun _ _ resting => wrote_nothing resting)
  | cons write rest ih =>
      apply Contract.Triple.bind (writesOne write written)
      intro _
      have others : ∀ slot value, policy.ProducerTriple
          (fun producer world =>
            FramedTransportFrame.writeFrame slot write.chunk write.kind write.msgId
              write.flags = some value ∧
            policy.Resting (written ++ [value]) replies (-1) producer world)
          (forEach body rest) (fun _ => Wrote policy written replies (write :: rest)) := by
        intro slot value
        apply Contract.Triple.assume (fun _ _ held => held.1)
        intro filled
        exact (ih (written ++ [value])).conseq (fun _ _ held => held.2)
          (fun _ _ _ wrote => wrote.more filled)
      exact (Contract.Triple.exists (fun slot => Contract.Triple.exists (others slot))).strengthen
        (fun _ _ extended => wrote_one extended)

/-- The first frames of those that were to be written, all of them unless there is an error. -/
def WroteUntil {Error : Type} (policy : Policy application)
    (written : List application.interface.Value)
    (replies : List (Nat × application.interface.ProducerReply)) (writes : List FrameWrite)
    (result : Except Error Unit) (producer : Ring.Producer)
    (world : World application.interface) : Prop :=
  match result with
  | .ok () => Wrote policy written replies writes producer world
  | .error _ => ∃ count < writes.length,
      Wrote policy written replies (writes.take count) producer world

theorem tryEach_triple {Error : Type}
    {body : FrameWrite → ProducerProcess application.interface (Except Error Unit)}
    (writesOne : ∀ write written,
      policy.ProducerTriple (policy.Resting written replies (-1)) (body write)
        (fun result producer world => match result with
          | .ok () => policy.Extended written replies (-1) (fun _ =>
              Producer.writeFrame write.chunk write.kind write.msgId write.flags) 1 producer world
          | .error _ => policy.Resting written replies (-1) producer world))
    (writes : List FrameWrite) (written : List application.interface.Value) :
    policy.ProducerTriple (policy.Resting written replies (-1)) (tryEach body writes)
      (WroteUntil policy written replies writes) := by
  induction writes generalizing written with
  | nil => exact Contract.Triple.pure (Except.ok ()) (fun _ _ resting => wrote_nothing resting)
  | cons write rest ih =>
      apply Contract.Triple.bind (writesOne write written)
      intro result
      cases result with
      | error error =>
          apply Contract.Triple.pure
          intro producer world resting
          exact ⟨0, Nat.zero_lt_succ _, wrote_nothing resting⟩
      | ok done =>
          have others : ∀ slot value, policy.ProducerTriple
              (fun producer world =>
                FramedTransportFrame.writeFrame slot write.chunk write.kind write.msgId
                  write.flags = some value ∧
                policy.Resting (written ++ [value]) replies (-1) producer world)
              (tryEach body rest) (WroteUntil policy written replies (write :: rest)) := by
            intro slot value
            apply Contract.Triple.assume (fun _ _ held => held.1)
            intro filled
            apply (ih (written ++ [value])).conseq (fun _ _ held => held.2)
            intro result producer world wrote
            cases result with
            | ok done => exact Wrote.more filled wrote
            | error error =>
                obtain ⟨count, fewer, wrote⟩ := wrote
                exact ⟨count + 1, Nat.succ_lt_succ fewer, wrote.more filled⟩
          exact (Contract.Triple.exists
            (fun slot => Contract.Triple.exists (others slot))).strengthen
            (fun _ _ extended => wrote_one extended)

/-! ### The two calls -/

omit [FramedTransportFrame application.interface.Value] in
theorem nextMessageId_triple {pre : Ring.Producer → World application.interface → Prop}
    (stable : ProducerStable pre) :
    policy.ProducerTriple pre Producer.nextMessageId (fun _ => pre) :=
  Policy.producer_idle stable rfl

omit [FramedTransportFrame application.interface.Value] in
theorem checkChunks_triple {pre : Ring.Producer → World application.interface → Prop}
    (stable : ProducerStable pre) (payload : List UInt8) (chunkSize : Nat) :
    policy.ProducerTriple pre
      (checkChunks payload chunkSize : ProducerProcess application.interface Unit)
      (fun _ producer world => (payload = [] ∨ 0 < chunkSize) ∧ pre producer world) := by
  unfold checkChunks
  split
  · exact Policy.producer_panic stable
  · rename_i passes
    apply Contract.Triple.pure
    intro producer world held
    refine ⟨?_, held⟩
    by_cases empty : payload = []
    · exact .inl empty
    · exact .inr (Nat.pos_of_ne_zero fun zero => passes ⟨empty, zero⟩)

abbrev writesOf (application : Application transport)
    [FramedTransportFrame application.interface.Value] (message : Message) (msgId : Nat) :
    List FrameWrite :=
  frameWrites message.payload message.kind
    (FramedTransportFrame.payloadCapacity application.interface.Value) msgId

/-- The message can be cut: only an empty one fits in frames without room. -/
def Cuttable (F : Type) [FramedTransportFrame F] (message : Message) : Prop :=
  message.payload = [] ∨ 0 < FramedTransportFrame.payloadCapacity F

theorem publish_triple (message : Message) :
    policy.ProducerTriple (policy.Resting written replies (-1))
      (Producer.publish transport message.payload message.kind)
      (fun _ producer world => Cuttable application.interface.Value message ∧ ∃ msgId,
        Wrote policy written replies (writesOf application message msgId) producer world) := by
  apply Contract.Triple.bind (nextMessageId_triple Policy.resting_stable)
  intro msgId
  apply Contract.Triple.bind (checkChunks_triple Policy.resting_stable _ _)
  intro _
  apply Contract.Triple.assume (fun _ _ held => held.1)
  intro cuttable
  apply (forEach_triple (fun write written => Policy.publish_triple)
    (writesOf application message msgId) written).conseq (fun _ _ held => held.2)
  exact fun _ _ _ wrote => ⟨cuttable, msgId, wrote⟩

theorem publishManaged_triple (message : Message) :
    policy.ProducerTriple (policy.Resting written replies (-1))
      (Producer.publishManaged transport message.payload message.kind)
      (fun result producer world => Cuttable application.interface.Value message ∧ ∃ msgId,
        WroteUntil policy written replies (writesOf application message msgId) result producer
          world) := by
  apply Contract.Triple.bind (nextMessageId_triple Policy.resting_stable)
  intro msgId
  apply Contract.Triple.bind (checkChunks_triple Policy.resting_stable _ _)
  intro _
  apply Contract.Triple.assume (fun _ _ held => held.1)
  intro cuttable
  refine (tryEach_triple (fun write written => ?_)
    (writesOf application message msgId) written).conseq (fun _ _ held => held.2) ?_
  · apply Contract.Triple.bind Policy.publishManaged_triple
    intro result
    cases result with
    | error error => exact Contract.Triple.pure _ (fun _ _ held => held)
    | ok sequence => exact Contract.Triple.pure _ (fun _ _ held => held)
  · exact fun _ _ _ wrote => ⟨cuttable, msgId, wrote⟩

/-! ### Every call -/

section Calls

variable {F : Type} [FramedTransportFrame F] {publishPaths : List PublishPath}
variable {receivePaths : List ReceivePath} {consumerCounters : ConsumerCounters}
variable {policy : Policy (framedApplication transport F publishPaths receivePaths
  consumerCounters)}
variable {written : List F} {replies : List (Nat × Reply)}

theorem serveProducer_triple (request : { path // path ∈ publishPaths } × Message) :
    policy.ProducerTriple (policy.Resting written replies (-1)) (serveProducer transport request)
      (fun reply producer world => reply.message = request.2 ∧ Cuttable F request.2 ∧ ∃ msgId,
        WroteUntil policy written replies
          (writesOf (framedApplication transport F publishPaths receivePaths consumerCounters)
            request.2 msgId) reply.result producer world) := by
  obtain ⟨⟨path, _member⟩, message⟩ := request
  cases path with
  | publish =>
      apply Contract.Triple.bind (publish_triple message)
      intro _
      exact Contract.Triple.pure _ (fun _ _ wrote => ⟨rfl, wrote⟩)
  | publishManaged =>
      apply Contract.Triple.bind (publishManaged_triple message)
      intro result
      exact Contract.Triple.pure _ (fun _ _ wrote => ⟨rfl, wrote⟩)

theorem WroteUntil.values {Error : Type} {writes : List FrameWrite} {result : Except Error Unit}
    {producer : Ring.Producer} {world : World (framed F publishPaths receivePaths)}
    (wrote : WroteUntil policy written replies writes result producer world) :
    ∃ values, policy.Resting (written ++ values) replies (-1) producer world := by
  cases result with
  | ok done =>
      obtain ⟨values, _writtenBy, resting⟩ := wrote
      exact ⟨values, resting⟩
  | error error =>
      obtain ⟨count, _fewer, values, _writtenBy, resting⟩ := wrote
      exact ⟨values, resting⟩

theorem servesProducer_free (free : ∀ written replies reply, policy.answers written replies reply)
    (rested : ∀ written replies, policy.rested written replies) : policy.ServesProducer := by
  intro request written replies _
  apply (serveProducer_triple request).weaken
  intro reply producer world ⟨_same, _cuttable, msgId, wrote⟩
  obtain ⟨values, resting⟩ := wrote.values
  exact ⟨values, resting, free _ _ _, rested _ _⟩

end Calls

end Framed
