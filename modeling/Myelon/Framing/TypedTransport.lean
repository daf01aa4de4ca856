/-
Typed producers and consumers, with the counters of the typed layer.

A value that cannot be encoded leaves everything as it is. One that can is counted when it is
encoded and once more when it is published; the managed publication counts neither. Of the
receivers only the owned one counts.
-/

import Myelon.Framing.Mixed

namespace Framing

open Streaming

/-- The methods that a type of messages provides. What `access` shows in place is compared with
the value that was encoded. -/
structure Codec (Value Error : Type) where
  encode : Value → Except Error (List UInt8)
  decode : Decoder Value Error
  access : Decoder Value Error

variable {Value Error F : Type}

structure Codec.Lawful (codec : Codec Value Error) : Prop where
  decodes : ∀ {value bytes}, codec.encode value = .ok bytes → codec.decode bytes = .ok value
  accesses : ∀ {value bytes}, codec.encode value = .ok bytes → codec.access bytes = .ok value

/-- The counter behind a handle, if there was a slot for it. -/
abbrev CounterHandle := Option UInt64

def CounterHandle.add (handle : CounterHandle) (count : Nat) : CounterHandle :=
  handle.map (· + UInt64.ofNat count)

def CounterHandle.inc (handle : CounterHandle) : CounterHandle := handle.add 1

theorem CounterHandle.add_zero (handle : CounterHandle) : handle.add 0 = handle := by
  cases handle with
  | none => rfl
  | some value => exact congrArg some (UInt64.add_zero value)

theorem CounterHandle.add_add (handle : CounterHandle) (first second : Nat) :
    (handle.add first).add second = handle.add (first + second) := by
  cases handle with
  | none => rfl
  | some value =>
      have sum : value + UInt64.ofNat first + UInt64.ofNat second =
          value + UInt64.ofNat (first + second) := by
        rw [UInt64.add_assoc, ← UInt64.ofNat_add]
      exact congrArg some sum

/-! ### The producer -/

inductive TypedPublishError (Error Refusal : Type) where
  | codec (error : Error)
  | requiredConsumer (refusal : Refusal)
  deriving DecidableEq

structure TypedProducer (F : Type) where
  inner : Tape F
  framePublishTotal : CounterHandle
  codecEncodeTotal : CounterHandle

variable [FramedTransportFrame F]

namespace TypedProducer

variable {Refusal : Type} (codec : Codec Value Error) (old : Nat → F)

def publish (value : Value) (kind : UInt8) (producer : TypedProducer F) :
    Option (Except Error Unit × TypedProducer F) :=
  match codec.encode value with
  | .error error => some (.error error, producer)
  | .ok bytes =>
      let producer := { producer with codecEncodeTotal := producer.codecEncodeTotal.inc }
      (publishFramedPayloadInPlace fetchAddMessageId bytes kind
        (FramedTransportFrame.payloadCapacity F) (writeSlot old) producer.inner).map fun out =>
          (.ok (), { producer with
            inner := out.2
            framePublishTotal := producer.framePublishTotal.inc })

def publishRaw (bytes : List UInt8) (kind : UInt8) (producer : TypedProducer F) :
    Option (TypedProducer F) :=
  (publishFramedPayloadInPlace fetchAddMessageId bytes kind
    (FramedTransportFrame.payloadCapacity F) (writeSlot old) producer.inner).map fun out =>
      { producer with
        inner := out.2
        framePublishTotal := producer.framePublishTotal.inc }

def publishManaged
    (writeFrame : List UInt8 → UInt8 → Nat → UInt8 → Taping F (Except Refusal Unit))
    (value : Value) (kind : UInt8) (producer : TypedProducer F) :
    Option (Except (TypedPublishError Error Refusal) Unit × TypedProducer F) :=
  match codec.encode value with
  | .error error => some (.error (.codec error), producer)
  | .ok bytes =>
      (publishFramedPayloadResultInPlace fetchAddMessageId bytes kind
        (FramedTransportFrame.payloadCapacity F) writeFrame producer.inner).map fun out =>
          (out.1.mapError .requiredConsumer, { producer with inner := out.2 })

end TypedProducer

/-- A managed publication comes with the frame, counted from its first one, that the ring
refuses, if it refuses any. -/
inductive Operation (Value Refusal : Type) where
  | publish (value : Value) (kind : UInt8)
  | publishRaw (bytes : List UInt8) (kind : UInt8)
  | publishManaged (value : Value) (kind : UInt8) (refusal : Option (Nat × Refusal))

namespace Operation

variable {Refusal : Type} (codec : Codec Value Error) (old : Nat → F)

abbrev Answer (Error Refusal : Type) := Except (TypedPublishError Error Refusal) Unit

def perform (producer : TypedProducer F) :
    Operation Value Refusal → Option (Answer Error Refusal × TypedProducer F)
  | .publish value kind =>
      (producer.publish codec old value kind).map fun out => (out.1.mapError .codec, out.2)
  | .publishRaw bytes kind =>
      (producer.publishRaw old bytes kind).map fun producer => (.ok (), producer)
  | .publishManaged value kind refusal =>
      producer.publishManaged codec (refusingSlot old (producer.inner.refusalAt refusal)) value kind

def performAll (producer : TypedProducer F) :
    List (Operation Value Refusal) → Option (List (Answer Error Refusal) × TypedProducer F)
  | [] => some ([], producer)
  | operation :: rest =>
      (operation.perform codec old producer).bind fun out =>
        (performAll out.2 rest).map fun later => (out.1 :: later.1, later.2)

/-! ### What an operation should do -/

def encoded : Operation Value Refusal → Except Error Message
  | .publish value kind => (codec.encode value).map fun payload => { kind, payload }
  | .publishRaw payload kind => .ok { kind, payload }
  | .publishManaged value kind _ => (codec.encode value).map fun payload => { kind, payload }

def refusal : Operation Value Refusal → Option (Nat × Refusal)
  | .publish .. => none
  | .publishRaw .. => none
  | .publishManaged _ _ refusal => refusal

variable (chunkSize : Nat)

def emitted (operation : Operation Value Refusal) (message : Message) : Nat :=
  emittedOf operation.refusal (frameCount chunkSize message.payload)

/-- The message, where it has one that is published whole. -/
def message (operation : Operation Value Refusal) : Option Message :=
  (operation.encoded codec).toOption.filter fun message =>
    decide (operation.emitted chunkSize message = frameCount chunkSize message.payload)

def frames (operation : Operation Value Refusal) : Nat :=
  (operation.encoded codec).toOption.elim 0 (operation.emitted chunkSize)

/-- The ring refuses no frame but the first of a message. -/
def Uncut (operation : Operation Value Refusal) : Prop :=
  ∀ allowed error, operation.refusal = some (allowed, error) → allowed = 0

def publications : Operation Value Refusal → Nat
  | .publish value _ => if (codec.encode value).isOk then 1 else 0
  | .publishRaw _ _ => 1
  | .publishManaged .. => 0

def encodings : Operation Value Refusal → Nat
  | .publish value _ => if (codec.encode value).isOk then 1 else 0
  | .publishRaw _ _ => 0
  | .publishManaged .. => 0

def report (operation : Operation Value Refusal) : Option (Report Value Error) :=
  (operation.message codec chunkSize).map fun message =>
    match operation with
    | .publish value kind => .delivered kind value
    | .publishRaw .. => .of codec.decode message
    | .publishManaged value kind _ => .delivered kind value

def answer (operation : Operation Value Refusal) : Answer Error Refusal :=
  match operation.encoded codec with
  | .error error => .error (.codec error)
  | .ok message =>
      (outcome operation.refusal (frameCount chunkSize message.payload)).mapError .requiredConsumer

end Operation

/-! ### What the operations do -/

section Operations

variable {Refusal : Type} (old : Nat → F) (carries : Carries F)
variable (positive : 0 < FramedTransportFrame.payloadCapacity F)

theorem emittedOf_le (refusal : Option (Nat × Refusal)) (count : Nat) :
    emittedOf refusal count ≤ count := by
  cases refusal with
  | none => exact Nat.le_refl count
  | some refused => exact Nat.min_le_right refused.1 count

def Operation.run (chunkSize messageId : Nat) (operation : Operation Value Refusal)
    (message : Message) : Run chunkSize where
  messageId := messageId
  message := message
  emitted := operation.emitted chunkSize message
  within := emittedOf_le operation.refusal (frameCount chunkSize message.payload)

/-- What the operations publish. A message takes an id also where all of it is refused. -/
def Operation.runs (codec : Codec Value Error) (chunkSize : Nat) :
    Nat → List (Operation Value Refusal) → List (Run chunkSize)
  | _, [] => []
  | messageId, operation :: rest =>
      match (operation.encoded codec).toOption with
      | none => runs codec chunkSize messageId rest
      | some message =>
          operation.run chunkSize messageId message ::
            runs codec chunkSize ((messageId + 1) % 2 ^ 32) rest

structure Performs (codec : Codec Value Error) (operation : Operation Value Refusal)
    (before after : TypedProducer F) : Prop where
  messageId : after.inner.messageId =
    (operation.encoded codec).toOption.elim before.inner.messageId
      fun _ => (before.inner.messageId + 1) % 2 ^ 32
  grows : before.inner.Grows after.inner (stream ((operation.encoded codec).toOption.map
    (operation.run (FramedTransportFrame.payloadCapacity F) before.inner.messageId)).toList)
  publishes : after.framePublishTotal =
    before.framePublishTotal.add (operation.publications codec)
  encodes : after.codecEncodeTotal = before.codecEncodeTotal.add (operation.encodings codec)

theorem Performs.nothing {codec : Codec Value Error} {operation : Operation Value Refusal}
    {error : Error} (failed : operation.encoded codec = .error error)
    (uncounted : operation.publications codec = 0 ∧ operation.encodings codec = 0)
    (producer : TypedProducer F) : Performs codec operation producer producer where
  messageId := by
    rw [failed]
    rfl
  grows := by
    rw [failed]
    exact Tape.Grows.refl producer.inner
  publishes := by rw [uncounted.1, CounterHandle.add_zero]
  encodes := by rw [uncounted.2, CounterHandle.add_zero]

include carries positive

theorem message_written (message : Message) (tape : Tape F) :
    ∃ after, publishFramedPayloadInPlace fetchAddMessageId message.payload message.kind
        (FramedTransportFrame.payloadCapacity F) (writeSlot old) tape = some ((), after) ∧
      after.messageId = (tape.messageId + 1) % 2 ^ 32 ∧
      tape.Grows after (stream [{
        messageId := tape.messageId
        message
        emitted := frameCount (FramedTransportFrame.payloadCapacity F) message.payload
        within := Nat.le_refl _ }]) := by
  obtain ⟨after, written, messageId, grows⟩ :=
    publishInPlace_grows old carries positive message tape
  refine ⟨after, written, messageId, ?_⟩
  rw [stream_cons, stream_nil, List.append_nil]
  exact grows

theorem Operation.performs (codec : Codec Value Error) (operation : Operation Value Refusal)
    (before : TypedProducer F) :
    ∃ after, operation.perform codec old before =
        some (operation.answer codec (FramedTransportFrame.payloadCapacity F), after) ∧
      Performs codec operation before after := by
  cases operation with
  | publish value kind =>
      cases encoding : codec.encode value with
      | error error =>
          have failed : encoded codec (.publish value kind : Operation Value Refusal) =
              .error error := by
            rw [encoded, encoding]
            rfl
          refine ⟨before, ?_, Performs.nothing failed ?_ before⟩
          · rw [perform, TypedProducer.publish, encoding, answer, failed]
            rfl
          · rw [publications, encodings, encoding]
            exact ⟨rfl, rfl⟩
      | ok payload =>
          have made : encoded codec (.publish value kind : Operation Value Refusal) =
              .ok { kind, payload } := by
            rw [encoded, encoding]
            rfl
          obtain ⟨inner, written, messageId, grows⟩ :=
            message_written old carries positive { kind, payload } before.inner
          refine ⟨⟨inner, before.framePublishTotal.inc, before.codecEncodeTotal.inc⟩, ?_, ?_⟩
          · rw [perform, TypedProducer.publish, encoding, answer, made]
            dsimp only
            rw [written]
            rfl
          · constructor
            · rw [made]
              exact messageId
            · rw [made]
              exact grows
            · rw [publications, encoding]
              rfl
            · rw [encodings, encoding]
              rfl
  | publishRaw payload kind =>
      obtain ⟨inner, written, messageId, grows⟩ :=
        message_written old carries positive { kind, payload } before.inner
      refine ⟨⟨inner, before.framePublishTotal.inc, before.codecEncodeTotal⟩, ?_, messageId, grows,
        rfl, (CounterHandle.add_zero _).symm⟩
      rw [perform, TypedProducer.publishRaw, written]
      rfl
  | publishManaged value kind refusal =>
      cases encoding : codec.encode value with
      | error error =>
          have failed : encoded codec (.publishManaged value kind refusal) = .error error := by
            rw [encoded, encoding]
            rfl
          refine ⟨before, ?_, Performs.nothing failed ⟨rfl, rfl⟩ before⟩
          rw [perform, TypedProducer.publishManaged, encoding, answer, failed]
      | ok payload =>
          have made : encoded codec (.publishManaged value kind refusal) =
              .ok { kind, payload } := by
            rw [encoded, encoding]
            rfl
          obtain ⟨inner, written, messageId, grows⟩ :=
            publishResultInPlace_grows old carries positive { kind, payload } refusal before.inner
          refine ⟨⟨inner, before.framePublishTotal, before.codecEncodeTotal⟩, ?_, ?_⟩
          · rw [perform, TypedProducer.publishManaged, encoding, answer, made]
            dsimp only at written ⊢
            rw [written]
            rfl
          · constructor
            · rw [made]
              exact messageId
            · rw [made]
              change before.inner.Grows _ (stream [_])
              rw [stream_cons, stream_nil, List.append_nil]
              exact grows
            · exact (CounterHandle.add_zero _).symm
            · exact (CounterHandle.add_zero _).symm

theorem Operation.performsAll (codec : Codec Value Error)
    (operations : List (Operation Value Refusal)) (before : TypedProducer F) :
    ∃ after, performAll codec old before operations = some (operations.map
        (Operation.answer codec (FramedTransportFrame.payloadCapacity F)), after) ∧
      before.inner.Grows after.inner (stream (runs codec
        (FramedTransportFrame.payloadCapacity F) before.inner.messageId operations)) ∧
      after.framePublishTotal = before.framePublishTotal.add
        (operations.map (Operation.publications codec)).sum ∧
      after.codecEncodeTotal = before.codecEncodeTotal.add
        (operations.map (Operation.encodings codec)).sum := by
  induction operations generalizing before with
  | nil =>
      exact ⟨before, rfl, Tape.Grows.refl _, (CounterHandle.add_zero _).symm,
        (CounterHandle.add_zero _).symm⟩
  | cons operation rest ih =>
      obtain ⟨middle, performed, performs⟩ := operation.performs old carries positive codec before
      obtain ⟨after, others, further, publishes, encodes⟩ := ih middle
      refine ⟨after, ?_, ?_, ?_, ?_⟩
      · simp only [performAll, performed, Option.bind_some, others, Option.map_some, List.map_cons]
      · have grows := performs.grows
        have messageId := performs.messageId
        rw [runs]
        cases published : (operation.encoded codec).toOption with
        | none =>
            rw [published] at grows messageId
            rw [messageId] at further
            exact grows.trans further
        | some message =>
            rw [published] at grows messageId
            rw [messageId] at further
            have both := grows.trans further
            rw [Option.map_some, Option.toList_some, stream_cons, stream_nil, List.append_nil]
              at both
            exact both
      · rw [publishes, performs.publishes, CounterHandle.add_add, List.map_cons, List.sum_cons]
      · rw [encodes, performs.encodes, CounterHandle.add_add, List.map_cons, List.sum_cons]

end Operations

/-! ### What is published -/

section Published

variable {Refusal : Type} (codec : Codec Value Error) {chunkSize : Nat}

theorem runs_length (messageId : Nat) (operations : List (Operation Value Refusal)) :
    (stream (Operation.runs codec chunkSize messageId operations)).length =
      (operations.map (Operation.frames codec chunkSize)).sum := by
  induction operations generalizing messageId with
  | nil => rfl
  | cons operation rest ih =>
      rw [Operation.runs, List.map_cons, List.sum_cons, Operation.frames]
      cases (operation.encoded codec).toOption with
      | none =>
          rw [Option.elim_none, Nat.zero_add]
          exact ih messageId
      | some message =>
          dsimp only
          rw [stream_cons, List.length_append, ih, Run.frames_length, Option.elim_some]
          rfl

/-- The ids of some messages, and that of one in front of them. -/
def idBefore (messageId : Nat) (messageIds : Nat → Nat) : Nat → Nat
  | 0 => messageId
  | index + 1 => messageIds index

/-- Where no message is cut, those that are published are published whole. -/
theorem runs_uncut (messageId : Nat) {operations : List (Operation Value Refusal)}
    (uncut : ∀ operation ∈ operations, operation.Uncut) :
    ∃ messageIds, stream (Operation.runs codec chunkSize messageId operations) =
      framesFor chunkSize messageIds
        (operations.filterMap (Operation.message codec chunkSize)) := by
  induction operations generalizing messageId with
  | nil => exact ⟨idsFrom messageId, rfl⟩
  | cons operation rest ih =>
      have others (messageId : Nat) :=
        ih messageId fun other member => uncut other (List.mem_cons_of_mem operation member)
      rw [Operation.runs, List.filterMap_cons, Operation.message]
      cases (operation.encoded codec).toOption with
      | none => exact others messageId
      | some message =>
          obtain ⟨messageIds, later⟩ := others ((messageId + 1) % 2 ^ 32)
          dsimp only
          rw [stream_cons, later]
          have count := frameCount_pos chunkSize message.payload
          cases refused : operation.refusal with
          | none =>
              have whole : operation.emitted chunkSize message =
                  frameCount chunkSize message.payload := by
                rw [Operation.emitted, refused]
                rfl
              have kept : (some message).filter (fun message => decide
                  (operation.emitted chunkSize message = frameCount chunkSize message.payload)) =
                    some message := by
                simp [whole]
              rw [kept]
              refine ⟨idBefore messageId messageIds, ?_⟩
              have first : (operation.run chunkSize messageId message).frames =
                  shownFrom chunkSize message messageId 0
                    (frameCount chunkSize message.payload) := by
                simp only [Run.frames, Run.framesAfter, Operation.run, whole, Nat.sub_zero]
              rw [first]
              rfl
          | some refusal =>
              obtain ⟨allowed, error⟩ := refusal
              have nothing : operation.emitted chunkSize message = 0 := by
                rw [Operation.emitted, refused,
                  uncut operation List.mem_cons_self allowed error refused]
                exact Nat.zero_min _
              have short : ¬ operation.emitted chunkSize message =
                  frameCount chunkSize message.payload := by
                omega
              have none : (operation.run chunkSize messageId message).frames = [] := by
                apply List.eq_nil_of_length_eq_zero
                rw [Run.frames_length]
                exact nothing
              have dropped : (some message).filter (fun message => decide
                  (operation.emitted chunkSize message = frameCount chunkSize message.payload)) =
                    Option.none := by
                simp [short]
              rw [dropped, none]
              exact ⟨messageIds, rfl⟩

end Published

/-! ### The consumer -/

def Receive.typed (codec : Codec Value Error) (path : ReceivePath) (looks : List Nat) :
    Receive Value Error :=
  { path
    looks
    decode :=
      match path with
      | .recvOwned => codec.decode
      | .recvLeased => codec.access
      | .processAvailable => codec.decode
      | .processAvailableZeroCopy => codec.access }

structure Reception (Value Error : Type) where
  session : Session Value Error
  frameReassembleCount : CounterHandle
  codecDecodeTotal : CounterHandle

namespace Reception

/-- A message is counted when it is there, and once more when it has been decoded. -/
def receivedOwned (reception : Reception Value Error) :
    Option (Report Value Error × TypedConsumer) → Reception Value Error
  | none => reception
  | some (report, consumer) =>
      { session := { consumer, reports := reception.session.reports ++ [report] }
        frameReassembleCount := reception.frameReassembleCount.inc
        codecDecodeTotal :=
          match report with
          | .delivered _ _ => reception.codecDecodeTotal.inc
          | .failed _ => reception.codecDecodeTotal }

def receive (codec : Codec Value Error) (items : List FrameMeta)
    (reception : Reception Value Error) (call : ReceivePath × List Nat) :
    Reception Value Error :=
  match call.1 with
  | .recvOwned => reception.receivedOwned
      (reception.session.consumer.recvOwned codec.decode (items.take (publishedBy call.2)))
  | path => { reception with session := reception.session.receive items (.typed codec path call.2) }

variable {codec : Codec Value Error} {items : List FrameMeta} {reception : Reception Value Error}

theorem receive_session (call : ReceivePath × List Nat) :
    (reception.receive codec items call).session =
      reception.session.receive items (.typed codec call.1 call.2) := by
  obtain ⟨path, looks⟩ := call
  cases path with
  | recvOwned =>
      simp only [receive, Session.receive, Receive.typed, Session.call]
      cases reception.session.consumer.recvOwned codec.decode (items.take (publishedBy looks)) with
      | none => rfl
      | some out => rfl
  | recvLeased => rfl
  | processAvailable => rfl
  | processAvailableZeroCopy => rfl

theorem receives_session (calls : List (ReceivePath × List Nat)) :
    (calls.foldl (receive codec items) reception).session =
      (calls.map fun call => Receive.typed codec call.1 call.2).foldl (Session.receive items)
        reception.session := by
  induction calls generalizing reception with
  | nil => rfl
  | cons call later ih =>
      rw [List.foldl_cons, List.map_cons, List.foldl_cons, ih, receive_session]

/-- The counters have gone up by the messages that the owned receiver has reported, which are
among all that were reported; if it has reported everything, they are all. -/
structure Counts (calls : List (ReceivePath × List Nat)) (before after : Reception Value Error)
    (owned decoded : Nat) : Prop where
  reassembled : after.frameReassembleCount = before.frameReassembleCount.add owned
  decodes : after.codecDecodeTotal = before.codecDecodeTotal.add decoded
  among : before.session.reports.length + owned ≤ after.session.reports.length
  all : (∀ call ∈ calls, call.1 = .recvOwned) →
    before.session.reports.length + owned = after.session.reports.length
  delivered : (∀ error, .failed error ∉ after.session.reports) → decoded = owned

theorem receive_counts (call : ReceivePath × List Nat) :
    ∃ owned decoded,
      Counts [call] reception (reception.receive codec items call) owned decoded := by
  have grows := receive_grows items reception.session (.typed codec call.1 call.2)
  rw [← receive_session] at grows
  have uncounted (other : call.1 ≠ .recvOwned)
      (same : (reception.receive codec items call).frameReassembleCount =
          reception.frameReassembleCount ∧
        (reception.receive codec items call).codecDecodeTotal = reception.codecDecodeTotal) :
      Counts [call] reception (reception.receive codec items call) 0 0 := by
    constructor
    · rw [same.1, CounterHandle.add_zero]
    · rw [same.2, CounterHandle.add_zero]
    · exact grows.length_le
    · exact fun all => absurd (all call List.mem_cons_self) other
    · exact fun _ => rfl
  obtain ⟨path, looks⟩ := call
  cases path with
  | recvOwned =>
      rw [receive]
      cases reception.session.consumer.recvOwned codec.decode (items.take (publishedBy looks)) with
      | none =>
          refine ⟨0, 0, (CounterHandle.add_zero _).symm, (CounterHandle.add_zero _).symm, ?_, ?_,
            ?_⟩
          · exact Nat.le_refl _
          · exact fun _ => rfl
          · exact fun _ => rfl
      | some out =>
          obtain ⟨report, consumer⟩ := out
          have length : (reception.session.reports ++ [report]).length =
              reception.session.reports.length + 1 := List.length_append
          cases report with
          | delivered kind value =>
              refine ⟨1, 1, rfl, rfl, ?_, ?_, ?_⟩
              · exact Nat.le_of_eq length.symm
              · exact fun _ => length.symm
              · exact fun _ => rfl
          | failed error =>
              refine ⟨1, 0, rfl, (CounterHandle.add_zero _).symm, ?_, ?_, ?_⟩
              · exact Nat.le_of_eq length.symm
              · exact fun _ => length.symm
              · intro none
                exact absurd (List.mem_append_right _ (List.mem_singleton_self _)) (none error)
  | recvLeased => exact ⟨0, 0, uncounted nofun ⟨rfl, rfl⟩⟩
  | processAvailable => exact ⟨0, 0, uncounted nofun ⟨rfl, rfl⟩⟩
  | processAvailableZeroCopy => exact ⟨0, 0, uncounted nofun ⟨rfl, rfl⟩⟩

theorem receives_count (calls : List (ReceivePath × List Nat)) :
    ∃ owned decoded,
      Counts calls reception (calls.foldl (receive codec items) reception) owned decoded := by
  induction calls generalizing reception with
  | nil =>
      refine ⟨0, 0, (CounterHandle.add_zero _).symm, (CounterHandle.add_zero _).symm, ?_, ?_, ?_⟩
      · exact Nat.le_refl _
      · exact fun _ => rfl
      · exact fun _ => rfl
  | cons call later ih =>
      obtain ⟨owned, decoded, first⟩ : ∃ owned decoded, Counts [call] reception
          (reception.receive codec items call) owned decoded := receive_counts call
      obtain ⟨more, further, second⟩ : ∃ more further,
          Counts later (reception.receive codec items call)
            (later.foldl (receive codec items) (reception.receive codec items call)) more further :=
        ih
      have kept := receives_grow items (reception.receive codec items call).session
        (later.map fun call => Receive.typed codec call.1 call.2)
      rw [← receives_session] at kept
      refine ⟨owned + more, decoded + further, ?_, ?_, ?_, ?_, ?_⟩
      · rw [List.foldl_cons, second.reassembled, first.reassembled, CounterHandle.add_add]
      · rw [List.foldl_cons, second.decodes, first.decodes, CounterHandle.add_add]
      · have among := first.among
        have others := second.among
        rw [List.foldl_cons]
        omega
      · intro all
        have here := first.all fun other member =>
          all other (List.mem_cons.mpr (.inl (List.mem_singleton.mp member)))
        have there := second.all fun other member => all other (List.mem_cons_of_mem _ member)
        rw [List.foldl_cons]
        omega
      · intro none
        rw [first.delivered fun error member => none error (kept.subset member),
          second.delivered none]

end Reception

/-! ### From the producer to the consumer -/

section RoundTrip

variable {Refusal : Type} {codec : Codec Value Error} {chunkSize : Nat}
variable {operations : List (Operation Value Refusal)}

theorem encoded_typed {value : Value} {kind : UInt8} {message : Message}
    (encoded : ((codec.encode value).map fun payload =>
      ({ kind, payload } : Message)).toOption = some message) :
    codec.encode value = .ok message.payload ∧ message.kind = kind := by
  cases encoding : codec.encode value with
  | error error =>
      rw [encoding] at encoded
      cases encoded
  | ok payload =>
      rw [encoding] at encoded
      cases encoded
      exact ⟨rfl, rfl⟩

theorem message_encodes
    (preEncoded : ∀ bytes kind, .publishRaw bytes kind ∈ operations →
      ∃ value, codec.encode value = .ok bytes) {message : Message}
    (published : message ∈ operations.filterMap (Operation.message codec chunkSize)) :
    ∃ value, codec.encode value = .ok message.payload := by
  obtain ⟨operation, member, kept⟩ := List.mem_filterMap.mp published
  have encoded : (operation.encoded codec).toOption = some message :=
    (Option.filter_eq_some_iff.mp kept).1
  cases operation with
  | publishRaw payload kind =>
      cases encoded
      exact preEncoded payload kind member
  | publish value kind => exact ⟨value, (encoded_typed encoded).1⟩
  | publishManaged value kind refusal => exact ⟨value, (encoded_typed encoded).1⟩

theorem reports_operations (lawful : codec.Lawful) (operations : List (Operation Value Refusal)) :
    (operations.filterMap (Operation.message codec chunkSize)).map (Report.of codec.decode) =
      operations.filterMap (Operation.report codec chunkSize) := by
  rw [List.map_filterMap]
  congr 1
  funext operation
  rw [Operation.report]
  cases published : operation.message codec chunkSize with
  | none => rfl
  | some message =>
      have encoded : (operation.encoded codec).toOption = some message :=
        (Option.filter_eq_some_iff.mp published).1
      have typed (value : Value) (kind : UInt8)
          (encoded : ((codec.encode value).map fun payload =>
            ({ kind, payload } : Message)).toOption = some message) :
          Report.of codec.decode message = .delivered kind value := by
        obtain ⟨encoding, rfl⟩ := encoded_typed encoded
        rw [Report.of, lawful.decodes encoding]
      cases operation with
      | publish value kind => exact congrArg some (typed value kind encoded)
      | publishRaw payload kind => rfl
      | publishManaged value kind refusal => exact congrArg some (typed value kind encoded)

theorem typed_decodes (lawful : codec.Lawful) {message : Message}
    (encodes : ∃ value, codec.encode value = .ok message.payload) (path : ReceivePath)
    (looks : List Nat) :
    (∃ value, (Receive.typed codec path looks).decode message.payload = .ok value) ∧
      Report.of (Receive.typed codec path looks).decode message =
        Report.of codec.decode message := by
  obtain ⟨value, encoded⟩ := encodes
  have here : (Receive.typed codec path looks).decode message.payload = .ok value := by
    cases path with
    | recvOwned => exact lawful.decodes encoded
    | recvLeased => exact lawful.accesses encoded
    | processAvailable => exact lawful.decodes encoded
    | processAvailableZeroCopy => exact lawful.accesses encoded
  refine ⟨⟨value, here⟩, ?_⟩
  rw [Report.of, Report.of, here, lawful.decodes encoded]

end RoundTrip

section Reads

variable {Refusal : Type}

/-- The consumer gets what the operations are to report, from the first one on and each of them
once, and its counters have gone up by what its owned receiver has reported. -/
structure Reads (codec : Codec Value Error) (chunkSize : Nat)
    (operations : List (Operation Value Refusal)) (calls : List (ReceivePath × List Nat))
    (start reception : Reception Value Error) : Prop where
  values : reception.session.reports <+:
    operations.filterMap (Operation.report codec chunkSize)
  count : reception.session.reports.length = completeIn chunkSize
    (operations.filterMap (Operation.message codec chunkSize)) reception.session.consumer.consumed
  counters : ∃ owned ≤ reception.session.reports.length,
    reception.frameReassembleCount = start.frameReassembleCount.add owned ∧
    reception.codecDecodeTotal = start.codecDecodeTotal.add owned ∧
    ((∀ call ∈ calls, call.1 = .recvOwned) → owned = reception.session.reports.length)

theorem reads_whole {chunkSize : Nat} (positive : 0 < chunkSize) {codec : Codec Value Error}
    (lawful : codec.Lawful) {operations : List (Operation Value Refusal)}
    (preEncoded : ∀ bytes kind, .publishRaw bytes kind ∈ operations →
      ∃ value, codec.encode value = .ok bytes) (messageIds : Nat → Nat)
    (calls : List (ReceivePath × List Nat)) {start : Reception Value Error}
    (fresh : start.session = .new)
    (spares : NoneSevers chunkSize (operations.filterMap (Operation.message codec chunkSize))
      (framesFor chunkSize messageIds (operations.filterMap (Operation.message codec chunkSize)))
      .new (calls.map fun call => Receive.typed codec call.1 call.2)) :
    Reads codec chunkSize operations calls start (calls.foldl (Reception.receive codec
      (framesFor chunkSize messageIds
        (operations.filterMap (Operation.message codec chunkSize)))) start) := by
  let messages := operations.filterMap (Operation.message codec chunkSize)
  let reception := calls.foldl
    (Reception.receive codec (framesFor chunkSize messageIds messages)) start
  have read : ∀ call ∈ calls.map (fun call => Receive.typed codec call.1 call.2),
      ∀ message ∈ messages, (∃ value, call.decode message.payload = .ok value) ∧
        Report.of call.decode message = Report.of codec.decode message := by
    intro call member message published
    obtain ⟨asked, _, same⟩ := List.mem_map.mp member
    rw [← same]
    exact typed_decodes lawful (message_encodes preEncoded published) asked.1 asked.2
  have delivers : Delivers chunkSize messageIds (Report.of codec.decode) messages
      reception.session := by
    rw [Reception.receives_session, fresh]
    apply (delivers_new positive messageIds messages (Report.of codec.decode)).receives positive
    · exact fun call member message published => (read call member message published).2
    · exact fun call member _ message found =>
        (read call member message (List.mem_of_mem_take found)).1
    · exact spares
  obtain ⟨owned, decoded, counts⟩ : ∃ owned decoded,
      Reception.Counts calls start reception owned decoded := Reception.receives_count calls
  have none : ∀ error, .failed error ∉ reception.session.reports := by
    intro error failed
    rw [delivers.reports] at failed
    obtain ⟨message, found, reported⟩ := List.mem_map.mp failed
    obtain ⟨value, encoded⟩ := message_encodes preEncoded (List.mem_of_mem_take found)
    rw [Report.of, lawful.decodes encoded] at reported
    cases reported
  have unread : start.session.reports.length = 0 := by
    rw [fresh]
    rfl
  constructor
  · rw [← reports_operations lawful, delivers.reports]
    exact (List.take_prefix _ _).map _
  · rw [delivers.reports, List.length_map, List.length_take,
      Nat.min_eq_left (completeIn_le messages _)]
  · refine ⟨owned, ?_, counts.reassembled, ?_, ?_⟩
    · have among := counts.among
      rw [unread, Nat.zero_add] at among
      exact among
    · rw [counts.decodes, counts.delivered none]
    · intro all
      have every := counts.all all
      rw [unread, Nat.zero_add] at every
      exact every

end Reads

/-- Whatever the slots and the counters held before and wherever the counter of message ids
stands: each operation answers with the error of its encoding or of the ring, what it publishes
can be read, and where no message is cut, a consumer that severs none gets the values of those
that were published by calls of every kind. -/
def TypedRoundTrips (F : Type) [FramedTransportFrame F] {Refusal : Type}
    (codec : Codec Value Error) (operations : List (Operation Value Refusal))
    (calls : List (ReceivePath × List Nat)) : Prop :=
  ∀ (old : Nat → F) (before : TypedProducer F)
    (frameReassembleCount codecDecodeTotal : CounterHandle),
    let capacity := FramedTransportFrame.payloadCapacity F
    let metas := stream (Operation.runs codec capacity before.inner.messageId operations)
    let start := { session := .new, frameReassembleCount, codecDecodeTotal }
    before.inner.frames = [] → ∃ after,
    Operation.performAll codec old before operations =
      some (operations.map (Operation.answer codec capacity), after) ∧
    after.framePublishTotal = before.framePublishTotal.add
      (operations.map (Operation.publications codec)).sum ∧
    after.codecEncodeTotal = before.codecEncodeTotal.add
      (operations.map (Operation.encodings codec)).sum ∧
    frameMetas after.inner.frames = some metas ∧
    metas.length = (operations.map (Operation.frames codec capacity)).sum ∧
    ((∀ operation ∈ operations, operation.Uncut) →
      NoneSevers capacity (operations.filterMap (Operation.message codec capacity)) metas .new
        (calls.map fun call => Receive.typed codec call.1 call.2) →
      Reads codec capacity operations calls start
        (calls.foldl (Reception.receive codec metas) start))

theorem typedRoundTrips_of_carries {F : Type} [FramedTransportFrame F] (carries : Carries F)
    (positive : 0 < FramedTransportFrame.payloadCapacity F) {Refusal : Type}
    {codec : Codec Value Error} (lawful : codec.Lawful)
    {operations : List (Operation Value Refusal)}
    (preEncoded : ∀ bytes kind, .publishRaw bytes kind ∈ operations →
      ∃ value, codec.encode value = .ok bytes) (calls : List (ReceivePath × List Nat)) :
    TypedRoundTrips F codec operations calls := by
  intro old before frameReassembleCount codecDecodeTotal capacity metas start empty
  obtain ⟨after, performed, ⟨more, frames, shown⟩, publishes, encodes⟩ :=
    Operation.performsAll old carries positive codec operations before
  rw [empty, List.nil_append] at frames
  subst frames
  refine ⟨after, performed, publishes, encodes, shown, runs_length codec _ operations, ?_⟩
  intro uncut spares
  obtain ⟨messageIds, same⟩ : ∃ messageIds, metas = framesFor capacity messageIds
      (operations.filterMap (Operation.message codec capacity)) :=
    runs_uncut codec before.inner.messageId uncut
  rw [same] at spares ⊢
  exact reads_whole positive lawful preEncoded messageIds calls rfl spares

def tripled : Codec UInt8 Unit where
  encode value := if value = 0 then .error () else .ok [value, value, value]
  decode
    | [first, _, _] => .ok first
    | _ => .error ()
  access
    | [_, second, _] => .ok second
    | _ => .error ()

theorem tripled_lawful : tripled.Lawful := by
  have encodes {value : UInt8} {bytes : List UInt8} (encoded : tripled.encode value = .ok bytes) :
      bytes = [value, value, value] := by
    simp only [tripled] at encoded
    split at encoded
    · cases encoded
    · cases encoded
      rfl
  constructor
  · intro value bytes encoded
    rw [encodes encoded]
    rfl
  · intro value bytes encoded
    rw [encodes encoded]
    rfl

def idleProducer : TypedProducer (FixedFrame 2) :=
  { inner := { messageId := 0, frames := [] }
    framePublishTotal := some 0
    codecEncodeTotal := none }

def mixedOperations : List (Operation UInt8 String) :=
  [.publish 7 1, .publish 0 2, .publishManaged 9 4 (some (0, "timed out")),
    .publishRaw [8, 8, 8] 3, .publishManaged 6 5 none]

end Framing
