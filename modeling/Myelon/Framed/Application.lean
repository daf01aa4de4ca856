/-
A framed transport over the ring of either backend.

The producer cuts a message into frames and publishes each of them like any event. A
consumer takes frames and puts the messages together again. What becomes of a message is
recorded where the code of the application gets it: after the call that copies, and inside of
the calls that lend the bytes.
-/

import Myelon.Framing.Reassembly
import Myelon.Ring.System

namespace Framed

open Interleaving Ring Framing

/-! ### The producer -/

variable {interface : Interface} {State App : Type}

instance [Viewed State] : Panics (Process interface State) where
  panics := panic'

structure Reply where
  message : Message
  result : Except RequiredConsumerError Unit

namespace Producer

variable [FramedTransportFrame interface.Value]

def writeFrame (chunk : List UInt8) (kind : UInt8) (msgId : Nat) (flags : UInt8)
    (slot : interface.Value) : Option interface.Value :=
  FramedTransportFrame.writeFrame slot chunk kind msgId flags

def nextMessageId : ProducerProcess interface Nat := act .fetchAddMessageId

def publish (transport : Transport) (payload : List UInt8) (kind : UInt8) :
    ProducerProcess interface Unit :=
  publishFramedPayloadInPlace nextMessageId payload kind
    (FramedTransportFrame.payloadCapacity interface.Value)
    fun chunk kind msgId flags =>
      Ring.Producer.publish transport (writeFrame chunk kind msgId flags)

def publishManaged (transport : Transport) (payload : List UInt8) (kind : UInt8) :
    ProducerProcess interface (Except RequiredConsumerError Unit) :=
  publishFramedPayloadResultInPlace nextMessageId payload kind
    (FramedTransportFrame.payloadCapacity interface.Value)
    fun chunk kind msgId flags => do
      let result ← Ring.Producer.publishManaged transport (writeFrame chunk kind msgId flags)
      pure (result.map fun _ => ())

end Producer

/-! ### The consumers -/

structure Receiving where
  reassemblyBuf : ReassemblyBuffer
  delivered : Nat

def Receiving.new : Receiving := { reassemblyBuf := .new, delivered := 0 }

namespace Consumer

variable [FramedTransportFrame interface.Value]

/-- A frame whose length is beyond its data cannot be sliced. -/
def frameMeta (frame : interface.Value) : ConsumerProcess interface App FrameMeta :=
  match FramedTransportFrame.frameMeta frame with
  | some frameMeta => pure frameMeta
  | none => panic'

/-! #### One message, copied -/

def nextFrame (transport : Transport) : ConsumerProcess interface App FrameMeta := do
  let event ← Ring.Consumer.consumeNext transport
  frameMeta event.2

def recvMessageBlockingOwned (transport : Transport) :
    ConsumerProcess interface App Message := do
  let first ← nextFrame transport
  match recvFirst first with
  | .inr received => pure (handed received)
  | .inl pending => Routine.repeat' (fun pending : PartialMessage => do
      let frame ← nextFrame transport
      match recvRest pending frame with
      | .inr received => pure (.inr (handed received))
      | .inl pending => pure (.inl pending)) pending

/-! #### One message, lent -/

def buffer : ConsumerProcess interface Receiving ReassemblyBuffer := do
  let self ← get
  pure self.2.reassemblyBuf

def setBuffer (reassemblyBuf : ReassemblyBuffer) : ConsumerProcess interface Receiving Unit :=
  modify fun self => (self.1, { self.2 with reassemblyBuf })

variable (handler : Message → ConsumerProcess interface Receiving Unit)

/-- What is to be done when the lease of the first frame is over. -/
inductive FirstLease where
  | handled
  | last (messageMeta : ReceivedMessageMeta)
  | more (messageMeta : ReceivedMessageMeta)

/-- The bytes of a single frame are lent where they are, and those of more frames are
collected. -/
def leaseFirstFrame (event : EventRef interface) :
    ConsumerProcess interface Receiving FirstLease := do
  Ring.Consumer.hold event
  let first ← frameMeta event.value
  let messageMeta := { kind := first.kind, msgId := first.msgId }
  if isSingleFrame first.flags then do
    handler { kind := first.kind, payload := first.data }
    pure .handled
  else do
    let reassemblyBuf ← buffer
    setBuffer (reassemblyBuf.start first.msgId first.kind first.data first.len)
    pure (if isLastFrame first.flags then .last messageMeta else .more messageMeta)

/-- One round of the loop, with the lease of its frame. -/
def leaseNextFrame (messageMeta : ReceivedMessageMeta) (event : EventRef interface) :
    ConsumerProcess interface Receiving (Unit ⊕ Unit) := do
  Ring.Consumer.hold event
  let frame ← frameMeta event.value
  if frame.msgId ≠ messageMeta.msgId then pure (.inl ())
  else do
    let reassemblyBuf ← buffer
    let reassemblyBuf := reassemblyBuf.append frame.data
    setBuffer reassemblyBuf
    if isLastFrame frame.flags then do
      handler { kind := messageMeta.kind, payload := reassemblyBuf.bytes }
      pure (.inr ())
    else pure (.inl ())

def recvMessageBlockingLeased (transport : Transport) :
    ConsumerProcess interface Receiving Unit := do
  let first ← Ring.Consumer.consumeNextLeased transport (leaseFirstFrame handler)
  match first with
  | .handled => pure ()
  | .last messageMeta => do
      let reassemblyBuf ← buffer
      handler { kind := messageMeta.kind, payload := reassemblyBuf.bytes }
  | .more messageMeta =>
      Routine.repeat' (fun _ : Unit =>
        Ring.Consumer.consumeNextLeased transport (leaseNextFrame handler messageMeta)) ()

/-! #### All messages that are there -/

def countDelivered : ConsumerProcess interface Receiving Unit :=
  modify fun self => (self.1, { self.2 with delivered := self.2.delivered + 1 })

def receiveFrame (event : EventRef interface) : ConsumerProcess interface Receiving Unit := do
  Ring.Consumer.hold event
  let frame ← frameMeta event.value
  let reassemblyBuf ← buffer
  match processFrame reassemblyBuf frame with
  | (reassemblyBuf, none) => setBuffer reassemblyBuf
  | (reassemblyBuf, some message) => do
      handler message
      setBuffer reassemblyBuf
      countDelivered

def processAvailableMessages (transport : Transport) :
    ConsumerProcess interface Receiving Nat := do
  modify fun self => (self.1, { self.2 with delivered := 0 })
  let _ ← Ring.Consumer.processAvailable transport (receiveFrame handler)
  let self ← get
  pure self.2.delivered

end Consumer

/-! ### The application -/

inductive PublishPath where
  | publish
  | publishManaged
  deriving DecidableEq

inductive ReceivePath where
  | recvMessageBlockingOwned
  | recvMessageBlockingLeased
  | processAvailableMessages
  deriving DecidableEq

/-- What the code of a consumer gets: a message, or the end of a call that gave it its
messages before. -/
inductive Output where
  | message (message : Message)
  | returned
  | processed (count : Nat)

abbrev framed (F : Type) (publishPaths : List PublishPath) (receivePaths : List ReceivePath) :
    Interface :=
  { Value := F
    ProducerRequest := { path // path ∈ publishPaths } × Message
    ProducerReply := Reply
    ConsumerRequest := { path // path ∈ receivePaths }
    Output }

variable {F : Type} [FramedTransportFrame F]
variable {publishPaths : List PublishPath} {receivePaths : List ReceivePath}


def serveProducer (transport : Transport) (request : { path // path ∈ publishPaths } × Message) :
    ProducerProcess (framed F publishPaths receivePaths) Reply :=
  let message := request.2
  match request.1.val with
  | .publish => do
      Producer.publish transport message.payload message.kind
      pure { message, result := .ok () }
  | .publishManaged => do
      let result ← Producer.publishManaged transport message.payload message.kind
      pure { message, result }

def handle (message : Message) :
    ConsumerProcess (framed F publishPaths receivePaths) Receiving Unit := do
  let consumer ← Ring.Consumer.current
  act (.handOver consumer.consumerId (Output.message message))

def serveConsumer (transport : Transport) (path : { path // path ∈ receivePaths }) :
    ConsumerProcess (framed F publishPaths receivePaths) Receiving Output :=
  match path.val with
  | .recvMessageBlockingOwned => .message <$> Consumer.recvMessageBlockingOwned transport
  | .recvMessageBlockingLeased => do
      Consumer.recvMessageBlockingLeased handle transport
      pure .returned
  | .processAvailableMessages =>
      .processed <$> Consumer.processAvailableMessages handle transport

abbrev framedApplication (transport : Transport) (F : Type) [FramedTransportFrame F]
    (publishPaths : List PublishPath) (receivePaths : List ReceivePath)
    (consumerCounters : ConsumerCounters) : Application transport :=
  { interface := framed F publishPaths receivePaths
    App := Receiving
    fresh := .new
    serveProducer := serveProducer transport
    serveConsumer := serveConsumer transport
    consumerCounters }

end Framed
