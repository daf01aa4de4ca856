/-
The processes of one transport and the runs they make together.

An application serves the requests of its users with the operations of the
transport. The producer goes on for ever. A consumer that crashes after its cursor has
been created loses its private state and is started again under the same id.
-/

import Myelon.Ring.Consumer
import Myelon.Ring.Producer

namespace Ring

open Interleaving

/-- What the users of the two ends ask for, and how it is done. -/
structure Application (transport : Transport) where
  interface : Interface
  App : Type
  /-- The state with which the application around a consumer starts. -/
  fresh : App
  serveProducer : interface.ProducerRequest →
    ProducerProcess interface interface.ProducerReply
  serveConsumer : interface.ConsumerRequest →
    ConsumerProcess interface App interface.Output
  consumerCounters : ConsumerCounters

namespace Application

variable {transport : Transport} (application : Application transport)

def producerRound : ProducerProcess application.interface Unit := do
  let request : application.interface.ProducerRequest ← act .nextProducerRequest
  let reply ← application.serveProducer request
  act (.reply reply)

def consumerRound : ConsumerProcess application.interface application.App Unit := do
  let consumer ← Consumer.current
  let request : application.interface.ConsumerRequest ←
    act (.nextConsumerRequest consumer.consumerId)
  let output ← application.serveConsumer request
  let consumer ← Consumer.current
  act (.handOver consumer.consumerId output)

abbrev Code := Program (signature application.interface) Self Unit

def producerProgram (producer : Producer) : application.Code :=
  Routine.forever application.producerRound producer

def consumerProgram (consumer : Consumer) : application.Code :=
  Routine.forever application.consumerRound (consumer, application.fresh)

/-- A consumer that starts: it attaches under its id and then serves requests. -/
def boot (consumerId : ConsumerId) : application.Code :=
  (Consumer.attach transport application.consumerCounters ⟨consumerId⟩).bind
    fun out => application.consumerProgram out.1

def machine (passes : DirectoryPasses) :
    Machine (signature application.interface) Self Party (World application.interface) :=
  { Oracle := Oracle application.interface
    perform := Ring.perform passes
    restart := fun party world => match party with
      | .producer => none
      | .consumer consumerId =>
          if consumerId ∈ world.consumers ∧ consumerId ∉ world.uninitialised then
            some (application.boot consumerId, world.record consumerId .crash)
          else none }

abbrev State :=
  Configuration (signature application.interface) Self Party (World application.interface)

/-- The consumers that have attached stand where their cursors are, at the
beginning; those that will join are about to attach; the others never run. -/
def start (slots : Nat → application.interface.Value) (producer : Producer)
    (attached joining : List ConsumerId) : application.State :=
  { program := fun party => match party with
      | .producer => application.producerProgram producer
      | .consumer consumerId =>
          if consumerId ∈ attached then
            application.consumerProgram
              { consumerId
                lastProcessedSequence := -1
                counters := application.consumerCounters }
          else if consumerId ∈ joining then application.boot consumerId
          else .done ()
    world :=
      { World.initial slots with
        consumers := attached
        discovered := producer.consumerBarrier.consumerCursors } }

end Application

/-! ### The plain application -/

/-- The operations of a producer as its users call them. -/
inductive ProducerRequest (Value : Type) where
  | tryPublish (update : Value → Option Value)
  | publish (update : Value → Option Value)
  | tryBatchPublish (n : Nat) (updateFn : Nat → Value → Option Value)
  | publishWithTimeout (timeout : Nat) (update : Value → Option Value)
  | publishManaged (update : Value → Option Value)
  | publishBatchManaged (n : Nat) (updateFn : Nat → Value → Option Value)
  | lastPublishedSequence
  | minGatingSequence
  | isConsumed (sequence : Int)
  | waitUntilConsumedWithStrategy (sequence : Int) (timeout : Nat)
  | discoverConsumerId (consumerId : ConsumerId)
  | waitForConsumerId (consumerId : ConsumerId) (timeout : Nat)
  | consumerSequence (consumerId : ConsumerId)
  | getConsumerCount

inductive ProducerReply where
  | done
  | unavailable
  | tried (result : Except RingBufferFull Int)
  | reserved (result : Except MissingFreeSlots Int)
  | timed (result : Except PublishTimeoutError Int)
  | managed (result : Except RequiredConsumerError Int)
  | sequence (sequence : Option Int)
  | decided (decision : Bool)
  | counted (count : Nat)
  deriving DecidableEq

inductive ConsumerRequest where
  | tryConsumeNext
  | tryConsumeNextLeased
  | consumeNext
  | consumeNextLeased
  | processNextBlocking
  | processAvailable
  | processAvailableBlocking
  deriving DecidableEq

inductive ConsumerOutput (Value : Type) where
  | consumed (event : Option (Int × Value))
  | released (sequence : Option Int)
  | processedNext (sequence : Int) (endOfBatch : Bool)
  | processed (count : Nat)
  | unavailable

abbrev handing (Value Output : Type) : Interface :=
  { Value
    ProducerRequest := ProducerRequest Value
    ProducerReply
    ConsumerRequest
    Output }

abbrev plain (Value : Type) : Interface := handing Value (ConsumerOutput Value)

variable {Value Output : Type}

/-- Only the shared-memory producer has a publication with a timeout. -/
def serveProducer (transport : Transport) :
    ProducerRequest Value → ProducerProcess (handing Value Output) ProducerReply
  | .tryPublish update => .tried <$> Producer.tryPublish transport update
  | .publish update => do
      Producer.publish transport update
      pure .done
  | .tryBatchPublish n updateFn => .reserved <$> Producer.tryBatchPublish transport n updateFn
  | .publishWithTimeout timeout update =>
      match transport.backend with
      | .sharedMemory => .timed <$> Producer.publishWithTimeout transport timeout update
      | .mmap => pure .unavailable
  | .publishManaged update => .managed <$> Producer.publishManaged transport update
  | .publishBatchManaged n updateFn =>
      .managed <$> Producer.publishBatchManaged transport n updateFn
  | .lastPublishedSequence => (.sequence ∘ some) <$> Producer.lastPublishedSequence
  | .minGatingSequence => (.sequence ∘ some) <$> Producer.minGatingSequence transport
  | .isConsumed sequence => .decided <$> Producer.isConsumed transport sequence
  | .waitUntilConsumedWithStrategy sequence timeout =>
      .decided <$> Producer.waitUntilConsumedWithStrategy transport sequence timeout
  | .discoverConsumerId consumerId =>
      .decided <$> ConsumerBarrier.discoverConsumerId consumerId
  | .waitForConsumerId consumerId timeout =>
      .decided <$> Producer.waitForConsumerId consumerId timeout
  | .consumerSequence consumerId => .sequence <$> ConsumerBarrier.consumerSequence consumerId
  | .getConsumerCount => .counted <$> ConsumerBarrier.bestEffortConsumerCount transport

abbrev passingOn {App : Type} (transport : Transport) (fresh : App)
    (serveConsumer : ConsumerRequest → ConsumerProcess (handing Value Output) App Output)
    (consumerCounters : ConsumerCounters) : Application transport :=
  { interface := handing Value Output
    App
    fresh
    serveProducer := serveProducer transport
    serveConsumer
    consumerCounters }

/-- Only the shared-memory consumer has the two blocking variants with a callback
that learns the end of a batch. -/
def serveConsumer (transport : Transport) :
    ConsumerRequest → ConsumerProcess (plain Value) Unit (ConsumerOutput Value)
  | .tryConsumeNext => .consumed <$> Consumer.tryConsumeNext transport
  | .tryConsumeNextLeased =>
      .released <$> Consumer.tryConsumeNextLeased transport fun event => do
        Consumer.hold event
        pure event.sequence
  | .consumeNext => (.consumed ∘ some) <$> Consumer.consumeNext transport
  | .consumeNextLeased =>
      (.released ∘ some) <$> Consumer.consumeNextLeased transport fun event => do
        Consumer.hold event
        pure event.sequence
  | .processNextBlocking =>
      match transport.backend with
      | .sharedMemory => (fun result => .processedNext result.1 result.2) <$>
          Consumer.processNextBlocking transport (fun _ _ _ => pure ())
      | .mmap => pure .unavailable
  | .processAvailable => .processed <$> Consumer.processAvailable transport Consumer.hold
  | .processAvailableBlocking =>
      match transport.backend with
      | .sharedMemory => .processed <$>
          Consumer.processAvailableBlocking transport (fun event _ => Consumer.hold event)
      | .mmap => pure .unavailable

abbrev plainApplication (transport : Transport) (Value : Type)
    (consumerCounters : ConsumerCounters) : Application transport :=
  { interface := plain Value
    App := Unit
    fresh := ()
    serveProducer := serveProducer transport
    serveConsumer := serveConsumer transport
    consumerCounters }

end Ring
