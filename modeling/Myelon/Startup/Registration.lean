/-
Consumers that are given their ids, and the scans that look for them.

A consumer that starts without an id takes the next number of a counter, and opens its cursor
under the id that belongs to it. The producer reads the counter and looks for the cursors of
the numbers taken so far. The scan is the one of its barrier.
-/

import Myelon.Delivery.Register
import Myelon.Interleaving.Extension
import Myelon.Ring.Producer

namespace Startup.Registration

open Interleaving Delivery
open Ring (Backend ConsumerId Interface Self Transport Oracle)

/-- The producer, and the threads in which consumers start. Each belongs to a process. -/
inductive Party where
  | producer
  | thread (number : Nat)
  deriving DecidableEq

inductive Event where
  /-- The thread has taken a number of the counter. -/
  | registered (party : Party) (slot : Int)
  /-- The thread has opened the cursor of a consumer, which was there or was not. -/
  | attached (party : Party) (consumerId : ConsumerId)
  /-- A scan begins. -/
  | scanning
  deriving DecidableEq

/-- What there is beside the ring: the counter of the registrations, and in each process a
counter of the consumers that have found no registration. -/
structure Registry where
  ring : Bool
  producerSequence : Bool
  registration : Option Int
  consumerCounter : Nat → Nat
  events : List Event

def Registry.record (registry : Registry) (event : Event) : Registry :=
  { registry with events := registry.events ++ [event] }

inductive Registering where
  | newOrAttachRegistration
  | createRing
  | createProducerSequence
  | attachRing
  | attachProducerSequence
  | attachRegistration
  | fetchAddRegistration (party : Party)
  | fetchAddConsumerCounter (processId : Nat)
  /-- The producer is about to look for consumers, or the thread to start one. -/
  | next

def Registering.Result : Registering → Type
  | .attachRing => Bool
  | .attachProducerSequence => Bool
  | .attachRegistration => Bool
  | .fetchAddRegistration _ => Int
  | .fetchAddConsumerCounter _ => Nat
  | _ => Unit

abbrev registering : Signature := { Action := Registering, Result := Registering.Result }

/-- One step beside the ring. What is there can be opened, and what must not be there is not
created: the producer is not built. -/
def Registry.perform (registry : Registry) :
    (action : Registering) → Option (action.Result × Registry)
  | .newOrAttachRegistration =>
      some ((), { registry with registration := some (registry.registration.getD 0) })
  | .createRing => if registry.ring = true then none else some ((), { registry with ring := true })
  | .createProducerSequence =>
      if registry.producerSequence = true then none
      else some ((), { registry with producerSequence := true })
  | .attachRing => some (registry.ring, registry)
  | .attachProducerSequence => some (registry.producerSequence, registry)
  | .attachRegistration => some (registry.registration.isSome, registry)
  | .fetchAddRegistration party =>
      registry.registration.map fun (slot : Int) =>
        (slot, Registry.record
          { registry with registration := some (Register.wrappingAdd slot 1) }
          (.registered party slot))
  | .fetchAddConsumerCounter processId =>
      some (registry.consumerCounter processId,
        { registry with
          consumerCounter := Function.update registry.consumerCounter processId
            ((registry.consumerCounter processId + 1) % 2 ^ 64) })
  | .next => some ((), registry)

variable {interface : Interface}

abbrev signature (interface : Interface) : Signature :=
  (Ring.signature interface).extend registering Party

abbrev World (interface : Interface) := Ring.World interface × Registry

/-- The counter is read from the registry. All else happens to the ring as it always does. -/
def perform : (action : (signature interface).Action) → Oracle interface → World interface →
    Option ((signature interface).Result action × World interface)
  | .inl (_, .loadConsumerRegistration), _, (world, registry) =>
      some (registry.registration, world, registry.record .scanning)
  | .inl (party, .newOrAttachConsumerSequence consumerId), oracle, (world, registry) =>
      (Ring.perform .mayFail (.newOrAttachConsumerSequence consumerId) oracle world).map
        fun done => (done.1, done.2, registry.record (.attached party consumerId))
  | .inl (_, action), oracle, (world, registry) =>
      (Ring.perform .mayFail action oracle world).map fun done => (done.1, done.2, registry)
  | .inr action, _, (world, registry) =>
      (registry.perform action).map fun done => (done.1, world, done.2)

/-! ### Consumers without an id -/

abbrev Process (interface : Interface) := Routine (signature interface) Self Unit

def view (_ : Unit) : Self := .attaching ""

def act (action : Registering) : Process interface action.Result :=
  @Routine.performFurther (Ring.signature interface) registering Self Unit Party view action

/-- The initial value of a new cursor is read by nobody here. -/
def newOrAttachConsumerSequence (party : Party) (consumerId : ConsumerId) :
    Process interface Bool :=
  Routine.marked registering party
    (@Routine.perform (Ring.signature interface) Self Unit view
      (.newOrAttachConsumerSequence consumerId))

def allocateRegisteredConsumerId (party : Party) : Process interface (Option ConsumerId) := do
  let registration : Bool ← act .attachRegistration
  if registration = true then do
    let slot : Int ← act (.fetchAddRegistration party)
    pure (if slot < 0 then none else some (Ring.SharedConsumerBarrier.autoConsumerId slot.toNat))
  else pure none

def defaultConsumerId (processId : Nat) (party : Party) : Process interface ConsumerId := do
  let allocated ← allocateRegisteredConsumerId party
  match allocated with
  | some consumerId => pure consumerId
  | none => do
      let consumerCounter : Nat ← act (.fetchAddConsumerCounter processId)
      pure ("c" ++ toString (processId % 10000) ++ "_" ++ toString consumerCounter)

def buildConsumer (processId : Nat) (party : Party) : Process interface Unit := do
  let ring : Bool ← act .attachRing
  if ring = true then do
    let producerSequence : Bool ← act .attachProducerSequence
    if producerSequence = true then do
      let consumerId ← defaultConsumerId processId party
      let _ ← newOrAttachConsumerSequence party consumerId
      pure ()
    else pure ()
  else pure ()

/-- A thread starts a consumer, which ends at some time, and then another one. -/
def serveConsumer (processId : Nat) (party : Party) : Process interface Unit := do
  act .next
  buildConsumer processId party

/-! ### The producer -/

abbrev ProducerProcess (interface : Interface) :=
  Routine (signature interface) Self Ring.Producer

def producerAct (action : Registering) : ProducerProcess interface action.Result :=
  @Routine.performFurther (Ring.signature interface) registering Self Ring.Producer Party
    Self.producer action

def discoverConsumers (transport : Transport) : ProducerProcess interface Unit :=
  (Ring.SharedConsumerBarrier.discoverConsumers transport).marked registering Party.producer

/-- The barrier looks for consumers as soon as it is there. -/
def buildProducer (transport : Transport) : ProducerProcess interface Unit := do
  producerAct .newOrAttachRegistration
  producerAct .createRing
  producerAct .createProducerSequence
  discoverConsumers transport

def serveDiscovery (transport : Transport) : ProducerProcess interface Unit := do
  producerAct .next
  discoverConsumers transport

/-! ### All of them -/

abbrev Code (interface : Interface) := Program (signature interface) Self Unit

def producerCode (transport : Transport) (producer : Ring.Producer) : Code interface :=
  (buildProducer transport producer).bind fun out =>
    Routine.forever (serveDiscovery transport) out.2

def code (transport : Transport) (processIds : Nat → Nat) (producer : Ring.Producer) :
    Party → Code interface
  | .producer => producerCode transport producer
  | .thread number =>
      Routine.forever (serveConsumer (processIds number) (.thread number)) ()

/-- Threads may stop anywhere. -/
def machine (interface : Interface) : Machine (signature interface) Self Party (World interface) :=
  { Oracle := Oracle interface
    perform
    restart := fun _ _ => none }

abbrev State (interface : Interface) :=
  Configuration (signature interface) Self Party (World interface)

def expecting (transport : Transport) (maxConsumers scanInterval : Nat) : Ring.Producer :=
  Ring.Producer.new transport
    { consumerCursors := []
      lastScan := 0
      discoveryMode := .enabled maxConsumers none scanInterval
      discoveryCompleted := false }
    { eventsPublished := false
      producerFullEvents := false }

/-- Nobody has built the ring yet. Cursors and a counter may be left over from before. -/
def start (transport : Transport) (processIds : Nat → Nat) (maxConsumers scanInterval : Nat)
    (world : Ring.World interface) (registration : Option Int) : State interface :=
  { program := code transport processIds (expecting transport maxConsumers scanInterval)
    world := (world,
      { ring := false
        producerSequence := false
        registration
        consumerCounter := fun _ => 0
        events := [] }) }

end Startup.Registration
