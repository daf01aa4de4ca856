/-
How the consumers of a session make themselves known to its producer.

A producer begins a session: it creates the ring, its cursor and a counter of the consumers
that are ready. A consumer attaches to these, opens a cursor under its own id, and counts
itself. What an earlier session has left over may still be there when the producer begins.
-/

import Mathlib.Data.Finset.Card
import Myelon.Delivery.Register
import Myelon.Interleaving.Execution
import Myelon.Ring.World

namespace Startup

open Interleaving Delivery
open Ring (Backend ConsumerId)

/-- The producer, and the processes in which consumers attach and detach. -/
inductive Party where
  | producer
  | process (number : Nat)
  deriving DecidableEq

inductive Event where
  /-- The counter has got its initial value. -/
  | initialised
  /-- The process has the cursor of the consumer. -/
  | opened (number : Nat) (consumerId : ConsumerId)
  | signalled (consumerId : ConsumerId)
  /-- The call that attaches the consumer has returned. -/
  | attached (consumerId : ConsumerId)
  | waits (minConsumers : Int)
  /-- The producer has looked at the counter. -/
  | looked
  | waited (minConsumers : Int) (ready : Bool)
  deriving DecidableEq

structure World where
  ring : Bool
  producerSequence : Bool
  /-- The counter of the consumers that are ready. -/
  readiness : Option Int
  /-- The consumers that have a cursor. -/
  cursors : List ConsumerId
  clock : Nat
  /-- What has happened since the session began. -/
  events : List Event

def World.record (world : World) (event : Event) : World :=
  { world with events := world.events ++ [event] }

inductive Call where
  | tryAttachCoordination
  | detach
  deriving DecidableEq

/-- A step. The length and the header of a segment are part of its creation here: until they
are there, the attempts of the others to attach to it fail. -/
inductive Action where
  | createRing (truncates : Bool)
  | createProducerSequence (truncates : Bool)
  /-- Create the counter, if there is none under its name. -/
  | createReadiness
  /-- Open the file of the counter for creation, and truncate it. -/
  | truncateReadiness
  | writeInitial (value : Int)
  | attachRing
  | attachProducerSequence
  | createConsumerSequence (number : Nat) (consumerId : ConsumerId)
  | consumerCursorConfig (consumerId : ConsumerId)
  | consumerSequenceExists (consumerId : ConsumerId)
  | truncateConsumerSequence (number : Nat) (consumerId : ConsumerId)
  | attachConsumerSequence (number : Nat) (consumerId : ConsumerId)
  | attachReadiness (consumerId : ConsumerId)
  | signalReadiness (consumerId : ConsumerId)
  | attached (consumerId : ConsumerId)
  | nextConsumer
  | nextCall
  | nextWait
  | waits (minConsumers : Int)
  | loadReadiness
  | waited (minConsumers : Int) (ready : Bool)
  | instantNow
  /-- Look for cursors under the names that the discovery mode expects. -/
  | discover
  | pollWait
  | panic

def Action.Result : Action → Type
  | .createReadiness => Bool
  | .attachRing => Bool
  | .attachProducerSequence => Bool
  | .createConsumerSequence _ _ => Bool
  | .consumerCursorConfig _ => Bool
  | .consumerSequenceExists _ => Bool
  | .attachConsumerSequence _ _ => Bool
  | .attachReadiness _ => Bool
  | .nextConsumer => ConsumerId
  | .nextCall => Call
  | .nextWait => Int × Nat
  | .loadReadiness => Int
  | .instantNow => Nat
  | .discover => Nat
  | .panic => Empty
  | _ => Unit

abbrev signature : Signature := { Action, Result := Action.Result }

inductive Oracle where
  | silent
  /-- Whether what is there can be opened. -/
  | opens (valid : Bool)
  | consumer (consumerId : ConsumerId)
  | call (call : Call)
  | wait (minConsumers : Int) (timeout : Nat)
  | elapsed (duration : Nat)
  | expected (names : List ConsumerId)
  deriving DecidableEq

/-- One atomic step. A panic has no outcome, and neither has the creation of what must not
be there: the producer is not built. -/
def perform : (action : Action) → Oracle → World → Option (action.Result × World)
  | .createRing truncates, _, world =>
      if world.ring = true ∧ truncates = false then none
      else some ((), { world with ring := true })
  | .createProducerSequence truncates, _, world =>
      if world.producerSequence = true ∧ truncates = false then none
      else some ((), { world with producerSequence := true })
  | .createReadiness, _, world =>
      match world.readiness with
      | some _ => some (false, world)
      | none => some (true, { world with readiness := some 0 })
  | .truncateReadiness, _, world => some ((), { world with readiness := some 0 })
  | .writeInitial value, _, world =>
      world.readiness.map fun _ =>
        ((), World.record { world with readiness := some value } .initialised)
  | .attachRing, .opens valid, world => some (world.ring && valid, world)
  | .attachProducerSequence, .opens valid, world => some (world.producerSequence && valid, world)
  | .createConsumerSequence number consumerId, _, world =>
      if consumerId ∈ world.cursors then some (false, world)
      else some (true, World.record { world with cursors := consumerId :: world.cursors }
        (.opened number consumerId))
  | .consumerCursorConfig _, .opens valid, world => some (valid, world)
  | .consumerSequenceExists consumerId, _, world =>
      some (decide (consumerId ∈ world.cursors), world)
  | .truncateConsumerSequence number consumerId, _, world =>
      some ((), World.record { world with cursors := consumerId :: world.cursors }
        (.opened number consumerId))
  | .attachConsumerSequence number consumerId, .opens valid, world =>
      if consumerId ∈ world.cursors ∧ valid = true then
        some (true, world.record (.opened number consumerId))
      else some (false, world)
  | .attachReadiness _, .opens valid, world => some (world.readiness.isSome && valid, world)
  | .signalReadiness consumerId, _, world =>
      world.readiness.map fun count =>
        ((), World.record { world with readiness := some (Register.wrappingAdd count 1) }
          (.signalled consumerId))
  | .attached consumerId, _, world => some ((), world.record (.attached consumerId))
  | .nextConsumer, .consumer consumerId, world => some (consumerId, world)
  | .nextCall, .call call, world => some (call, world)
  | .nextWait, .wait minConsumers timeout, world => some ((minConsumers, timeout), world)
  | .waits minConsumers, _, world => some ((), world.record (.waits minConsumers))
  | .loadReadiness, _, world => world.readiness.map fun count => (count, world.record .looked)
  | .waited minConsumers ready, _, world =>
      some ((), world.record (.waited minConsumers ready))
  | .instantNow, .elapsed duration, world =>
      some (world.clock + duration, { world with clock := world.clock + duration })
  | .discover, .expected names, world =>
      some ((names.dedup.filter (· ∈ world.cursors)).length, world)
  | .pollWait, _, world => some ((), world)
  | _, _, _ => none

abbrev Process := Routine signature Unit Unit

def act (action : Action) : Process action.Result :=
  @Routine.perform signature Unit Unit id action

def panic' {α : Type} : Process α := do
  let never : Empty ← act .panic
  nomatch never

def expect (condition : Prop) [Decidable condition] : Process Unit :=
  if condition then pure () else panic'

def onlyIf (condition : Prop) [Decidable condition] (body : Process Unit) : Process Unit :=
  if condition then body else pure ()

/-! ### Consumers -/

structure Consumer where
  consumerId : ConsumerId
  consumersReady : Bool

def signalReadiness (consumer : Consumer) : Process Unit :=
  onlyIf (consumer.consumersReady = true) (act (.signalReadiness consumer.consumerId))

def attachRing : Process Bool := do
  let ring : Bool ← act .attachRing
  if ring = true then act .attachProducerSequence else pure false

namespace SharedConsumer

def newOrAttach (number : Nat) (consumerId : ConsumerId) : Process Bool := do
  let created : Bool ← act (.createConsumerSequence number consumerId)
  if created = true then pure true else act (.attachConsumerSequence number consumerId)

def newWithCoordination (consumerId : ConsumerId) : Process (Option Consumer) := do
  expect (consumerId ≠ "")
  let consumersReady : Bool ← act (.attachReadiness consumerId)
  signalReadiness { consumerId, consumersReady }
  act (.attached consumerId)
  pure (some { consumerId, consumersReady })

def build (number : Nat) (consumerId : ConsumerId) : Process (Option Consumer) := do
  let attached ← attachRing
  if attached = true then do
    let opened ← newOrAttach number consumerId
    if opened = true then newWithCoordination consumerId else pure none
  else pure none

def tryAttachCoordination (consumer : Consumer) : Process Consumer :=
  if consumer.consumersReady = true then pure consumer
  else do
    let consumersReady : Bool ← act (.attachReadiness consumer.consumerId)
    signalReadiness { consumer with consumersReady }
    pure { consumer with consumersReady }

end SharedConsumer

namespace MmapConsumer

/-- Whether the cursor is there, and whether it was created by this call. -/
def newOrAttach (number : Nat) (consumerId : ConsumerId) : Process (Bool × Bool) := do
  let config : Bool ← act (.consumerCursorConfig consumerId)
  if config = true then do
    let there : Bool ← act (.consumerSequenceExists consumerId)
    if there = true then do
      let opened : Bool ← act (.attachConsumerSequence number consumerId)
      pure (opened, false)
    else do
      act (.truncateConsumerSequence number consumerId)
      pure (true, true)
  else pure (false, false)

def attach (number : Nat) (consumerId : ConsumerId) : Process (Option Consumer) := do
  let attached ← attachRing
  if attached = true then do
    let (opened, isNewConsumer) ← newOrAttach number consumerId
    if opened = true then do
      let consumersReady : Bool ← act (.attachReadiness consumerId)
      onlyIf (isNewConsumer = true) (signalReadiness { consumerId, consumersReady })
      act (.attached consumerId)
      pure (some { consumerId, consumersReady })
    else pure none
  else pure none

end MmapConsumer

def attachConsumer : Backend → Nat → ConsumerId → Process (Option Consumer)
  | .sharedMemory => SharedConsumer.build
  | .mmap => MmapConsumer.attach

/-- Only a consumer of shared memory can look for the counter once more. -/
def tryAttachCoordination : Backend → Consumer → Process Consumer
  | .sharedMemory => SharedConsumer.tryAttachCoordination
  | .mmap => pure

def holdConsumer (backend : Backend) (consumer : Consumer) : Process Unit :=
  Routine.repeat' (fun consumer : Consumer => do
    let call : Call ← act .nextCall
    match call with
    | .tryAttachCoordination => do
        let consumer ← tryAttachCoordination backend consumer
        pure (.inl consumer)
    | .detach => pure (.inr ())) consumer

def serveConsumer (backend : Backend) (number : Nat) : Process Unit := do
  let consumerId : ConsumerId ← act .nextConsumer
  let attached ← attachConsumer backend number consumerId
  match attached with
  | none => pure ()
  | some consumer => holdConsumer backend consumer

/-! ### The producer -/

namespace SharedProducer

/-- A producer that waits for its consumers. Where it finds a counter it goes on without one. -/
def build : Process Bool := do
  act (.createRing false)
  act (.createProducerSequence false)
  let created : Bool ← act .createReadiness
  if created = true then do
    act (.writeInitial 0)
    pure true
  else pure false

end SharedProducer

namespace MmapProducer

def create : Process Bool := do
  act .truncateReadiness
  act (.writeInitial 0)
  act (.createRing true)
  act (.createProducerSequence true)
  pure true

end MmapProducer

def spinUntilReadyCount (minConsumers : Int) (start timeout : Nat) : Process Bool :=
  Routine.repeat' (fun _ : Unit => do
    let now : Nat ← act .instantNow
    if now - start < timeout then do
      let readyCount : Int ← act .loadReadiness
      if readyCount ≥ minConsumers then pure (.inr true) else pure (.inl ())
    else pure (.inr false)) ()

namespace SharedConsumerBarrier

def coordinationTimeoutFor (minConsumers : Int) : Nat :=
  1000000 *
    if minConsumers = 1 then 200
    else if minConsumers = 2 then 1200
    else if 3 ≤ minConsumers ∧ minConsumers ≤ 4 then 800
    else if 5 ≤ minConsumers ∧ minConsumers ≤ 8 then 400
    else 100

def waitForCoordinationMinimum (minConsumers : Int) (start timeout coordinationTimeout : Nat) :
    Process Bool := do
  let effectiveTimeout := min timeout coordinationTimeout
  let ready ← spinUntilReadyCount minConsumers start effectiveTimeout
  if ready = true then pure true
  else if effectiveTimeout < timeout then spinUntilReadyCount minConsumers start timeout
  else pure false

def waitForDiscoveryMinimum (minConsumers : Int) (start timeout : Nat) : Process Bool :=
  Routine.repeat' (fun _ : Unit => do
    let now : Nat ← act .instantNow
    if now - start < timeout then do
      let discovered : Nat ← act .discover
      if discovered ≥ minConsumers then pure (.inr true)
      else do
        act .pollWait
        pure (.inl ())
    else pure (.inr false)) ()

def waitForConsumersReady (consumersReady : Bool) (minConsumers : Int) (timeout : Nat) :
    Process Bool := do
  expect (0 < timeout)
  expect (0 < minConsumers)
  let start : Nat ← act .instantNow
  if consumersReady = true then
    waitForCoordinationMinimum minConsumers start timeout (coordinationTimeoutFor minConsumers)
  else waitForDiscoveryMinimum minConsumers start timeout

end SharedConsumerBarrier

namespace MmapConsumerBarrier

def waitForConsumersReady (readinessCursor : Bool) (minConsumers : Int) (timeout : Nat) :
    Process Bool := do
  expect (0 < minConsumers)
  expect (0 < timeout)
  if readinessCursor = true then do
    let start : Nat ← act .instantNow
    spinUntilReadyCount minConsumers start timeout
  else pure false

end MmapConsumerBarrier

def createProducer : Backend → Process Bool
  | .sharedMemory => SharedProducer.build
  | .mmap => MmapProducer.create

def waitForConsumersReady : Backend → Bool → Int → Nat → Process Bool
  | .sharedMemory => SharedConsumerBarrier.waitForConsumersReady
  | .mmap => MmapConsumerBarrier.waitForConsumersReady

def serveWait (backend : Backend) (readiness : Bool) : Process Unit := do
  let (minConsumers, timeout) ← (act .nextWait : Process (Int × Nat))
  act (.waits minConsumers)
  let ready ← waitForConsumersReady backend readiness minConsumers timeout
  act (.waited minConsumers ready)

/-! ### A session -/

abbrev Code := Program signature Unit Unit

def producerCode (backend : Backend) : Code :=
  (createProducer backend ()).bind fun out => Routine.forever (serveWait backend out.1) ()

def code (backend : Backend) : Party → Code
  | .producer => producerCode backend
  | .process number => Routine.forever (serveConsumer backend number) ()

/-- Processes may stop anywhere. A consumer that is started again is another process. -/
def machine : Machine signature Unit Party World :=
  { Oracle
    perform
    restart := fun _ _ => none }

abbrev State := Configuration signature Unit Party World

/-- The session begins. All that an earlier one has left over is still there. -/
def start (backend : Backend) (leftOver : World) : State :=
  { program := code backend
    world := { leftOver with events := [] } }

end Startup
