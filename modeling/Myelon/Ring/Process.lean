/-
The private state of the producer and of a consumer.

Plain arithmetic on sequences panics where it leaves the range of an `i64`, as
it does in every build that checks for overflow.
-/

import Myelon.Ring.World

namespace Ring

open Interleaving

structure Transport where
  backend : Backend
  ring : RingSize
  /-- The id of the process that the producer runs in. -/
  processId : Nat

inductive DiscoveryMode where
  | disabled
  | enabled (maxConsumers : Nat) (consumerPrefix : Option String) (scanInterval : Nat)
  deriving DecidableEq

/-- The consumer barrier of either backend. The mmap one has no use for the
fields that limit the scans. -/
structure ConsumerBarrier where
  /-- The keys of the map; the cursors behind them are shared. -/
  consumerCursors : List ConsumerId
  lastScan : Nat
  discoveryMode : DiscoveryMode
  discoveryCompleted : Bool

structure ProducerCounters where
  eventsPublished : Bool
  producerFullEvents : Bool

structure Producer where
  consumerBarrier : ConsumerBarrier
  /-- The next sequence to be published. -/
  sequence : Int
  sequenceClearOfConsumers : Int
  requiredConsumerLiveness : Option RequiredConsumerLivenessState
  counters : ProducerCounters

structure ConsumerCounters where
  eventsConsumed : Bool
  consumerEmptySpins : Bool
  consumerLagMax : Bool

structure Consumer where
  consumerId : ConsumerId
  lastProcessedSequence : Int
  counters : ConsumerCounters

/-- The private state an action is taken in. -/
inductive Self where
  | producer (producer : Producer)
  | consumer (consumer : Consumer)
  | attaching (consumerId : ConsumerId)

class Viewed (State : Type) where
  view : State → Self

instance : Viewed Producer := ⟨.producer⟩

instance {App : Type} : Viewed (Consumer × App) := ⟨fun self => .consumer self.1⟩

abbrev Process (interface : Interface) (State : Type) :=
  Routine (signature interface) Self State

variable {interface : Interface} {State α : Type} [Viewed State]

def act (action : Action interface) : Process interface State action.Result :=
  @Routine.perform (signature interface) Self State Viewed.view action

def panic' : Process interface State α := do
  let impossible ← act .panic
  nomatch (impossible : Empty)

def expect (condition : Prop) [Decidable condition] : Process interface State Unit :=
  if condition then pure () else panic'

def onlyIf (condition : Prop) [Decidable condition] (body : Process interface State Unit) :
    Process interface State Unit :=
  if condition then body else pure ()

def checked (value : Int) : Process interface State Int :=
  if InRange value then pure value else panic'

def RingSize.get (ring : RingSize) (sequence : Int) : Process interface State Nat := do
  expect (0 ≤ sequence)
  pure (ring.index sequence)

end Ring
