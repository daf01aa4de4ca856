/-
The consumer barriers of the two backends.

A barrier knows some of the consumers, finds others by looking for cursors under
the names they may have, and gives the producer the sequence behind which every
known consumer has consumed.
-/

import Myelon.Ring.Process

namespace Ring

open Interleaving

abbrev ProducerProcess (interface : Interface) := Process interface Producer

variable {interface : Interface}

namespace ConsumerBarrier

def insert (barrier : ConsumerBarrier) (consumerId : ConsumerId) : ConsumerBarrier :=
  { barrier with consumerCursors := consumerId :: barrier.consumerCursors }

def current : ProducerProcess interface ConsumerBarrier := do
  let producer ← get
  pure producer.consumerBarrier

def update (change : ConsumerBarrier → ConsumerBarrier) : ProducerProcess interface Unit :=
  modifyGet fun producer =>
    ((), { producer with consumerBarrier := change producer.consumerBarrier })

/-- Attach a consumer by its id. The scans over names go through the same steps. -/
def discoverConsumerId (consumerId : ConsumerId) : ProducerProcess interface Bool := do
  let barrier ← current
  if consumerId ∈ barrier.consumerCursors then pure true
  else do
    let attached : Bool ← act (.attachConsumerSequence consumerId)
    if attached = true then do
      update (·.insert consumerId)
      pure true
    else pure false

def discoverNames (names : List ConsumerId) : ProducerProcess interface Unit :=
  Routine.each (fun consumerName => do
    let _ ← discoverConsumerId consumerName
    pure ()) names

def consumerSequence (consumerId : ConsumerId) : ProducerProcess interface (Option Int) := do
  let present ← discoverConsumerId consumerId
  if present = true then do
    let sequence : Int ← act (.loadConsumerSequence consumerId)
    pure (some sequence)
  else pure none

/-- The smallest of the cursors that count, in the order in which the map yields them. -/
def loadMinimum (counts : Int → Bool) (order : List ConsumerId) :
    ProducerProcess interface Int :=
  Routine.fold (fun minimum consumerId => do
    let sequence : Int ← act (.loadConsumerSequence consumerId)
    pure (if counts sequence = true then min minimum sequence else minimum))
    order (2 ^ 63 - 1)

end ConsumerBarrier

namespace SharedConsumerBarrier

open ConsumerBarrier (current update discoverNames loadMinimum)

def autoConsumerId (slot : Nat) : ConsumerId := "ad_" ++ toString slot

def discoveryScanPlan (barrier : ConsumerBarrier) (now : Nat) : Bool × Nat × Option String :=
  match barrier.discoveryMode with
  | .disabled => (false, 0, none)
  | .enabled maxConsumers consumerPrefix scanInterval =>
      if barrier.discoveryCompleted then (false, maxConsumers, none)
      else if barrier.consumerCursors.length ≥ maxConsumers then (false, maxConsumers, none)
      else if now - barrier.lastScan < scanInterval ∧ !barrier.consumerCursors.isEmpty then
        (false, maxConsumers, none)
      else (true, maxConsumers, consumerPrefix)

def prefixedNames (consumerPrefix : String) (maxConsumers : Nat) : List ConsumerId :=
  (List.range maxConsumers).map fun counter => consumerPrefix ++ "_" ++ toString counter

def discoverWithConsumerPrefix (consumerPrefix : String) : ProducerProcess interface Unit := do
  let barrier ← current
  let maxConsumers := match barrier.discoveryMode with
    | .enabled maxConsumers _ _ => maxConsumers
    | .disabled => 16
  discoverNames (prefixedNames consumerPrefix maxConsumers)

/-- The slots that automatic consumers have registered, as far as they are expected. -/
def discoverWithRegisteredSlots (maxConsumers : Nat) : ProducerProcess interface Nat := do
  let registration : Option Int ← act .loadConsumerRegistration
  match registration with
  | none => pure 0
  | some registered => do
      let registered := (min (max registered 0) maxConsumers).toNat
      discoverNames ((List.range registered).map autoConsumerId)
      pure registered

def pidBasedNames (processId maxConsumers : Nat) : List ConsumerId :=
  (List.range' (processId - 20) (processId + 20 + 1 - (processId - 20))).flatMap fun pid =>
    (List.range maxConsumers).map fun counter =>
      "c" ++ toString (pid % 10000) ++ "_" ++ toString counter

def discoverWithPidBasedScanning (transport : Transport) :
    ProducerProcess interface Unit := do
  let barrier ← current
  let maxConsumers := match barrier.discoveryMode with
    | .enabled maxConsumers _ _ => min (max maxConsumers 32) 128
    | .disabled => 8
  discoverNames (pidBasedNames transport.processId maxConsumers)

def scan (transport : Transport) (maxConsumers : Nat) :
    Option String → ProducerProcess interface Unit
  | some consumerPrefix => discoverWithConsumerPrefix consumerPrefix
  | none => do
      let registeredSlots ← discoverWithRegisteredSlots maxConsumers
      let barrier ← current
      if registeredSlots = 0 ∨ barrier.consumerCursors.length < registeredSlots then
        discoverWithPidBasedScanning transport
      else pure ()

def discoverConsumers (transport : Transport) : ProducerProcess interface Unit := do
  let now : Nat ← act .instantNow
  let barrier ← current
  match discoveryScanPlan barrier now with
  | (false, _, _) => pure ()
  | (true, maxConsumers, consumerPrefix) => do
      update fun barrier => { barrier with lastScan := now }
      scan transport maxConsumers consumerPrefix
      update fun barrier =>
        if barrier.consumerCursors.length ≥ maxConsumers then
          { barrier with discoveryCompleted := true }
        else barrier

/-- The scan that the hot path asks for, unless the discovery is over. -/
def discoverUnlessCompleted (transport : Transport) : ProducerProcess interface Unit := do
  let barrier ← current
  match barrier.discoveryMode with
  | .disabled => pure ()
  | .enabled _ _ _ =>
      if barrier.discoveryCompleted then pure () else discoverConsumers transport

def discoveredMinSequence : ProducerProcess interface (Option Int) := do
  let barrier ← current
  let order : List ConsumerId ← act (.iterate barrier.consumerCursors)
  let minSequence ← loadMinimum (fun sequence => sequence ≥ -1) order
  pure (if minSequence = 2 ^ 63 - 1 then none else some minSequence)

/-- Where no consumer is known: the floor in discovery mode, else the producer's own cursor. -/
def minSequenceFallback : ProducerProcess interface Int := do
  let barrier ← current
  match barrier.discoveryMode with
  | .enabled _ _ _ => pure (-1)
  | .disabled => act .loadProducerSequence

def getMinConsumerSequence (transport : Transport) : ProducerProcess interface Int := do
  discoverUnlessCompleted transport
  let discoveredMin ← discoveredMinSequence
  match discoveredMin with
  | some minSequence => pure minSequence
  | none => minSequenceFallback

def bestEffortConsumerCount (transport : Transport) : ProducerProcess interface Nat := do
  discoverUnlessCompleted transport
  let barrier ← current
  pure barrier.consumerCursors.length

end SharedConsumerBarrier

namespace MmapConsumerBarrier

open ConsumerBarrier (current update loadMinimum)

/-- The entries of one pass. Nothing is returned where the pass ends in an error. -/
def discoverEntries : List DirectoryEntry → Nat → ProducerProcess interface (Option Nat)
  | [], discovered => pure (some discovered)
  | .unreadable :: _, _ => pure none
  | .foreign :: rest, discovered => discoverEntries rest discovered
  | .cursorFile consumerId accepted :: rest, discovered => do
      let barrier ← current
      if consumerId ∈ barrier.consumerCursors then discoverEntries rest discovered
      else if accepted = true then do
        let attached : Bool ← act (.attachConsumerSequence consumerId)
        if attached = true then do
          update (·.insert consumerId)
          discoverEntries rest (discovered + 1)
        else discoverEntries rest discovered
      else pure none

def discoverConsumers : ProducerProcess interface (Option Nat) := do
  let readDir : Option (List DirectoryEntry) ← act .readDirectory
  match readDir with
  | none => pure none
  | some entries => discoverEntries entries 0

def fallbackSequence : ProducerProcess interface Int :=
  act .loadProducerSequence

def minConsumerSequence : ProducerProcess interface (Option Int) := do
  let discovered ← discoverConsumers
  match discovered with
  | none => pure none
  | some _ => do
      let barrier ← current
      if barrier.consumerCursors.isEmpty then do
        let sequence : Int ← fallbackSequence
        pure (some sequence)
      else do
        let order : List ConsumerId ← act (.iterate barrier.consumerCursors)
        let minimum ← loadMinimum (fun _ => true) order
        pure (some minimum)

def bestEffortMinConsumerSequence : ProducerProcess interface Int := do
  let minimum ← minConsumerSequence
  match minimum with
  | some minimum => pure minimum
  | none => fallbackSequence

def bestEffortConsumerCount : ProducerProcess interface Nat := do
  let _ ← discoverConsumers
  let barrier ← current
  pure barrier.consumerCursors.length

end MmapConsumerBarrier

namespace ConsumerBarrier

def gatingSequence (transport : Transport) : ProducerProcess interface Int :=
  match transport.backend with
  | .sharedMemory => SharedConsumerBarrier.getMinConsumerSequence transport
  | .mmap => MmapConsumerBarrier.bestEffortMinConsumerSequence

def bestEffortConsumerCount (transport : Transport) : ProducerProcess interface Nat :=
  match transport.backend with
  | .sharedMemory => SharedConsumerBarrier.bestEffortConsumerCount transport
  | .mmap => MmapConsumerBarrier.bestEffortConsumerCount

end ConsumerBarrier
end Ring
