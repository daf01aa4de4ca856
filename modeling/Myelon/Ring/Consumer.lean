/-
The consumer of either backend.

A slot that is leased, or lent to a callback, is read once when it is handed out;
whoever holds it may read it again until the cursor passes it.
-/

import Myelon.Ring.Process

namespace Ring

open Interleaving

abbrev ConsumerProcess (interface : Interface) (App : Type) :=
  Process interface (Consumer × App)

/-- A reference to the event in a slot, with the value it had when it was handed out. -/
structure EventRef (interface : Interface) where
  sequence : Int
  slot : Nat
  value : interface.Value

structure Attaching where
  consumerId : ConsumerId

instance : Viewed Attaching := ⟨fun self => .attaching self.consumerId⟩

variable {interface : Interface} {App α : Type}

namespace Consumer

def current : ConsumerProcess interface App Consumer := do
  let self ← get
  pure self.1

def count (counter : ConsumerId → Counter) (attached : ConsumerCounters → Bool)
    (amount : Nat) : ConsumerProcess interface App Unit := do
  let consumer ← current
  onlyIf (attached consumer.counters = true)
    (act (.addCounter (counter consumer.consumerId) amount))

def recordLag (upper lower : Int) : ConsumerProcess interface App Unit := do
  let consumer ← current
  if consumer.counters.consumerLagMax = true then do
    let lag ← checked (upper - lower)
    act (.recordMax (.consumerLagMax consumer.consumerId) (max lag 0).toNat)
  else pure ()

def availableBatchBounds (transport : Transport) :
    ConsumerProcess interface App (Option (Int × Int)) := do
  let consumer ← current
  expect (transport.backend = .sharedMemory → consumer.lastProcessedSequence ≥ -1)
  let producerSequence : Int ← act .loadProducerSequence
  let nextSequence ← checked (consumer.lastProcessedSequence + 1)
  pure (if nextSequence > producerSequence then none
    else some (nextSequence, producerSequence))

def publishConsumedSequence (sequence : Int) : ConsumerProcess interface App Unit := do
  let consumer ← current
  act (.storeConsumerSequence consumer.consumerId sequence)
  modifyGet fun self => ((), ({ self.1 with lastProcessedSequence := sequence }, self.2))

def isEndOfBatch : ConsumerProcess interface App Bool := do
  let consumer ← current
  let producerSequence : Int ← act .loadProducerSequence
  pure (decide (consumer.lastProcessedSequence ≥ producerSequence))

def currentSequence : ConsumerProcess interface App Int := do
  let consumer ← current
  pure consumer.lastProcessedSequence

def borrow (transport : Transport) (sequence : Int) :
    ConsumerProcess interface App (EventRef interface) := do
  let slot ← transport.ring.get sequence
  let consumer ← current
  let value : interface.Value ← act (.readSlot consumer.consumerId sequence slot)
  pure { sequence, slot, value }

/-- The holder of a slot reads it as often as it likes. -/
def hold (event : EventRef interface) : ConsumerProcess interface App Unit :=
  Routine.repeat' (fun _ : Unit => do
    let consumer ← current
    let again : Bool ← act (.readsAgain consumer.consumerId)
    if again = true then do
      let _ ← act (.rereadSlot consumer.consumerId event.sequence event.slot)
      pure (.inl ())
    else pure (.inr ())) ()

/-! ### Single events -/

def tryConsumeNext (transport : Transport) :
    ConsumerProcess interface App (Option (Int × interface.Value)) := do
  let bounds ← availableBatchBounds transport
  match bounds with
  | none => do
      count .consumerEmptySpins (·.consumerEmptySpins) 1
      pure none
  | some (nextSequence, upper) => do
      let event ← borrow transport nextSequence
      publishConsumedSequence nextSequence
      count .eventsConsumed (·.eventsConsumed) 1
      recordLag upper nextSequence
      pure (some (nextSequence, event.value))

/-- The life of a lease: the slot is handed out, used, and given back by the drop. -/
def lease (transport : Transport) (sequence : Int)
    (useLease : EventRef interface → ConsumerProcess interface App α) :
    ConsumerProcess interface App α := do
  let event ← borrow transport sequence
  let result ← useLease event
  publishConsumedSequence sequence
  count .eventsConsumed (·.eventsConsumed) 1
  pure result

def tryConsumeNextLeased (transport : Transport)
    (useLease : EventRef interface → ConsumerProcess interface App α) :
    ConsumerProcess interface App (Option α) := do
  let bounds ← availableBatchBounds transport
  match bounds with
  | none => do
      count .consumerEmptySpins (·.consumerEmptySpins) 1
      pure none
  | some (nextSequence, upper) => do
      recordLag upper nextSequence
      let result ← lease transport nextSequence useLease
      pure (some result)

/-- Also the variant that sleeps: the two differ in how they pause. -/
def consumeNext (transport : Transport) :
    ConsumerProcess interface App (Int × interface.Value) :=
  Routine.repeat' (fun _ : Unit => do
    let consumed ← tryConsumeNext transport
    match consumed with
    | some event => pure (.inr event)
    | none => do
        act .pause
        pure (.inl ())) ()

/-- Also the variant that sleeps. -/
def consumeNextLeased (transport : Transport)
    (useLease : EventRef interface → ConsumerProcess interface App α) :
    ConsumerProcess interface App α :=
  Routine.repeat' (fun _ : Unit => do
    let bounds ← availableBatchBounds transport
    match bounds with
    | some (nextSequence, _) => do
        let result ← lease transport nextSequence useLease
        pure (.inr result)
    | none => do
        act .pause
        pure (.inl ())) ()

/-- Also the variant that sleeps. -/
def processNextBlocking (transport : Transport)
    (processor : interface.Value → Int → Bool → ConsumerProcess interface App Unit) :
    ConsumerProcess interface App (Int × Bool) := do
  let event ← consumeNext transport
  let endOfBatch ← isEndOfBatch
  processor event.2 event.1 endOfBatch
  pure (event.1, endOfBatch)

/-! ### Batches -/

def sequences (lower upper : Int) : List Int :=
  (List.range (upper - lower + 1).toNat).map fun offset : Nat => lower + offset

def processSnapshotBatchWithEob (transport : Transport) (lower upper : Int)
    (processor : EventRef interface → Bool → ConsumerProcess interface App Unit) :
    ConsumerProcess interface App Nat := do
  recordLag upper lower
  Routine.each (fun sequence : Int => do
    let event ← borrow transport sequence
    processor event (decide (sequence = upper))) (sequences lower upper)
  publishConsumedSequence upper
  count .eventsConsumed (·.eventsConsumed) (sequences lower upper).length
  pure (sequences lower upper).length

def processSnapshotBatch (transport : Transport) (lower upper : Int)
    (processor : EventRef interface → ConsumerProcess interface App Unit) :
    ConsumerProcess interface App Nat :=
  processSnapshotBatchWithEob transport lower upper (fun event _ => processor event)

/-- One batch after the other, until none is available. -/
def processBatches (transport : Transport) (processed : Nat)
    (processor : EventRef interface → Bool → ConsumerProcess interface App Unit) :
    ConsumerProcess interface App Nat :=
  Routine.repeat' (fun processed : Nat => do
    let bounds ← availableBatchBounds transport
    match bounds with
    | none => pure (.inr processed)
    | some (lower, upper) => do
        let more ← processSnapshotBatchWithEob transport lower upper processor
        pure (.inl (processed + more))) processed

def processAvailableBlocking (transport : Transport)
    (processor : EventRef interface → Bool → ConsumerProcess interface App Unit) :
    ConsumerProcess interface App Nat := do
  let first ← Routine.repeat' (fun _ : Unit => do
    let bounds ← availableBatchBounds transport
    match bounds with
    | some (lower, upper) => do
        let processed ← processSnapshotBatchWithEob transport lower upper processor
        pure (.inr processed)
    | none => do
        act .pause
        pure (.inl ())) ()
  processBatches transport first processor

/-- A batch is never empty, so nothing was observed when nothing was processed. -/
def processAvailableShared (transport : Transport)
    (processor : EventRef interface → ConsumerProcess interface App Unit) :
    ConsumerProcess interface App Nat := do
  let processed ← processBatches transport 0 (fun event _ => processor event)
  onlyIf (processed = 0) (count .consumerEmptySpins (·.consumerEmptySpins) 1)
  pure processed

def processAvailableMmap (transport : Transport)
    (processor : EventRef interface → ConsumerProcess interface App Unit) :
    ConsumerProcess interface App Nat := do
  let bounds ← availableBatchBounds transport
  match bounds with
  | none => pure 0
  | some (lower, upper) => processSnapshotBatch transport lower upper processor

def processAvailable (transport : Transport)
    (processor : EventRef interface → ConsumerProcess interface App Unit) :
    ConsumerProcess interface App Nat :=
  match transport.backend with
  | .sharedMemory => processAvailableShared transport processor
  | .mmap => processAvailableMmap transport processor

/-! ### Attachment -/

/-- A new cursor can be found from the time its header is there. Its initial value follows. -/
def newOrAttachCursor (consumerId : ConsumerId) : Process interface Attaching Bool := do
  let isNew : Bool ← act (.newOrAttachConsumerSequence consumerId)
  onlyIf (isNew = true) (act (.initialiseConsumerSequence consumerId))
  pure isNew

/-- Build the consumer of an id, on the cursor it left behind if there is one. -/
def attach (transport : Transport) (counters : ConsumerCounters) :
    Process interface Attaching Consumer := do
  let attaching ← get
  let isNew ← newOrAttachCursor attaching.consumerId
  expect (transport.backend = .sharedMemory → attaching.consumerId ≠ "")
  let lastProcessedSequence : Int ← act (.loadConsumerSequence attaching.consumerId)
  onlyIf (transport.backend = .sharedMemory ∨ isNew = true) (act .signalReadiness)
  pure { consumerId := attaching.consumerId, lastProcessedSequence, counters }

end Consumer
end Ring
