/-
The producer of either backend.

The two producers differ in the barrier that gates them and in the counters,
which only the shared-memory one has; what they do with a free slot is the same
code. A closure that fills a slot may panic, and then has no value.
-/

import Myelon.Ring.Barrier

namespace Ring

open Interleaving

abbrev MissingFreeSlots := Nat

inductive RingBufferFull where
  | ringBufferFull
  deriving DecidableEq

inductive PublishTimeoutError where
  | timeout
  deriving DecidableEq

def checkedAdd (first second : Int) : Option Int :=
  if InRange (first + second) then some (first + second) else none

variable {interface : Interface}

namespace Producer

def new (transport : Transport) (barrier : ConsumerBarrier) (counters : ProducerCounters) :
    Producer :=
  { consumerBarrier := barrier
    sequence := 0
    sequenceClearOfConsumers := transport.ring.size - 1
    requiredConsumerLiveness := none
    counters }

def count (attached : Bool) (counter : Counter) : ProducerProcess interface Unit :=
  onlyIf (attached = true) (act (.addCounter counter 1))

def setLiveness (state : RequiredConsumerLivenessState) : ProducerProcess interface Unit :=
  modifyGet fun producer =>
    ((), { producer with requiredConsumerLiveness := some state })

/-! ### Reservation -/

def lastReservedSequence (producer : Producer) (n : Int) : Option Int :=
  (checkedAdd producer.sequence (-1)).bind fun current => checkedAdd current n

def freeSlots (transport : Transport) (lastPublished rearSequenceRead : Int) :
    ProducerProcess interface Int := do
  let wrapPoint ← checked (transport.ring.wrapPoint lastPublished)
  checked (rearSequenceRead - wrapPoint)

/-- Take the slots up to the last one that every known consumer is clear of. -/
def refreshClearanceWindow (transport : Transport) (n : Int) :
    ProducerProcess interface (Except MissingFreeSlots Unit) := do
  let producer ← get
  let lastPublished ← checked (producer.sequence - 1)
  let rearSequenceRead ← ConsumerBarrier.gatingSequence transport
  let freeSlots ← freeSlots transport lastPublished rearSequenceRead
  if freeSlots < n then do
    let missing ← checked (n - freeSlots)
    pure (.error missing.toNat)
  else do
    let cleared ← checked (lastPublished + freeSlots)
    modifyGet fun producer => (.ok (), { producer with sequenceClearOfConsumers := cleared })

def updateMinConsumerClearanceWindow (transport : Transport) (n nNext : Int) :
    ProducerProcess interface (Except MissingFreeSlots Unit) := do
  let producer ← get
  if producer.sequenceClearOfConsumers ≥ nNext then pure (.ok ())
  else refreshClearanceWindow transport n

def nextSequences (transport : Transport) (n : Nat) :
    ProducerProcess interface (Except MissingFreeSlots Int) :=
  if InRange n then do
    expect (0 < n)
    let producer ← get
    match producer.lastReservedSequence n with
    | none => pure (.error (2 ^ 64 - 1))
    | some nNext => do
        let cleared ← updateMinConsumerClearanceWindow transport n nNext
        match cleared with
        | .error missing => pure (.error missing)
        | .ok () => pure (.ok nNext)
  else pure (.error (2 ^ 64 - 1))

/-! ### Publication -/

def writeSlot (transport : Transport) (sequence : Int)
    (update : interface.Value → Option interface.Value) : ProducerProcess interface Unit := do
  let slot ← transport.ring.get sequence
  act (.updateSlot sequence slot update)

/-- Make everything up to the sequence visible, and go on behind it. -/
def storeSequence (sequence : Int) (n : Int) : ProducerProcess interface Unit := do
  act (.storeProducerSequence sequence)
  let producer ← get
  let next ← checked (producer.sequence + n)
  modifyGet fun producer => ((), { producer with sequence := next })

def applyUpdate (transport : Transport)
    (update : interface.Value → Option interface.Value) : ProducerProcess interface Int := do
  let producer ← get
  expect (0 ≤ producer.sequence)
  let sequence := producer.sequence
  writeSlot transport sequence update
  storeSequence sequence 1
  pure sequence

def applyBatchUpdates (transport : Transport) (n : Nat)
    (updateFn : Nat → interface.Value → Option interface.Value) :
    ProducerProcess interface Int := do
  expect (0 < n)
  expect (InRange n)
  let producer ← get
  let lower := producer.sequence
  let upper ← checked (lower + (n - 1))
  Routine.each (fun i : Nat => writeSlot transport (lower + i) (updateFn i)) (List.range n)
  storeSequence upper n
  pure upper

def tryPublish (transport : Transport)
    (update : interface.Value → Option interface.Value) :
    ProducerProcess interface (Except RingBufferFull Int) := do
  let producer ← get
  let reserved ← nextSequences transport 1
  match reserved with
  | .error _ => do
      count producer.counters.producerFullEvents .producerFullEvents
      pure (.error .ringBufferFull)
  | .ok _ => do
      let sequence ← applyUpdate transport update
      count producer.counters.eventsPublished .eventsPublished
      pure (.ok sequence)

/-- The rounds of `publish` until a slot is free. The first that finds none is counted. -/
def awaitSlot (transport : Transport) : ProducerProcess interface Unit :=
  Routine.repeat' (fun spun : Bool => do
    let producer ← get
    let reserved ← nextSequences transport 1
    match reserved with
    | .ok _ => pure (.inr ())
    | .error _ => do
        count (!spun && producer.counters.producerFullEvents) .producerFullEvents
        act .pause
        pure (.inl true)) false

def publish (transport : Transport) (update : interface.Value → Option interface.Value) :
    ProducerProcess interface Unit := do
  awaitSlot transport
  let _ ← applyUpdate transport update
  let producer ← get
  count producer.counters.eventsPublished .eventsPublished

def tryBatchPublish (transport : Transport) (n : Nat)
    (updateFn : Nat → interface.Value → Option interface.Value) :
    ProducerProcess interface (Except MissingFreeSlots Int) :=
  if n = 0 then do
    let producer ← get
    let last ← checked (producer.sequence - 1)
    pure (.ok last)
  else do
    let reserved ← nextSequences transport n
    match reserved with
    | .error missing => pure (.error missing)
    | .ok _ => do
        let sequence ← applyBatchUpdates transport n updateFn
        pure (.ok sequence)

def publishWithTimeout (transport : Transport) (timeout : Nat)
    (update : interface.Value → Option interface.Value) :
    ProducerProcess interface (Except PublishTimeoutError Int) := do
  expect (0 < timeout)
  let start : Nat ← act .instantNow
  Routine.repeat' (fun _ : Unit => do
    let reserved ← nextSequences transport 1
    match reserved with
    | .ok _ => do
        let sequence ← applyUpdate transport update
        pure (.inr (.ok sequence))
    | .error _ => do
        let now : Nat ← act .instantNow
        if now ≥ start + timeout then pure (.inr (.error .timeout))
        else do
          act .pause
          pure (.inl ())) ()

/-! ### Managed publication -/

/-- Every required consumer is there: note how far each of them is. -/
def completeStartup (state : RequiredConsumerLivenessState) : ProducerProcess interface Unit := do
  let now : Nat ← act .instantNow
  let state ← RequiredConsumerLivenessState.seedProgress ConsumerBarrier.consumerSequence now
    state.config.requiredConsumerIds state
  setLiveness (state.markStartupCompleted now)

def awaitRequiredConsumers (state : RequiredConsumerLivenessState) (deadline : Nat) :
    ProducerProcess interface (Except RequiredConsumerError Unit) :=
  Routine.repeat' (fun _ : Unit => do
    let missing ← RequiredConsumerLivenessState.missingRequiredConsumers
      ConsumerBarrier.discoverConsumerId state.config.requiredConsumerIds
    if missing.isEmpty = true then do
      completeStartup state
      pure (.inr (.ok ()))
    else do
      let now : Nat ← act .instantNow
      if now ≥ deadline then pure (.inr (.error (.startupTimeout missing)))
      else do
        act .pause
        pure (.inl ())) ()

def ensureRequiredConsumersReady :
    ProducerProcess interface (Except RequiredConsumerError Unit) := do
  let producer ← get
  match producer.requiredConsumerLiveness with
  | none => pure (.ok ())
  | some state =>
      if state.hasCompletedStartup = true then pure (.ok ())
      else do
        let start : Nat ← act .instantNow
        awaitRequiredConsumers state (start + state.config.startupWaitTimeout)

def lastPublishedSequence : ProducerProcess interface Int :=
  act .loadProducerSequence

def checkRequiredConsumerLiveness :
    ProducerProcess interface (Except RequiredConsumerError Unit) := do
  let producer ← get
  match producer.requiredConsumerLiveness with
  | none => pure (.ok ())
  | some state => do
      let now : Nat ← act .instantNow
      let producerSequence ← lastPublishedSequence
      let (failure, state) ← RequiredConsumerLivenessState.evaluateBlocked
        ConsumerBarrier.consumerSequence (fun alert => act (.alert alert)) now
        producerSequence state
      setLiveness state
      match failure with
      | some error => pure (.error error)
      | none => pure (.ok ())

/-- The rounds of a managed publication: reserve and apply, or check who is late. -/
def publishManagedLoop (transport : Transport) (n : Nat)
    (apply : ProducerProcess interface Int) :
    ProducerProcess interface (Except RequiredConsumerError Int) :=
  Routine.repeat' (fun _ : Unit => do
    let reserved ← nextSequences transport n
    match reserved with
    | .ok _ => do
        let sequence ← apply
        pure (.inr (.ok sequence))
    | .error _ => do
        let checked ← checkRequiredConsumerLiveness
        match checked with
        | .error error => pure (.inr (.error error))
        | .ok () => do
            act .pause
            pure (.inl ())) ()

def publishManaged (transport : Transport)
    (update : interface.Value → Option interface.Value) :
    ProducerProcess interface (Except RequiredConsumerError Int) := do
  let ready ← ensureRequiredConsumersReady
  match ready with
  | .error error => pure (.error error)
  | .ok () => publishManagedLoop transport 1 (applyUpdate transport update)

def publishBatchManaged (transport : Transport) (n : Nat)
    (updateFn : Nat → interface.Value → Option interface.Value) :
    ProducerProcess interface (Except RequiredConsumerError Int) :=
  if n = 0 then do
    let producer ← get
    let last ← checked (producer.sequence - 1)
    pure (.ok last)
  else do
    let ready ← ensureRequiredConsumersReady
    match ready with
    | .error error => pure (.error error)
    | .ok () => publishManagedLoop transport n (applyBatchUpdates transport n updateFn)

/-! ### Gating helpers -/

def minGatingSequence (transport : Transport) : ProducerProcess interface Int :=
  ConsumerBarrier.gatingSequence transport

def isConsumed (transport : Transport) (sequence : Int) : ProducerProcess interface Bool := do
  let minSequence ← ConsumerBarrier.gatingSequence transport
  pure (decide (minSequence ≥ sequence))

def waitForConsumerId (consumerId : ConsumerId) (timeout : Nat) :
    ProducerProcess interface Bool := do
  expect (0 < timeout)
  let start : Nat ← act .instantNow
  Routine.repeat' (fun _ : Unit => do
    let found ← ConsumerBarrier.discoverConsumerId consumerId
    if found = true then pure (.inr true)
    else do
      let now : Nat ← act .instantNow
      if now ≥ start + timeout then pure (.inr false)
      else do
        act .pause
        pure (.inl ())) ()

def waitUntilConsumedWithStrategy (transport : Transport) (sequence : Int) (timeout : Nat) :
    ProducerProcess interface Bool := do
  let start : Nat ← act .instantNow
  Routine.repeat' (fun _ : Unit => do
    let now : Nat ← act .instantNow
    if now < start + timeout then do
      let consumed ← isConsumed transport sequence
      if consumed = true then pure (.inr true)
      else do
        act .pause
        pure (.inl ())
    else pure (.inr false)) ()

end Producer
end Ring
