/-
What the processes of one transport share, and the atomic steps they take on it.

The ring, the cursors, the registration and readiness counters and the counters
file are shared memory or mapped files. Everything a process owns alone stays
out of the world. The histories at its end are written by no code of the
transport: they record what was written, read, committed and answered.
-/

import Myelon.Delivery.Log
import Myelon.Interleaving.Execution
import Myelon.Ring.Buffer
import Myelon.Ring.RequiredConsumer

namespace Ring

/-- What the application puts into the ring, what it asks of the two ends of
it, and what it gets from them. -/
structure Interface where
  Value : Type
  ProducerRequest : Type
  ProducerReply : Type
  ConsumerRequest : Type
  Output : Type

inductive Backend where
  | sharedMemory
  | mmap
  deriving DecidableEq

inductive Party where
  | producer
  | consumer (consumerId : ConsumerId)
  deriving DecidableEq

inductive Counter where
  | eventsPublished
  | producerFullEvents
  | eventsConsumed (consumerId : ConsumerId)
  | consumerEmptySpins (consumerId : ConsumerId)
  | consumerLagMax (consumerId : ConsumerId)
  deriving DecidableEq

/-- An entry that a pass over the directory of consumer cursors may meet. The
flag of a cursor file says whether its stem is an acceptable consumer id. -/
inductive DirectoryEntry where
  | cursorFile (consumerId : ConsumerId) (accepted : Bool)
  | foreign
  | unreadable
  deriving DecidableEq

abbrev ConsumerEvent (interface : Interface) :=
  Delivery.Event interface.Value interface.Output

structure World (interface : Interface) where
  slots : Nat → interface.Value
  producerSequence : Int
  /-- The consumers whose cursor has been created. -/
  consumers : List ConsumerId
  /-- Those of them whose cursor has still to get its initial value. -/
  uninitialised : List ConsumerId
  /-- The cursors, at their initial value until they are written. -/
  consumerSequence : ConsumerId → Int
  readiness : Int
  clock : Nat
  messageId : Nat
  counters : Counter → Nat
  alerts : List RequiredConsumerAlert
  /-- The consumers that the producer has found. -/
  discovered : List ConsumerId
  written : List interface.Value
  /-- The replies, each with the number of events written before it. -/
  replies : List (Nat × interface.ProducerReply)
  events : ConsumerId → List (ConsumerEvent interface)

namespace World

variable {interface : Interface}

def initial (slots : Nat → interface.Value) : World interface :=
  { slots
    producerSequence := -1
    consumers := []
    uninitialised := []
    consumerSequence := fun _ => -1
    readiness := 0
    clock := 0
    messageId := 1
    counters := fun _ => 0
    alerts := []
    discovered := []
    written := []
    replies := []
    events := fun _ => [] }

/-- What a cursor reads as. The memory of a new one is zero. -/
def cursor (world : World interface) (consumerId : ConsumerId) : Int :=
  if consumerId ∈ world.uninitialised then 0 else world.consumerSequence consumerId

def record (world : World interface) (consumerId : ConsumerId)
    (event : ConsumerEvent interface) : World interface :=
  { world with
    events := Function.update world.events consumerId (world.events consumerId ++ [event]) }

end World

inductive Action (interface : Interface) where
  | loadProducerSequence
  | storeProducerSequence (sequence : Int)
  | loadConsumerSequence (consumerId : ConsumerId)
  | storeConsumerSequence (consumerId : ConsumerId) (sequence : Int)
  | attachConsumerSequence (consumerId : ConsumerId)
  | newOrAttachConsumerSequence (consumerId : ConsumerId)
  | initialiseConsumerSequence (consumerId : ConsumerId)
  | loadConsumerRegistration
  | signalReadiness
  | readDirectory
  /-- The order in which the values of a hash map come. -/
  | iterate (keys : List ConsumerId)
  | readSlot (consumerId : ConsumerId) (sequence : Int) (slot : Nat)
  | rereadSlot (consumerId : ConsumerId) (sequence : Int) (slot : Nat)
  | updateSlot (sequence : Int) (slot : Nat)
      (update : interface.Value → Option interface.Value)
  | instantNow
  | pause
  | alert (alert : RequiredConsumerAlert)
  | addCounter (counter : Counter) (amount : Nat)
  | recordMax (counter : Counter) (value : Nat)
  | fetchAddMessageId
  | nextProducerRequest
  | reply (reply : interface.ProducerReply)
  | nextConsumerRequest (consumerId : ConsumerId)
  /-- Whether the holder of a slot reads it once more. -/
  | readsAgain (consumerId : ConsumerId)
  | handOver (consumerId : ConsumerId) (output : interface.Output)
  /-- Where the probe of an observer ends that found nothing free or nothing new. No
  code of the transport takes it. -/
  | refused
  | panic

def Action.Result {interface : Interface} : Action interface → Type
  | .loadProducerSequence => Int
  | .loadConsumerSequence _ => Int
  | .attachConsumerSequence _ => Bool
  | .newOrAttachConsumerSequence _ => Bool
  | .loadConsumerRegistration => Option Int
  | .readDirectory => Option (List DirectoryEntry)
  | .iterate _ => List ConsumerId
  | .readSlot _ _ _ => interface.Value
  | .rereadSlot _ _ _ => interface.Value
  | .instantNow => Nat
  | .fetchAddMessageId => Nat
  | .nextProducerRequest => interface.ProducerRequest
  | .nextConsumerRequest _ => interface.ConsumerRequest
  | .readsAgain _ => Bool
  | .panic => Empty
  | _ => Unit

abbrev signature (interface : Interface) : Interleaving.Signature :=
  { Action := Action interface, Result := Action.Result }

inductive Oracle (interface : Interface) where
  | silent
  | registered (count : Option Int)
  | directory (entries : Option (List DirectoryEntry))
  | order (keys : List ConsumerId)
  | elapsed (duration : Nat)
  /-- The ids that other producers of the process have taken in between. -/
  | takenMessageIds (count : Nat)
  | producerRequest (request : interface.ProducerRequest)
  | consumerRequest (request : interface.ConsumerRequest)
  | again (again : Bool)

/-- What the file system may do to a pass over the directory. -/
inductive DirectoryPasses where
  | reliable
  | mayFail
  deriving DecidableEq

namespace DirectoryPasses

def Allows (passes : DirectoryPasses) (consumers : List ConsumerId)
    (entries : Option (List DirectoryEntry)) : Prop :=
  match passes, entries with
  | .mayFail, _ => True
  | .reliable, none => False
  | .reliable, some entries =>
      (∀ consumerId ∈ consumers, DirectoryEntry.cursorFile consumerId true ∈ entries) ∧
      ∀ entry ∈ entries, entry ≠ .unreadable ∧
        ∀ consumerId, entry ≠ .cursorFile consumerId false

instance (passes : DirectoryPasses) (consumers : List ConsumerId)
    (entries : Option (List DirectoryEntry)) : Decidable (passes.Allows consumers entries) :=
  match passes, entries with
  | .mayFail, _ => isTrue trivial
  | .reliable, none => isFalse id
  | .reliable, some entries =>
      let rejected : DirectoryEntry → Bool
        | .cursorFile _ accepted => !accepted
        | _ => false
      decidable_of_iff
        ((∀ consumerId ∈ consumers, DirectoryEntry.cursorFile consumerId true ∈ entries) ∧
          ∀ entry ∈ entries, entry ≠ .unreadable ∧ rejected entry = false) (by
        refine and_congr_right fun _ => forall_congr' fun entry => imp_congr_right fun _ =>
          and_congr_right fun _ => ?_
        cases entry with
        | cursorFile consumerId accepted => cases accepted <;> simp [rejected]
        | foreign => simp [rejected]
        | unreadable => simp [rejected])

/-- Whether a pass ends in an error, where the consumers in the list are known to it. -/
def stops (known : List ConsumerId) : List DirectoryEntry → Bool
  | [] => false
  | .unreadable :: _ => true
  | .foreign :: rest => stops known rest
  | .cursorFile consumerId accepted :: rest =>
      if accepted = true ∨ consumerId ∈ known then stops known rest else true

def fails (known : List ConsumerId) : Option (List DirectoryEntry) → Bool
  | none => true
  | some entries => stops known entries

def named : List ConsumerId → List DirectoryEntry → List ConsumerId
  | _, [] => []
  | _, .unreadable :: _ => []
  | known, .foreign :: rest => named known rest
  | known, .cursorFile consumerId accepted :: rest =>
      if accepted = true then consumerId :: named (consumerId :: known) rest
      else if consumerId ∈ known then named known rest else []

theorem stops_reliable {known : List ConsumerId} {entries : List DirectoryEntry}
    (healthy : ∀ entry ∈ entries, entry ≠ .unreadable ∧
      ∀ consumerId, entry ≠ .cursorFile consumerId false) :
    stops known entries = false := by
  induction entries with
  | nil => rfl
  | cons entry rest ih =>
      have later := ih fun other member => healthy other (List.mem_cons_of_mem entry member)
      obtain ⟨readable, accepted⟩ := healthy entry List.mem_cons_self
      cases entry with
      | unreadable => exact absurd rfl readable
      | foreign => exact later
      | cursorFile consumerId accepts =>
          cases accepts with
          | true => simpa only [stops, true_or, if_true] using later
          | false => exact absurd rfl (accepted consumerId)

theorem stops_grows {known more : List ConsumerId} {entries : List DirectoryEntry}
    (grows : known ⊆ more) (through : stops known entries = false) :
    stops more entries = false := by
  induction entries with
  | nil => rfl
  | cons entry rest ih =>
      cases entry with
      | unreadable => cases through
      | foreign => exact ih through
      | cursorFile consumerId accepted =>
          simp only [stops] at through ⊢
          split at through
          · rename_i passed
            rw [if_pos (passed.imp_right (fun member => grows member))]
            exact ih through
          · cases through

theorem Allows.succeeds {passes : DirectoryPasses} {consumers known : List ConsumerId}
    {entries : Option (List DirectoryEntry)} (allowed : passes.Allows consumers entries)
    (healthy : passes = .reliable) : ¬ fails known entries = true := by
  subst healthy
  cases entries with
  | none => cases allowed
  | some entries =>
      rw [Bool.not_eq_true]
      exact stops_reliable allowed.2

end DirectoryPasses

variable {interface : Interface}

/-- The counters are 64-bit words that wrap. -/
def addCounter (world : World interface) (counter : Counter) (amount : Nat) :
    World interface :=
  { world with
    counters := Function.update world.counters counter
      ((world.counters counter + amount) % 2 ^ 64) }

def recordMax (world : World interface) (counter : Counter) (value : Nat) :
    World interface :=
  { world with
    counters := Function.update world.counters counter (max (world.counters counter) value) }

/-- One atomic step. A panic, the reading of a cursor that was never created,
and an answer of the oracle to another question have no outcome. -/
def perform (passes : DirectoryPasses) : (action : Action interface) → Oracle interface →
    World interface → Option (action.Result × World interface)
  | .loadProducerSequence, _, world => some (world.producerSequence, world)
  | .storeProducerSequence sequence, _, world =>
      some ((), { world with producerSequence := sequence })
  | .loadConsumerSequence consumerId, _, world =>
      if consumerId ∈ world.consumers then some (world.cursor consumerId, world)
      else none
  | .storeConsumerSequence consumerId sequence, _, world =>
      some ((), { world with
        consumerSequence := Function.update world.consumerSequence consumerId sequence
        events := Function.update world.events consumerId
          (world.events consumerId ++ [.commit sequence]) })
  | .attachConsumerSequence consumerId, _, world =>
      if consumerId ∈ world.consumers then
        some (true, { world with discovered := consumerId :: world.discovered })
      else some (false, world)
  | .newOrAttachConsumerSequence consumerId, _, world =>
      if consumerId ∈ world.consumers then some (false, world)
      else
        some (true, { world with
          consumers := consumerId :: world.consumers
          uninitialised := consumerId :: world.uninitialised })
  | .initialiseConsumerSequence consumerId, _, world =>
      some ((), { world with uninitialised := world.uninitialised.filter (· ≠ consumerId) })
  | .loadConsumerRegistration, .registered count, world => some (count, world)
  | .signalReadiness, _, world => some ((), { world with readiness := world.readiness + 1 })
  | .readDirectory, .directory entries, world =>
      if passes.Allows world.consumers entries then some (entries, world) else none
  | .iterate keys, .order permuted, world =>
      if permuted.isPerm keys then some (permuted, world) else none
  | .readSlot consumerId sequence slot, _, world =>
      some (world.slots slot, world.record consumerId (.read sequence (world.slots slot)))
  | .rereadSlot consumerId sequence slot, _, world =>
      some (world.slots slot, world.record consumerId (.reread sequence (world.slots slot)))
  | .updateSlot _ slot update, _, world =>
      match update (world.slots slot) with
      | none => none
      | some value =>
          some ((), { world with
            slots := Function.update world.slots slot value
            written := world.written ++ [value] })
  | .instantNow, .elapsed duration, world =>
      some (world.clock + duration, { world with clock := world.clock + duration })
  | .pause, _, world => some ((), world)
  | .alert alert, _, world => some ((), { world with alerts := world.alerts ++ [alert] })
  | .addCounter counter amount, _, world => some ((), addCounter world counter amount)
  | .recordMax counter value, _, world => some ((), recordMax world counter value)
  | .fetchAddMessageId, .takenMessageIds count, world =>
      some ((world.messageId + count) % 2 ^ 32,
        { world with messageId := (world.messageId + count + 1) % 2 ^ 32 })
  | .nextProducerRequest, .producerRequest request, world => some (request, world)
  | .reply reply, _, world =>
      some ((), { world with replies := world.replies ++ [(world.written.length, reply)] })
  | .nextConsumerRequest _, .consumerRequest request, world => some (request, world)
  | .readsAgain _, .again again, world => some (again, world)
  | .handOver consumerId output, _, world =>
      some ((), world.record consumerId (.handOver output))
  | _, _, _ => none

end Ring
