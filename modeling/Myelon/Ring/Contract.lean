/-
The contract between the producer and the consumers of a ring.

The invariant ties the slots to what was written, every cursor to what its
consumer did, and leaves room: no consumer that counts is more than one round
of the ring behind. Every action that could break it has a guarantee, and an
action that has none leaves the ring as it is.
-/

import Myelon.Interleaving.RelyGuarantee
import Myelon.Ring.System

namespace Ring

open Interleaving Delivery

variable {interface : Interface}

/-! ### Actions that leave the ring as it is -/

namespace World

structure SameRing (before after : World interface) : Prop where
  slots : after.slots = before.slots
  producerSequence : after.producerSequence = before.producerSequence
  consumers : after.consumers = before.consumers
  uninitialised : after.uninitialised = before.uninitialised
  consumerSequence : after.consumerSequence = before.consumerSequence
  written : after.written = before.written
  replies : after.replies = before.replies
  events : after.events = before.events
  discovered : after.discovered = before.discovered

theorem SameRing.refl (world : World interface) : SameRing world world :=
  ⟨rfl, rfl, rfl, rfl, rfl, rfl, rfl, rfl, rfl⟩

end World

def Action.quiet : Action interface → Bool
  | .storeProducerSequence _ => false
  | .storeConsumerSequence _ _ => false
  | .attachConsumerSequence _ => false
  | .newOrAttachConsumerSequence _ => false
  | .initialiseConsumerSequence _ => false
  | .readSlot _ _ _ => false
  | .rereadSlot _ _ _ => false
  | .updateSlot _ _ _ => false
  | .reply _ => false
  | .handOver _ _ => false
  | .refused => false
  | _ => true

theorem perform_quiet {passes : DirectoryPasses} {action : Action interface}
    {oracle : Oracle interface} {before after : World interface} {result : action.Result}
    (quiet : action.quiet = true)
    (performed : perform passes action oracle before = some (result, after)) :
    before.SameRing after := by
  have unchanged : ∀ {α : Type} {value value' : α},
      some (value, before) = some (value', after) → before.SameRing after := by
    intro α value value' same
    cases same
    exact World.SameRing.refl before
  cases action
  case storeProducerSequence => cases quiet
  case storeConsumerSequence => cases quiet
  case attachConsumerSequence => cases quiet
  case newOrAttachConsumerSequence => cases quiet
  case initialiseConsumerSequence => cases quiet
  case readSlot => cases quiet
  case rereadSlot => cases quiet
  case updateSlot => cases quiet
  case reply => cases quiet
  case handOver => cases quiet
  case refused => cases quiet
  case loadProducerSequence => exact unchanged performed
  case pause => exact unchanged performed
  case loadConsumerSequence =>
    simp only [perform] at performed
    split at performed
    · exact unchanged performed
    · cases performed
  case signalReadiness => cases performed; exact ⟨rfl, rfl, rfl, rfl, rfl, rfl, rfl, rfl, rfl⟩
  case alert => cases performed; exact ⟨rfl, rfl, rfl, rfl, rfl, rfl, rfl, rfl, rfl⟩
  case addCounter => cases performed; exact ⟨rfl, rfl, rfl, rfl, rfl, rfl, rfl, rfl, rfl⟩
  case recordMax => cases performed; exact ⟨rfl, rfl, rfl, rfl, rfl, rfl, rfl, rfl, rfl⟩
  case panic => cases oracle <;> cases performed
  case readDirectory =>
    cases oracle <;> simp only [perform] at performed
    case directory entries =>
      split at performed
      · exact unchanged performed
      · cases performed
    all_goals cases performed
  case iterate keys =>
    cases oracle <;> simp only [perform] at performed
    case order permuted =>
      split at performed
      · exact unchanged performed
      · cases performed
    all_goals cases performed
  all_goals
    cases oracle <;> simp only [perform] at performed
    all_goals first
      | (cases performed; done)
      | (cases performed; exact ⟨rfl, rfl, rfl, rfl, rfl, rfl, rfl, rfl, rfl⟩)

/-! ### The parameters of a contract -/

variable {transport : Transport}

/-- The clearance of the producer is used up, or no consumer behind it is passed. -/
def Cleared (transport : Transport) (producer : Producer) (consumerSequence : Int) : Prop :=
  producer.sequenceClearOfConsumers < producer.sequence ∨
    producer.sequenceClearOfConsumers ≤ consumerSequence + transport.ring.size

/-- Which consumers count, and what a run is assumed to meet so that they do. -/
structure Policy (application : Application transport) where
  passes : DirectoryPasses
  /-- The consumers that may ever attach. -/
  joins : ConsumerId → Prop
  /-- The consumers whose cursor may be created in the run. -/
  creates : ConsumerId → Prop
  /-- The consumers that must read what was written. -/
  observed : ConsumerId → Prop
  /-- The consumers which a producer with this barrier must not pass. -/
  gated : ConsumerBarrier → ConsumerId → Prop
  condition : Producer → Action application.interface → World application.interface → Prop
  accepts : Producer → Action application.interface → Oracle application.interface →
    World application.interface → Prop := fun _ _ _ _ => True
  permits : List (ConsumerEvent application.interface) →
    ConsumerEvent application.interface → Prop
  /-- What the log of a consumer is where it is asked for the next operation. -/
  returned : List (ConsumerEvent application.interface) → Prop := fun _ => True
  answers : List application.interface.Value →
    List (Nat × application.interface.ProducerReply) →
    application.interface.ProducerReply → Prop
  /-- What is written and answered where the producer is asked for the next operation. -/
  rested : List application.interface.Value →
    List (Nat × application.interface.ProducerReply) → Prop := fun _ _ => True
  begins : rested [] [] := by exact trivial
  grows : ∀ {first second : ConsumerBarrier} {consumerId : ConsumerId},
    first.consumerCursors ⊆ second.consumerCursors →
    second.discoveryMode = first.discoveryMode →
    gated first consumerId → gated second consumerId
  covers : ∀ {producer : Producer} {world : World application.interface}
    {consumerId : ConsumerId}, gated producer.consumerBarrier consumerId →
    condition producer (.iterate producer.consumerBarrier.consumerCursors) world →
    consumerId ∈ producer.consumerBarrier.consumerCursors ∨
      (producer.consumerBarrier.consumerCursors = [] ∧
        producer.consumerBarrier.discoveryMode ≠ .disabled)
  /-- The cursor of a consumer that counts is read after it has got its initial value. -/
  readable : ∀ {producer : Producer} {world : World application.interface}
    {consumerId : ConsumerId}, condition producer (.loadConsumerSequence consumerId) world →
    gated producer.consumerBarrier consumerId → creates consumerId →
    consumerId ∉ world.uninitialised
  mmap : ∀ {barrier : ConsumerBarrier} {consumerId : ConsumerId},
    transport.backend = .mmap → gated barrier consumerId →
    consumerId ∈ barrier.consumerCursors
  /-- A pass that fails finds everyone caught up whom it may leave in the map. -/
  harmless : ∀ {producer : Producer} {world : World application.interface}
    {entries : Option (List DirectoryEntry)},
    transport.backend = .mmap → passes.Allows world.consumers entries →
    accepts producer .readDirectory (.directory entries) world →
    DirectoryPasses.fails producer.consumerBarrier.consumerCursors entries = true →
    (∀ barrier consumerId, ¬ gated barrier consumerId) ∨
      ∀ consumerId ∈ producer.consumerBarrier.consumerCursors ++
          DirectoryPasses.named producer.consumerBarrier.consumerCursors (entries.getD []),
        world.producerSequence ≤ world.consumerSequence consumerId
  admits : ∀ {producer : Producer} {world : World application.interface}
    {inserted consumerId : ConsumerId},
    condition producer (.attachConsumerSequence inserted) world →
    inserted ∈ world.consumers →
    (∀ other, observed other → gated producer.consumerBarrier other) →
    gated (producer.consumerBarrier.insert inserted) consumerId →
    gated producer.consumerBarrier consumerId ∨
      Cleared transport producer (world.consumerSequence consumerId)

variable {application : Application transport} (policy : Policy application)

def Policy.answering
    (answers : List application.interface.Value →
      List (Nat × application.interface.ProducerReply) →
      application.interface.ProducerReply → Prop)
    (rested : List application.interface.Value →
      List (Nat × application.interface.ProducerReply) → Prop) (begins : rested [] []) :
    Policy application :=
  { policy with answers, rested, begins }

/-! ### The invariant of the shared world -/

structure Policy.Holds (world : World application.interface) : Prop where
  /-- A slot holds the last value that was written for it. -/
  slots : ∀ (number : Nat) value, world.written[number]? = some value →
    world.written.length ≤ number + transport.ring.size →
    world.slots (transport.ring.index number) = value
  published : -1 ≤ world.producerSequence ∧
    world.producerSequence + 1 ≤ world.written.length
  /-- A cursor is what its consumer committed, and no consumer is ahead. -/
  positions : ∀ consumerId,
    (position (world.events consumerId)).committed = world.consumerSequence consumerId ∧
    (position (world.events consumerId)).next ≤ world.producerSequence + 1
  ordered : ∀ consumerId, InOrder (world.events consumerId)
  permitted : ∀ consumerId, Throughout
    (fun before event => event = .crash ∨ policy.permits before event)
    (world.events consumerId)
  room : ∀ consumerId, policy.observed consumerId →
    (world.written.length : Int) ≤ world.consumerSequence consumerId + 1 + transport.ring.size
  faithful : ∀ consumerId, policy.observed consumerId →
    Faithful world.written (world.events consumerId)
  joined : ∀ consumerId ∈ world.consumers, policy.joins consumerId
  created : ∀ consumerId ∈ world.uninitialised, policy.creates consumerId
  unwritten : ∀ consumerId, consumerId ∉ world.consumers ∨ consumerId ∈ world.uninitialised →
    world.consumerSequence consumerId = -1
  answered : Throughout (fun before entry => entry.1 ≤ world.written.length ∧
    policy.answers (world.written.take entry.1) before entry.2) world.replies

namespace Policy.Holds

variable {policy} {world : World application.interface}

theorem cursor_cases (holds : policy.Holds world) (consumerId : ConsumerId) :
    world.cursor consumerId = world.consumerSequence consumerId ∨
      (world.cursor consumerId = 0 ∧ world.consumerSequence consumerId = -1 ∧
        policy.creates consumerId) := by
  unfold World.cursor
  split
  · rename_i uninitialised
    exact .inr ⟨rfl, holds.unwritten consumerId (.inr uninitialised),
      holds.created consumerId uninitialised⟩
  · exact .inl rfl

theorem cursor_bounds (holds : policy.Holds world) (consumerId : ConsumerId) :
    -1 ≤ world.consumerSequence consumerId ∧
      world.consumerSequence consumerId ≤ world.producerSequence := by
  obtain ⟨same, behind⟩ := holds.positions consumerId
  obtain ⟨low, high⟩ := (holds.ordered consumerId).start_le
  omega

theorem cursor_eq (holds : policy.Holds world) {consumerId : ConsumerId}
    (there : ¬ policy.creates consumerId) :
    world.cursor consumerId = world.consumerSequence consumerId :=
  (holds.cursor_cases consumerId).resolve_right fun created => there created.2.2

theorem cursor_gated (holds : policy.Holds world) {producer : Producer} {consumerId : ConsumerId}
    (met : policy.condition producer (.loadConsumerSequence consumerId) world)
    (gated : policy.gated producer.consumerBarrier consumerId) :
    world.cursor consumerId ≤ world.consumerSequence consumerId := by
  unfold World.cursor
  split
  · rename_i uninitialised
    exact absurd uninitialised
      (policy.readable met gated (holds.created consumerId uninitialised))
  · exact Int.le_refl _

/-- The slot of an event a consumer has still to commit holds that event, where the
producer is not more than a round ahead. -/
theorem slot_of_room (holds : policy.Holds world) {consumerId : ConsumerId} {sequence : Int}
    (room : (world.written.length : Int) ≤
      world.consumerSequence consumerId + 1 + transport.ring.size)
    (ahead : world.consumerSequence consumerId < sequence)
    (visible : sequence ≤ world.producerSequence) :
    0 ≤ sequence ∧ world.written[sequence.toNat]? =
      some (world.slots (transport.ring.index sequence)) := by
  have low := (holds.cursor_bounds consumerId).1
  have published := holds.published.2
  have within : sequence.toNat < world.written.length := by omega
  have found := List.getElem?_eq_getElem within
  have kept := holds.slots sequence.toNat _ found (by omega)
  rw [Int.toNat_of_nonneg (by omega)] at kept
  exact ⟨by omega, by rw [found, kept]⟩

theorem slot_eq (holds : policy.Holds world) {consumerId : ConsumerId} {sequence : Int}
    (observed : policy.observed consumerId)
    (ahead : world.consumerSequence consumerId < sequence)
    (visible : sequence ≤ world.producerSequence) :
    0 ≤ sequence ∧ world.written[sequence.toNat]? =
      some (world.slots (transport.ring.index sequence)) :=
  holds.slot_of_room (holds.room consumerId observed) ahead visible

end Policy.Holds

/-! ### What the two ends know of themselves -/

structure Policy.Settled (producer : Producer) (world : World application.interface) :
    Prop where
  sequence : producer.sequence = world.written.length
  published : world.producerSequence + 1 = world.written.length
  inRange : world.written.length < 2 ^ 63
  observes : ∀ consumerId, policy.observed consumerId →
    policy.gated producer.consumerBarrier consumerId
  cleared : ∀ consumerId, policy.gated producer.consumerBarrier consumerId →
    Cleared transport producer (world.consumerSequence consumerId)
  known : ∀ consumerId ∈ producer.consumerBarrier.consumerCursors,
    consumerId ∈ world.consumers
  discovered : world.discovered ⊆ producer.consumerBarrier.consumerCursors

structure Consumer.At (consumerId : ConsumerId) (log : List (ConsumerEvent interface))
    (consumer : Consumer) (world : World interface) : Prop where
  named : consumer.consumerId = consumerId
  lastProcessedSequence : consumer.lastProcessedSequence = (position log).committed
  attached : consumerId ∈ world.consumers
  initialised : consumerId ∉ world.uninitialised
  events : world.events consumerId = log

/-- A consumer that has committed everything it has read. -/
def Consumer.AtRest (consumerId : ConsumerId) (self : Self) (world : World interface) :
    Prop :=
  ∃ consumer, self = .consumer consumer ∧
    Consumer.At consumerId (world.events consumerId) consumer world ∧
    (position (world.events consumerId)).Idle

/-! ### Guarantees -/

def Policy.producerGuarantee (self : Self) (world : World application.interface) :
    Action application.interface → Prop
  | .updateSlot sequence slot _ =>
      sequence = world.written.length ∧ slot = transport.ring.index sequence ∧
      (∀ consumerId, policy.observed consumerId →
        sequence ≤ world.consumerSequence consumerId + transport.ring.size) ∧
      ∃ producer, self = .producer producer ∧
        world.discovered ⊆ producer.consumerBarrier.consumerCursors ∧
        ∀ consumerId, policy.gated producer.consumerBarrier consumerId →
          sequence ≤ world.consumerSequence consumerId + transport.ring.size
  | .storeProducerSequence sequence =>
      sequence + 1 = world.written.length ∧ world.producerSequence ≤ sequence
  | .reply reply => policy.answers world.written world.replies reply
  | .attachConsumerSequence _ => True
  | .nextProducerRequest => ∃ producer, self = .producer producer ∧
      policy.Settled producer world ∧ policy.rested world.written world.replies
  | .pause => ∃ producer, self = .producer producer ∧ policy.Settled producer world
  | action => action.quiet = true

def Policy.consumerGuarantee (consumerId : ConsumerId) (self : Self)
    (world : World application.interface) : Action application.interface → Prop
  | .newOrAttachConsumerSequence attached =>
      attached = consumerId ∧ policy.joins consumerId ∧
        (consumerId ∈ world.consumers ∨ policy.creates consumerId)
  | .initialiseConsumerSequence _ => True
  | .readSlot reader sequence slot => reader = consumerId ∧
      slot = transport.ring.index sequence ∧ sequence ≤ world.producerSequence ∧
      sequence = (position (world.events consumerId)).next ∧
      policy.permits (world.events consumerId) (.read sequence (world.slots slot))
  | .rereadSlot reader sequence slot => reader = consumerId ∧
      slot = transport.ring.index sequence ∧
      world.consumerSequence consumerId < sequence ∧
      sequence < (position (world.events consumerId)).next ∧
      policy.permits (world.events consumerId) (.reread sequence (world.slots slot))
  | .storeConsumerSequence writer sequence => writer = consumerId ∧
      consumerId ∈ world.consumers ∧ consumerId ∉ world.uninitialised ∧
      (Event.commit sequence : ConsumerEvent application.interface).Ordered
        (position (world.events consumerId)) ∧
      policy.permits (world.events consumerId) (.commit sequence)
  | .handOver reader output => reader = consumerId ∧
      policy.permits (world.events consumerId) (.handOver output)
  | .nextConsumerRequest reader => reader = consumerId ∧
      Consumer.AtRest consumerId self world ∧ policy.returned (world.events consumerId)
  | .pause => Consumer.AtRest consumerId self world
  | .instantNow => False
  | action => action.quiet = true

/-! ### What one end may rely on -/

structure ProducerRely (before after : World interface) : Prop where
  producerSequence : after.producerSequence = before.producerSequence
  written : after.written = before.written
  replies : after.replies = before.replies
  discovered : after.discovered = before.discovered
  consumers : before.consumers ⊆ after.consumers
  consumerSequence : ∀ consumerId,
    before.consumerSequence consumerId ≤ after.consumerSequence consumerId

structure ConsumerRely (consumerId : ConsumerId) (before after : World interface) :
    Prop where
  producerSequence : before.producerSequence ≤ after.producerSequence
  written : before.written <+: after.written
  consumers : before.consumers ⊆ after.consumers
  initialised : consumerId ∉ before.uninitialised → consumerId ∉ after.uninitialised
  events : after.events consumerId = before.events consumerId

theorem ProducerRely.trans {first second third : World interface}
    (left : ProducerRely first second) (right : ProducerRely second third) :
    ProducerRely first third where
  producerSequence := right.producerSequence.trans left.producerSequence
  written := right.written.trans left.written
  replies := right.replies.trans left.replies
  discovered := right.discovered.trans left.discovered
  consumers := List.Subset.trans left.consumers right.consumers
  consumerSequence := fun consumerId =>
    Int.le_trans (left.consumerSequence consumerId) (right.consumerSequence consumerId)

theorem ConsumerRely.trans {consumerId : ConsumerId} {first second third : World interface}
    (left : ConsumerRely consumerId first second)
    (right : ConsumerRely consumerId second third) :
    ConsumerRely consumerId first third where
  producerSequence := Int.le_trans left.producerSequence right.producerSequence
  written := left.written.trans right.written
  consumers := List.Subset.trans left.consumers right.consumers
  initialised := fun initialised => right.initialised (left.initialised initialised)
  events := right.events.trans left.events

theorem World.SameRing.producerRely {before after : World interface}
    (same : before.SameRing after) : ProducerRely before after where
  producerSequence := same.producerSequence
  written := same.written
  replies := same.replies
  discovered := same.discovered
  consumers := by rw [same.consumers]; exact List.Subset.refl _
  consumerSequence := by rw [same.consumerSequence]; exact fun _ => Int.le_refl _

theorem World.SameRing.consumerRely {before after : World interface}
    (same : before.SameRing after) (consumerId : ConsumerId) :
    ConsumerRely consumerId before after where
  producerSequence := Int.le_of_eq same.producerSequence.symm
  written := same.written ▸ List.prefix_refl _
  consumers := same.consumers ▸ List.Subset.refl _
  initialised := by rw [same.uninitialised]; exact id
  events := by rw [same.events]

/-! ### Every guarantee keeps the invariant -/

namespace Policy

variable {policy} {before after : World application.interface}

theorem Holds.sameRing (holds : policy.Holds before) (same : before.SameRing after) :
    policy.Holds after := by
  obtain ⟨slots, producerSequence, consumers, uninitialised, consumerSequence, written, replies,
    events, _discovered⟩ := same
  constructor
  · rw [slots, written]; exact holds.slots
  · rw [producerSequence, written]; exact holds.published
  · rw [producerSequence, consumerSequence, events]; exact holds.positions
  · rw [events]; exact holds.ordered
  · rw [events]; exact holds.permitted
  · rw [consumerSequence, written]; exact holds.room
  · rw [written, events]; exact holds.faithful
  · rw [consumers]; exact holds.joined
  · rw [uninitialised]; exact holds.created
  · rw [consumers, uninitialised, consumerSequence]; exact holds.unwritten
  · rw [written, replies]; exact holds.answered

theorem Holds.wrote (holds : policy.Holds before) {value : application.interface.Value}
    (room : ∀ consumerId, policy.observed consumerId → (before.written.length : Int) ≤
      before.consumerSequence consumerId + transport.ring.size) :
    policy.Holds { before with
      slots := Function.update before.slots
        (transport.ring.index before.written.length) value
      written := before.written ++ [value] } where
  slots := by
    intro number other found window
    simp only [List.length_append, List.length_singleton] at window
    have short := (List.getElem?_eq_some_iff.mp found).1
    simp only [List.length_append, List.length_singleton] at short
    by_cases last : number = before.written.length
    · subst last
      rw [List.getElem?_concat_length] at found
      cases found
      simp only [Function.update_self]
    · rw [List.getElem?_append_left (by omega)] at found
      have apart : transport.ring.index number ≠ transport.ring.index before.written.length :=
        transport.ring.index_ne (by omega) (by omega) (by omega)
      simp only [Function.update_of_ne apart]
      exact holds.slots number other found (by omega)
  published := by
    have published := holds.published
    simp only [List.length_append, List.length_singleton]
    omega
  positions := holds.positions
  ordered := holds.ordered
  permitted := holds.permitted
  room := by
    intro consumerId observed
    have free := room consumerId observed
    simp only [List.length_append, List.length_singleton]
    omega
  faithful := fun consumerId observed => (holds.faithful consumerId observed).append [value]
  joined := holds.joined
  created := holds.created
  unwritten := holds.unwritten
  answered := holds.answered.imp (fun earlier entry answered => by
    simp only [List.length_append, List.length_singleton]
    rw [List.take_append_of_le_length answered.1]
    exact ⟨by omega, answered.2⟩)

theorem Holds.stored (holds : policy.Holds before) {sequence : Int}
    (next : sequence + 1 = before.written.length)
    (further : before.producerSequence ≤ sequence) :
    policy.Holds { before with producerSequence := sequence } where
  slots := holds.slots
  published := by
    have published := holds.published
    change -1 ≤ sequence ∧ sequence + 1 ≤ (before.written.length : Int)
    omega
  positions := by
    intro consumerId
    obtain ⟨same, behind⟩ := holds.positions consumerId
    refine ⟨same, ?_⟩
    change (position (before.events consumerId)).next ≤ sequence + 1
    omega
  ordered := holds.ordered
  permitted := holds.permitted
  room := holds.room
  faithful := holds.faithful
  joined := holds.joined
  created := holds.created
  unwritten := holds.unwritten
  answered := holds.answered

theorem Holds.replied (holds : policy.Holds before) {reply : application.interface.ProducerReply}
    (answers : policy.answers before.written before.replies reply) :
    policy.Holds { before with
      replies := before.replies ++ [(before.written.length, reply)] } where
  slots := holds.slots
  published := holds.published
  positions := holds.positions
  ordered := holds.ordered
  permitted := holds.permitted
  room := holds.room
  faithful := holds.faithful
  joined := holds.joined
  created := holds.created
  unwritten := holds.unwritten
  answered := throughout_snoc.mpr ⟨holds.answered, Nat.le_refl _, by
    rw [List.take_length]
    exact answers⟩

theorem Holds.discovered (holds : policy.Holds before) (discovered : List ConsumerId) :
    policy.Holds { before with discovered := discovered } where
  slots := holds.slots
  published := holds.published
  positions := holds.positions
  ordered := holds.ordered
  permitted := holds.permitted
  room := holds.room
  faithful := holds.faithful
  joined := holds.joined
  created := holds.created
  unwritten := holds.unwritten
  answered := holds.answered

theorem Holds.attached (holds : policy.Holds before) {consumerId : ConsumerId}
    (joins : policy.joins consumerId) (creates : policy.creates consumerId)
    (absent : consumerId ∉ before.consumers) :
    policy.Holds { before with
      consumers := consumerId :: before.consumers
      uninitialised := consumerId :: before.uninitialised } where
  slots := holds.slots
  published := holds.published
  positions := holds.positions
  ordered := holds.ordered
  permitted := holds.permitted
  room := holds.room
  faithful := holds.faithful
  joined := by
    intro other member
    rcases List.mem_cons.mp member with rfl | earlier
    · exact joins
    · exact holds.joined other earlier
  created := by
    intro other member
    rcases List.mem_cons.mp member with rfl | earlier
    · exact creates
    · exact holds.created other earlier
  unwritten := by
    intro other fresh
    by_cases same : other = consumerId
    · subst same
      exact holds.unwritten other (.inl absent)
    · apply holds.unwritten other
      apply fresh.imp
      · exact fun outside member => outside (List.mem_cons_of_mem consumerId member)
      · exact fun member => (List.mem_cons.mp member).resolve_left same
  answered := holds.answered

theorem Holds.initialised (holds : policy.Holds before) (consumerId : ConsumerId) :
    policy.Holds { before with
      uninitialised := before.uninitialised.filter (· ≠ consumerId) } where
  slots := holds.slots
  published := holds.published
  positions := holds.positions
  ordered := holds.ordered
  permitted := holds.permitted
  room := holds.room
  faithful := holds.faithful
  joined := holds.joined
  created := fun other member => holds.created other (List.mem_filter.mp member).1
  unwritten := fun other fresh => holds.unwritten other
    (fresh.imp_right fun member => (List.mem_filter.mp member).1)
  answered := holds.answered

theorem Holds.recorded (holds : policy.Holds before) {consumerId : ConsumerId}
    (event : ConsumerEvent application.interface) (consumerSequence : ConsumerId → Int)
    (fits : event.Ordered (position (before.events consumerId)))
    (permits : event = .crash ∨ policy.permits (before.events consumerId) event)
    (genuine : policy.observed consumerId → event.Genuine before.written)
    (moved : consumerSequence = Function.update before.consumerSequence consumerId
      ((position (before.events consumerId)).after event).committed)
    (visible : ((position (before.events consumerId)).after event).next ≤
      before.producerSequence + 1)
    (forward : before.consumerSequence consumerId ≤
      ((position (before.events consumerId)).after event).committed)
    (unwritten : ∀ other, other ∉ before.consumers ∨ other ∈ before.uninitialised →
      consumerSequence other = -1) :
    policy.Holds { before.record consumerId event with
      consumerSequence := consumerSequence } := by
  subst moved
  have split : ∀ kept : ConsumerId → List (ConsumerEvent application.interface) → Prop,
      kept consumerId (before.events consumerId ++ [event]) →
      (∀ other, kept other (before.events other)) →
      ∀ other, kept other ((before.record consumerId event).events other) := by
    intro kept here elsewhere other
    by_cases same : other = consumerId
    · subst same
      simpa only [World.record, Function.update_self] using here
    · simpa only [World.record, Function.update_of_ne same] using elsewhere other
  constructor
  · exact holds.slots
  · exact holds.published
  · intro other
    by_cases same : other = consumerId
    · subst same
      simp only [World.record, Function.update_self, position_snoc]
      exact ⟨trivial, visible⟩
    · simp only [World.record, Function.update_of_ne same]
      exact holds.positions other
  · exact split (fun _ log => InOrder log)
      (throughout_snoc.mpr ⟨holds.ordered consumerId, fits⟩) holds.ordered
  · exact split (fun _ log => Throughout _ log)
      (throughout_snoc.mpr ⟨holds.permitted consumerId, permits⟩) holds.permitted
  · intro other observed
    have room := holds.room other observed
    change (before.written.length : Int) ≤ _
    by_cases same : other = consumerId
    · subst same
      simp only [Function.update_self]
      omega
    · simp only [Function.update_of_ne same]
      exact room
  · exact split (fun other log => policy.observed other → Faithful before.written log)
      (fun observed => faithful_snoc.mpr
        ⟨holds.faithful consumerId observed, genuine observed⟩) holds.faithful
  · exact holds.joined
  · exact holds.created
  · exact unwritten
  · exact holds.answered

theorem Holds.noted (holds : policy.Holds before) {consumerId : ConsumerId}
    {event : ConsumerEvent application.interface}
    (fits : event.Ordered (position (before.events consumerId)))
    (permits : event = .crash ∨ policy.permits (before.events consumerId) event)
    (genuine : policy.observed consumerId → event.Genuine before.written)
    (still : ((position (before.events consumerId)).after event).committed =
      (position (before.events consumerId)).committed)
    (visible : ((position (before.events consumerId)).after event).next ≤
      before.producerSequence + 1) :
    policy.Holds (before.record consumerId event) := by
  have same := (holds.positions consumerId).1
  refine holds.recorded event before.consumerSequence fits permits genuine ?_
    visible ?_ holds.unwritten
  · rw [still, same, Function.update_eq_self]
  · exact Int.le_of_eq (by rw [still, same])

/-! ### What the actions of one end do -/

theorem producer_performed {self : Self} {passes : DirectoryPasses}
    {action : Action application.interface} {oracle : Oracle application.interface}
    {result : action.Result} (holds : policy.Holds before)
    (guaranteed : policy.producerGuarantee self before action)
    (performed : perform passes action oracle before = some (result, after)) :
    policy.Holds after ∧ ∀ consumerId, ConsumerRely consumerId before after := by
  by_cases quiet : action.quiet = true
  · exact ⟨holds.sameRing (perform_quiet quiet performed),
      (perform_quiet quiet performed).consumerRely⟩
  · cases action
    case updateSlot sequence slot update =>
      obtain ⟨rfl, rfl, room, _gated⟩ := guaranteed
      simp only [perform] at performed
      split at performed
      · cases performed
      · rename_i value _filled
        cases performed
        exact ⟨holds.wrote room, fun consumerId =>
          ⟨Int.le_refl _, List.prefix_append _ _, List.Subset.refl _, id, rfl⟩⟩
    case storeProducerSequence sequence =>
      obtain ⟨next, further⟩ := guaranteed
      cases performed
      exact ⟨holds.stored next further, fun consumerId =>
        ⟨further, List.prefix_refl _, List.Subset.refl _, id, rfl⟩⟩
    case attachConsumerSequence consumerId =>
      simp only [perform] at performed
      split at performed
      · cases performed
        exact ⟨holds.discovered _, fun other =>
          ⟨Int.le_refl _, List.prefix_refl _, List.Subset.refl _, id, rfl⟩⟩
      · cases performed
        exact ⟨holds, fun other => (World.SameRing.refl before).consumerRely other⟩
    case reply reply =>
      cases performed
      exact ⟨holds.replied guaranteed, fun consumerId =>
        ⟨Int.le_refl _, List.prefix_refl _, List.Subset.refl _, id, rfl⟩⟩
    all_goals first
      | exact absurd rfl quiet
      | exact absurd guaranteed Bool.false_ne_true

theorem record_relied (consumerId : ConsumerId)
    (event : ConsumerEvent application.interface) {other : ConsumerId}
    (different : other ≠ consumerId) :
    ConsumerRely other before (before.record consumerId event) where
  producerSequence := Int.le_refl _
  written := List.prefix_refl _
  consumers := List.Subset.refl _
  initialised := id
  events := by simp only [World.record, Function.update_of_ne different]

theorem record_producerRely (consumerId : ConsumerId)
    (event : ConsumerEvent application.interface) :
    ProducerRely before (before.record consumerId event) where
  producerSequence := rfl
  written := rfl
  replies := rfl
  discovered := rfl
  consumers := List.Subset.refl _
  consumerSequence := fun _ => Int.le_refl _

/-- The step of a consumer keeps the invariant and what all others rely on. -/
theorem consumer_performed {consumerId : ConsumerId} {self : Self}
    {passes : DirectoryPasses} {action : Action application.interface}
    {oracle : Oracle application.interface} {result : action.Result}
    (holds : policy.Holds before)
    (guaranteed : policy.consumerGuarantee consumerId self before action)
    (performed : perform passes action oracle before = some (result, after)) :
    policy.Holds after ∧ ProducerRely before after ∧
      ∀ other, other ≠ consumerId → ConsumerRely other before after := by
  have positioned := holds.positions consumerId
  by_cases quiet : action.quiet = true
  · have same := perform_quiet quiet performed
    exact ⟨holds.sameRing same, same.producerRely, fun other _ => same.consumerRely other⟩
  · cases action
    case newOrAttachConsumerSequence attached =>
      obtain ⟨rfl, joins, creates⟩ := guaranteed
      simp only [perform] at performed
      split at performed
      · cases performed
        exact ⟨holds, (World.SameRing.refl before).producerRely,
          fun other _ => (World.SameRing.refl before).consumerRely other⟩
      · rename_i absent
        cases performed
        refine ⟨holds.attached joins (creates.resolve_left absent) absent,
          ⟨rfl, rfl, rfl, rfl, List.subset_cons_self _ _, fun _ => Int.le_refl _⟩,
          fun other different =>
            ⟨Int.le_refl _, List.prefix_refl _, List.subset_cons_self _ _, ?_, rfl⟩⟩
        intro initialised member
        exact (List.mem_cons.mp member).elim different initialised
    case initialiseConsumerSequence attached =>
      cases performed
      exact ⟨holds.initialised attached, ⟨rfl, rfl, rfl, rfl, List.Subset.refl _,
        fun _ => Int.le_refl _⟩, fun other _ => ⟨Int.le_refl _, List.prefix_refl _,
        List.Subset.refl _, fun initialised member =>
          initialised (List.mem_filter.mp member).1, rfl⟩⟩
    case readSlot reader sequence slot =>
      obtain ⟨rfl, rfl, visible, here, permits⟩ := guaranteed
      cases performed
      refine ⟨holds.noted here (.inr permits) (fun observed => ?_) rfl ?_,
        record_producerRely _ _, fun other different => record_relied _ _ different⟩
      · refine holds.slot_eq observed ?_ visible
        rw [here, ← positioned.1]
        exact (holds.ordered reader).start_le.2
      · change sequence + 1 ≤ before.producerSequence + 1
        omega
    case rereadSlot reader sequence slot =>
      obtain ⟨rfl, rfl, ahead, held, permits⟩ := guaranteed
      cases performed
      refine ⟨holds.noted ⟨by rw [positioned.1]; exact ahead, held⟩ (.inr permits)
        (fun observed => holds.slot_eq observed ahead ?_) rfl positioned.2,
        record_producerRely _ _, fun other different => record_relied _ _ different⟩
      have behind := positioned.2
      omega
    case storeConsumerSequence writer sequence =>
      obtain ⟨rfl, attached, initialised, fits, permits⟩ := guaranteed
      have further := fits.1
      cases performed
      rw [positioned.1] at further
      have unwritten : ∀ other, other ∉ before.consumers ∨ other ∈ before.uninitialised →
          Function.update before.consumerSequence writer sequence other = -1 := by
        intro other fresh
        have different : other ≠ writer := by
          rintro rfl
          exact fresh.elim (fun absent => absent attached) initialised
        rw [Function.update_of_ne different]
        exact holds.unwritten other fresh
      refine ⟨holds.recorded (.commit sequence) _ fits (.inr permits)
        (fun _ => trivial) rfl positioned.2 (Int.le_of_lt further) unwritten,
        ⟨rfl, rfl, rfl, rfl, List.Subset.refl _, fun other => ?_⟩,
        fun other different =>
          ⟨Int.le_refl _, List.prefix_refl _, List.Subset.refl _, id, ?_⟩⟩
      · by_cases same : other = writer
        · subst same
          simp only [Function.update_self]
          exact Int.le_of_lt further
        · simp only [Function.update_of_ne same, Int.le_refl]
      · simp only [Function.update_of_ne different]
    case handOver reader output =>
      obtain ⟨rfl, permits⟩ := guaranteed
      cases performed
      exact ⟨holds.noted trivial (.inr permits) (fun _ => trivial) rfl positioned.2,
        record_producerRely _ _, fun other different => record_relied _ _ different⟩
    all_goals first
      | exact absurd rfl quiet
      | exact absurd guaranteed Bool.false_ne_true

/-! ### The contract -/

variable (policy)

def contract : Contract (application.machine policy.passes) where
  condition := fun party self action world => match party, self with
    | .producer, .producer producer => policy.condition producer action world
    | _, _ => True
  accepts := fun party self action oracle world => match party, self with
    | .producer, .producer producer => policy.accepts producer action oracle world
    | _, _ => True
  guarantee := fun party self action world => match party with
    | .producer => policy.producerGuarantee self world action
    | .consumer consumerId => policy.consumerGuarantee consumerId self world action
  invariant := policy.Holds
  rely := fun party before after => match party with
    | .producer => ProducerRely before after
    | .consumer consumerId => ConsumerRely consumerId before after
  relyRefl := by
    intro party world
    cases party with
    | producer => exact (World.SameRing.refl world).producerRely
    | consumer consumerId => exact (World.SameRing.refl world).consumerRely consumerId
  relyTrans := by
    intro party first second third left right
    cases party with
    | producer => exact ProducerRely.trans left right
    | consumer consumerId => exact ConsumerRely.trans left right
  performed := by
    intro party self action oracle before result after holds _met guaranteed performed
    cases party with
    | producer =>
        obtain ⟨kept, relied⟩ := producer_performed holds guaranteed performed
        refine ⟨kept, fun other different => ?_⟩
        cases other with
        | producer => exact absurd rfl different
        | consumer consumerId => exact relied consumerId
    | consumer consumerId =>
        obtain ⟨kept, producerRelied, relied⟩ :=
          consumer_performed holds guaranteed performed
        refine ⟨kept, fun other different => ?_⟩
        cases other with
        | producer => exact producerRelied
        | consumer otherId =>
            exact relied otherId (fun same => different (congrArg Party.consumer same))
  restarted := by
    intro party before program after holds restarted
    cases party with
    | producer => cases restarted
    | consumer consumerId =>
        simp only [Application.machine] at restarted
        split at restarted
        · cases restarted
          have positioned := holds.positions consumerId
          refine ⟨holds.noted trivial (.inl rfl) (fun _ => trivial) rfl ?_,
            fun other different => ?_⟩
          · change (position (before.events consumerId)).committed + 1 ≤ _
            have bounds := (holds.cursor_bounds consumerId).2
            omega
          · cases other with
            | producer => exact record_producerRely _ _
            | consumer otherId =>
                exact record_relied _ _
                  (fun same => different (congrArg Party.consumer same))
        · cases restarted

end Policy

/-! ### The rule of a body that is left out -/

theorem onlyIf_triple {interface : Interface} {Thread World State : Type}
    {machine : Machine (signature interface) Self Thread World} {contract : Contract machine}
    {thread : Thread} {condition : Prop} [Decidable condition]
    {body : Process interface State Unit} {pre post : State → World → Prop}
    (does : condition → contract.Triple thread pre body (fun _ => post))
    (skips : ¬ condition → ∀ self world, pre self world → post self world) :
    contract.Triple thread pre (onlyIf condition body) (fun _ => post) := by
  unfold onlyIf
  split
  · rename_i met
    exact does met
  · rename_i unmet
    exact Contract.Triple.pure () (skips unmet)

end Ring
