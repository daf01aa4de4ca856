/-
What the counters of events say of the cursors.

A consumer adds what it has committed to its counter, and the producer adds what it has
published to its own where the call does so. The counters follow the cursors from the
moment they are attached, between any two calls.
-/

import Myelon.Delivery.Growth
import Myelon.Ring.ConsumerFrames
import Myelon.Ring.Frames

namespace Ring

open Interleaving Delivery

variable {transport : Transport} {Value : Type} {passes : DirectoryPasses}
variable {consumerCounters : ConsumerCounters}

/-- The calls whose events the producer counts are those that publish one event and do not
give up after a while. -/
def ProducerReply.booked : ProducerReply → Bool
  | .done => true
  | .tried _ => true
  | _ => false

/-! ### Who may touch what -/

section Touching

variable {interface : Interface}

def Counter.books : Counter → Option Party
  | .eventsPublished => some .producer
  | .eventsConsumed consumerId => some (.consumer consumerId)
  | _ => none

def Action.touches : Action interface → Option Party
  | .storeProducerSequence _ => some .producer
  | .updateSlot _ _ _ => some .producer
  | .reply _ => some .producer
  | .storeConsumerSequence consumerId _ => some (.consumer consumerId)
  | .newOrAttachConsumerSequence consumerId => some (.consumer consumerId)
  | .addCounter counter _ => counter.books
  | .recordMax counter _ => counter.books
  | _ => none

def World.SameBooks (before after : World interface) : Party → Prop
  | .producer => after.replies = before.replies ∧ after.written = before.written ∧
      after.producerSequence = before.producerSequence ∧
      after.counters .eventsPublished = before.counters .eventsPublished
  | .consumer consumerId =>
      after.consumerSequence consumerId = before.consumerSequence consumerId ∧
      after.counters (.eventsConsumed consumerId) =
        before.counters (.eventsConsumed consumerId) ∧
      (consumerId ∉ before.uninitialised → consumerId ∉ after.uninitialised)

theorem World.SameBooks.refl (world : World interface) (party : Party) :
    world.SameBooks world party := by
  cases party with
  | producer => exact ⟨rfl, rfl, rfl, rfl⟩
  | consumer consumerId => exact ⟨rfl, rfl, id⟩

theorem World.SameBooks.trans {first second third : World interface} {party : Party}
    (left : first.SameBooks second party) (right : second.SameBooks third party) :
    first.SameBooks third party := by
  cases party with
  | producer =>
      exact ⟨right.1.trans left.1, right.2.1.trans left.2.1, right.2.2.1.trans left.2.2.1,
        right.2.2.2.trans left.2.2.2⟩
  | consumer consumerId =>
      exact ⟨right.1.trans left.1, right.2.1.trans left.2.1,
        fun initialised => right.2.2 (left.2.2 initialised)⟩

theorem World.SameBooks.of_eq {before after : World interface} (party : Party)
    (replies : after.replies = before.replies) (written : after.written = before.written)
    (producerSequence : after.producerSequence = before.producerSequence)
    (consumerSequence : after.consumerSequence = before.consumerSequence)
    (counters : after.counters = before.counters)
    (uninitialised : after.uninitialised ⊆ before.uninitialised) :
    before.SameBooks after party := by
  cases party with
  | producer => exact ⟨replies, written, producerSequence, by rw [counters]⟩
  | consumer consumerId =>
      exact ⟨by rw [consumerSequence], by rw [counters],
        fun initialised member => initialised (uninitialised member)⟩

theorem World.SameBooks.counter (world : World interface) {counter : Counter} {party : Party}
    (value : Nat) (free : counter.books ≠ some party) :
    world.SameBooks
      { world with counters := Function.update world.counters counter value } party := by
  cases party with
  | producer =>
      refine ⟨rfl, rfl, rfl, Function.update_of_ne ?_ _ _⟩
      rintro rfl
      exact free rfl
  | consumer consumerId =>
      refine ⟨rfl, Function.update_of_ne ?_ _ _, id⟩
      rintro rfl
      exact free rfl

theorem perform_sameBooks {action : Action interface} {oracle : Oracle interface}
    {before after : World interface} {result : action.Result} {party : Party}
    (free : action.touches ≠ some party)
    (performed : perform passes action oracle before = some (result, after)) :
    before.SameBooks after party := by
  cases action
  case storeProducerSequence sequence =>
    cases performed
    cases party with
    | producer => exact absurd rfl free
    | consumer consumerId => exact ⟨rfl, rfl, id⟩
  case updateSlot sequence slot update =>
    simp only [perform] at performed
    split at performed <;> cases performed
    cases party with
    | producer => exact absurd rfl free
    | consumer consumerId => exact ⟨rfl, rfl, id⟩
  case reply reply =>
    cases performed
    cases party with
    | producer => exact absurd rfl free
    | consumer consumerId => exact ⟨rfl, rfl, id⟩
  case storeConsumerSequence writer sequence =>
    cases performed
    cases party with
    | producer => exact ⟨rfl, rfl, rfl, rfl⟩
    | consumer consumerId =>
        refine ⟨Function.update_of_ne ?_ _ _, rfl, id⟩
        rintro rfl
        exact free rfl
  case newOrAttachConsumerSequence creator =>
    simp only [perform] at performed
    split at performed
    · cases performed
      exact World.SameBooks.refl before party
    · cases performed
      cases party with
      | producer => exact ⟨rfl, rfl, rfl, rfl⟩
      | consumer consumerId =>
          refine ⟨rfl, rfl, fun initialised member => ?_⟩
          rcases List.mem_cons.mp member with rfl | earlier
          · exact free rfl
          · exact initialised earlier
  case initialiseConsumerSequence creator =>
    cases performed
    exact World.SameBooks.of_eq party rfl rfl rfl rfl rfl
      (fun _ member => (List.mem_filter.mp member).1)
  case addCounter counter amount =>
    cases performed
    exact World.SameBooks.counter before _ free
  case recordMax counter value =>
    cases performed
    exact World.SameBooks.counter before _ free
  all_goals
    cases oracle <;> simp only [perform] at performed
    all_goals first
      | contradiction
      | (cases performed
         exact World.SameBooks.of_eq party rfl rfl rfl rfl rfl (List.Subset.refl _))
      | (split at performed <;> cases performed <;>
          exact World.SameBooks.of_eq party rfl rfl rfl rfl rfl (List.Subset.refl _))

end Touching

/-! ### The contract -/

/-- What the books say where a party is asked for its next operation. -/
structure Books (Value : Type) where
  /-- The replies and the counter of the producer when its counters were attached. -/
  published : Option (List (Nat × ProducerReply) × Nat)
  /-- How far the counter of a consumer is ahead of its cursor. -/
  consumed : ConsumerId → Option Int

def Books.closed (Value : Type) : Books Value := ⟨none, fun _ => none⟩

def Books.ofProducer (Value : Type) (replies : List (Nat × ProducerReply)) (count : Nat) :
    Books Value :=
  ⟨some (replies, count), fun _ => none⟩

def Books.ofConsumer (Value : Type) (consumerId : ConsumerId) (offset : Int) : Books Value :=
  ⟨none, fun other => if other = consumerId then some offset else none⟩

/-- The replies since the counters were attached, and what they were booked to. -/
def Books.Published (books : Books Value) (attached : Bool) (replies : List (Nat × ProducerReply))
    (count : Nat) : Prop :=
  ∀ earlier start, books.published = some (earlier, start) → attached = true ∧
    ∃ later, replies = earlier ++ later ∧ Ascending (total 0 earlier) later ∧
      count = start + grown ProducerReply.booked (total 0 earlier) later

def Books.Consumed (books : Books Value) (consumerId : ConsumerId) (attached : Bool)
    (count : Nat) (sequence : Int) : Prop :=
  ∀ offset, books.consumed consumerId = some offset →
    attached = true ∧ (count : Int) = sequence + offset

structure Books.ProducerRests (books : Books Value) (producer : Producer)
    (world : World (plain Value)) : Prop where
  sequence : producer.sequence = world.producerSequence + 1
  inRange : InRange producer.sequence
  published : world.producerSequence + 1 = total 0 world.replies
  written : world.written.length = total 0 world.replies
  count : (world.counters .eventsPublished : Int) ≤ world.producerSequence + 1
  booked : books.Published producer.counters.eventsPublished world.replies
    (world.counters .eventsPublished)

structure Books.ConsumerRests (books : Books Value) (consumerId : ConsumerId)
    (consumer : Consumer) (world : World (plain Value)) : Prop where
  named : consumer.consumerId = consumerId
  lastProcessedSequence : consumer.lastProcessedSequence = world.consumerSequence consumerId
  booked : books.Consumed consumerId consumer.counters.eventsConsumed
    (world.counters (.eventsConsumed consumerId)) (world.consumerSequence consumerId)

def Books.Asks (books : Books Value) (self : Self) (world : World (plain Value)) :
    Party → Action (plain Value) → Prop
  | .producer, .storeProducerSequence sequence => InRange sequence
  | .producer, .nextProducerRequest =>
      ∃ producer, self = .producer producer ∧ books.ProducerRests producer world
  | .consumer consumerId, .storeConsumerSequence _ sequence =>
      world.consumerSequence consumerId ≤ sequence ∧ InRange sequence
  | .consumer consumerId, .addCounter counter amount => counter = .eventsConsumed consumerId →
      (world.counters counter : Int) + amount ≤ world.consumerSequence consumerId + 1
  | .consumer consumerId, .nextConsumerRequest _ =>
      ∃ consumer, self = .consumer consumer ∧ books.ConsumerRests consumerId consumer world
  | _, .recordMax counter _ => counter.books = none
  | _, _ => True

def Books.Unwatched (books : Books Value) : Party → Prop
  | .producer => books.published = none
  | .consumer consumerId => books.consumed consumerId = none

theorem Books.Asks.unwatched {books : Books Value} {self : Self} {world : World (plain Value)}
    {party : Party} {action : Action (plain Value)} (unwatched : books.Unwatched party)
    (asked : (Books.closed Value).Asks self world party action) :
    books.Asks self world party action := by
  cases party with
  | producer =>
      cases action
      case nextProducerRequest =>
        obtain ⟨producer, same, rests⟩ := asked
        refine ⟨producer, same, { rests with booked := ?_ }⟩
        intro earlier start watched
        rw [unwatched] at watched
        cases watched
      all_goals exact asked
  | consumer consumerId =>
      cases action
      case nextConsumerRequest reader =>
        obtain ⟨consumer, same, rests⟩ := asked
        refine ⟨consumer, same, { rests with booked := ?_ }⟩
        intro offset watched
        rw [unwatched] at watched
        cases watched
      all_goals exact asked

/-- Every cursor is in range, and no consumer has counted more than it has committed. -/
structure World.Balanced {interface : Interface} (world : World interface) : Prop where
  published : InRange world.producerSequence
  committed : ∀ consumerId, InRange (world.consumerSequence consumerId)
  counted : ∀ consumerId,
    (world.counters (.eventsConsumed consumerId) : Int) ≤ world.consumerSequence consumerId + 1

theorem World.Balanced.consumer {interface : Interface} {before after : World interface}
    {consumerId : ConsumerId} (balanced : before.Balanced)
    (same : before.SameBooks after (.consumer consumerId)) :
    InRange (after.consumerSequence consumerId) ∧
      (after.counters (.eventsConsumed consumerId) : Int) ≤
        after.consumerSequence consumerId + 1 := by
  obtain ⟨sequence, counter, _initialised⟩ := same
  rw [sequence, counter]
  exact ⟨balanced.committed consumerId, balanced.counted consumerId⟩

theorem balanced_performed {books : Books Value} {party : Party} {self : Self}
    {action : Action (plain Value)} {oracle : Oracle (plain Value)}
    {before after : World (plain Value)} {result : action.Result} (balanced : before.Balanced)
    (owned : ∀ owner, action.touches = some owner → owner = party)
    (asked : books.Asks self before party action)
    (performed : perform passes action oracle before = some (result, after)) :
    after.Balanced := by
  have producer : InRange after.producerSequence := by
    by_cases touched : action.touches = some .producer
    · cases action
      case storeProducerSequence sequence =>
        cases owned _ touched
        cases performed
        exact asked
      case updateSlot sequence slot update =>
        simp only [perform] at performed
        split at performed <;> cases performed
        exact balanced.published
      case reply reply =>
        cases performed
        exact balanced.published
      case addCounter counter amount =>
        cases performed
        exact balanced.published
      case recordMax counter value =>
        cases performed
        exact balanced.published
      all_goals cases touched
    · obtain ⟨_, _, same, _⟩ := perform_sameBooks touched performed
      rw [same]
      exact balanced.published
  have consumer : ∀ consumerId, InRange (after.consumerSequence consumerId) ∧
      (after.counters (.eventsConsumed consumerId) : Int) ≤
        after.consumerSequence consumerId + 1 := by
    intro consumerId
    by_cases touched : action.touches = some (.consumer consumerId)
    · have here := owned _ touched
      subst here
      cases action
      case storeConsumerSequence writer sequence =>
        cases touched
        cases performed
        obtain ⟨ahead, inRange⟩ := asked
        have counted := balanced.counted consumerId
        simp only [Function.update_self]
        exact ⟨inRange, by omega⟩
      case newOrAttachConsumerSequence creator =>
        have same : after.consumerSequence = before.consumerSequence ∧
            after.counters = before.counters := by
          simp only [perform] at performed
          split at performed <;> cases performed <;> exact ⟨rfl, rfl⟩
        rw [same.1, same.2]
        exact ⟨balanced.committed consumerId, balanced.counted consumerId⟩
      case addCounter counter amount =>
        cases performed
        by_cases mine : counter = .eventsConsumed consumerId
        · subst mine
          have fits := asked rfl
          have least : (before.counters (.eventsConsumed consumerId) + amount) % 2 ^ 64 ≤
              before.counters (.eventsConsumed consumerId) + amount := Nat.mod_le _ _
          simp only [addCounter, Function.update_self]
          exact ⟨balanced.committed consumerId, by omega⟩
        · have same : (addCounter before counter amount).counters (.eventsConsumed consumerId) =
              before.counters (.eventsConsumed consumerId) :=
            Function.update_of_ne (fun other => mine other.symm) _ _
          rw [same]
          exact ⟨balanced.committed consumerId, balanced.counted consumerId⟩
      case recordMax counter value =>
        have unbooked : counter.books = none := asked
        simp only [Action.touches, unbooked] at touched
        cases touched
      all_goals cases touched
    · exact balanced.consumer (perform_sameBooks touched performed)
  exact ⟨producer, fun consumerId => (consumer consumerId).1,
    fun consumerId => (consumer consumerId).2⟩

/-- Every party sees to its own books and leaves those of the others alone. -/
def ledger (transport : Transport) (consumerCounters : ConsumerCounters)
    (passes : DirectoryPasses) (books : Books Value) :
    Contract ((plainApplication transport Value consumerCounters).machine passes) where
  condition := fun _ _ _ _ => True
  guarantee := fun party self action world =>
    (∀ owner, action.touches = some owner → owner = party) ∧
      books.Asks self world party action
  invariant := World.Balanced
  rely := fun party before after => before.SameBooks after party
  relyRefl := fun party world => World.SameBooks.refl world party
  relyTrans := World.SameBooks.trans
  performed := by
    intro party self action oracle before result after balanced _met guaranteed performed
    obtain ⟨owned, asked⟩ := guaranteed
    constructor
    · exact balanced_performed balanced owned asked performed
    · intro other different
      apply perform_sameBooks _ performed
      intro touched
      exact different (owned other touched)
  restarted := by
    intro party before program after balanced restarted
    cases party with
    | producer => cases restarted
    | consumer consumerId =>
        simp only [Application.machine] at restarted
        split at restarted
        · cases restarted
          exact ⟨⟨balanced.published, balanced.committed, balanced.counted⟩,
            fun other _different =>
              World.SameBooks.of_eq other rfl rfl rfl rfl rfl (List.Subset.refl _)⟩
        · cases restarted

/-! ### The consumer -/

section Consumer

variable {books : Books Value} {consumerId : ConsumerId}

def Books.Level (books : Books Value) (consumerId : ConsumerId) (self : Consumer × Unit)
    (world : World (plain Value)) : Prop :=
  books.ConsumerRests consumerId self.1 world

/-- A consumer that has committed a batch and is to count it. -/
structure Books.Owing (books : Books Value) (consumerId : ConsumerId) (lower upper : Int)
    (consumer : Consumer) (world : World (plain Value)) : Prop where
  named : consumer.consumerId = consumerId
  lastProcessedSequence : consumer.lastProcessedSequence = upper
  committed : world.consumerSequence consumerId = upper
  counted : (world.counters (.eventsConsumed consumerId) : Int) ≤ lower
  booked : books.Consumed consumerId consumer.counters.eventsConsumed
    (world.counters (.eventsConsumed consumerId)) (lower - 1)

def Books.Owes (books : Books Value) (consumerId : ConsumerId) (lower upper : Int)
    (self : Consumer × Unit) (world : World (plain Value)) : Prop :=
  books.Owing consumerId lower upper self.1 world

theorem level_stable {self : Consumer × Unit} {before after : World (plain Value)}
    (same : before.SameBooks after (.consumer consumerId))
    (level : books.Level consumerId self before) : books.Level consumerId self after := by
  obtain ⟨sequence, counter, _initialised⟩ := same
  constructor
  · exact level.named
  · rw [sequence]
    exact level.lastProcessedSequence
  · rw [sequence, counter]
    exact level.booked

theorem uses_touches {action : Action (plain Value)} (uses : action.uses consumerId = true) :
    action.touches = none := by
  cases action
  case addCounter counter amount =>
    have spins := of_decide_eq_true uses
    subst spins
    rfl
  case recordMax counter value =>
    have lag := of_decide_eq_true uses
    subst lag
    rfl
  all_goals first
    | rfl
    | cases uses

theorem uses_asks {action : Action (plain Value)} {self : Self} {world : World (plain Value)}
    (uses : action.uses consumerId = true) :
    books.Asks self world (.consumer consumerId) action := by
  cases action
  case addCounter counter amount =>
    have spins := of_decide_eq_true uses
    subst spins
    intro impossible
    cases impossible
  case recordMax counter value =>
    have lag := of_decide_eq_true uses
    subst lag
    rfl
  all_goals trivial

def Books.Before (books : Books Value) (consumerId : ConsumerId) (lower : Int)
    (self : Consumer × Unit) (world : World (plain Value)) : Prop :=
  Next lower self.1 ∧ books.Level consumerId self world

abbrev LedgerTriple (transport : Transport) (consumerCounters : ConsumerCounters)
    (passes : DirectoryPasses) (books : Books Value) (consumerId : ConsumerId) {α : Type}
    (pre : Consumer × Unit → World (plain Value) → Prop)
    (routine : ConsumerProcess (plain Value) Unit α)
    (post : α → Consumer × Unit → World (plain Value) → Prop) : Prop :=
  (ledger transport consumerCounters passes books).Triple (.consumer consumerId) pre routine post

theorem seen {pre : Consumer × Unit → World (plain Value) → Prop} :
    LedgerTriple transport consumerCounters passes books consumerId pre Consumer.current
      (fun consumer self world => consumer = self.1 ∧ pre self world) := by
  apply Contract.Triple.bind Contract.Triple.get
  intro self
  apply Contract.Triple.pure
  rintro self world ⟨rfl, held⟩
  exact ⟨rfl, held⟩

theorem publishConsumedSequence_owing {lower upper : Int} (batch : Batch lower upper) :
    LedgerTriple transport consumerCounters passes books consumerId
      (books.Before consumerId lower) (Consumer.publishConsumedSequence upper)
      (fun _ => books.Owes consumerId lower upper) := by
  apply Contract.Triple.bind seen
  intro consumer
  have stores : LedgerTriple transport consumerCounters passes books consumerId
      (fun self world => consumer = self.1 ∧ books.Before consumerId lower self world)
      (act (.storeConsumerSequence consumer.consumerId upper))
      (fun _ self world => books.Owing consumerId lower upper
        { self.1 with lastProcessedSequence := upper } world) := by
    apply Contract.Triple.perform
    rintro self world before ⟨rfl, next, held⟩ relied balanced _met
    have level := level_stable relied held
    have standing : self.1.lastProcessedSequence + 1 = lower := next
    have committed := level.lastProcessedSequence
    have ordered := batch.ordered
    have counted := balanced.counted consumerId
    have named := level.named
    subst named
    refine ⟨⟨fun owner touched => ?_, ?_, batch.last⟩, fun oracle result after performed => ?_⟩
    · exact (Option.some.inj touched).symm
    · omega
    · cases performed
      constructor
      · rfl
      · rfl
      · exact Function.update_self _ _ _
      · change (before.counters (.eventsConsumed self.1.consumerId) : Int) ≤ lower
        omega
      · have earlier : before.consumerSequence self.1.consumerId = lower - 1 := by omega
        rw [← earlier]
        exact level.booked
  apply Contract.Triple.bind stores
  intro _ self world held fuel
  cases fuel with
  | zero => trivial
  | succ fuel => exact held

theorem owing_stable {lower upper : Int} {consumer : Consumer}
    {before after : World (plain Value)}
    (same : before.SameBooks after (.consumer consumerId))
    (owing : books.Owing consumerId lower upper consumer before) :
    books.Owing consumerId lower upper consumer after := by
  obtain ⟨sequence, counter, _initialised⟩ := same
  constructor
  · exact owing.named
  · exact owing.lastProcessedSequence
  · exact sequence.trans owing.committed
  · rw [counter]
    exact owing.counted
  · rw [counter]
    exact owing.booked

theorem countConsumed_level {lower upper : Int} (batch : Batch lower upper) :
    LedgerTriple transport consumerCounters passes books consumerId
      (books.Owes consumerId lower upper)
      (Consumer.count .eventsConsumed (·.eventsConsumed) (upper - lower + 1).toNat)
      (fun _ => books.Level consumerId) := by
  apply Contract.Triple.bind seen
  intro consumer
  have ordered := batch.ordered
  apply onlyIf_triple
  · intro _attached
    apply Contract.Triple.perform
    rintro self world before ⟨rfl, held⟩ relied balanced _met
    have owing := owing_stable relied held
    have counted := owing.counted
    have committed := owing.committed
    have named := owing.named
    subst named
    refine ⟨⟨fun owner touched => ?_, fun _ => ?_⟩, fun oracle result after performed => ?_⟩
    · exact (Option.some.inj touched).symm
    · omega
    · cases performed
      have inRange := (balanced.committed self.1.consumerId).2
      have small : before.counters (.eventsConsumed self.1.consumerId) +
          (upper - lower + 1).toNat < 2 ^ 64 := by omega
      constructor
      · rfl
      · exact owing.lastProcessedSequence.trans committed.symm
      · intro offset watched
        obtain ⟨here, exact⟩ := owing.booked offset watched
        refine ⟨here, ?_⟩
        simp only [addCounter, Function.update_self]
        rw [Nat.mod_eq_of_lt small, committed]
        omega
  · rintro detached self world ⟨rfl, owing⟩
    constructor
    · exact owing.named
    · exact owing.lastProcessedSequence.trans owing.committed.symm
    · intro offset watched
      exact absurd (owing.booked offset watched).1 detached

theorem level_consuming :
    Consuming (ledger transport consumerCounters passes books) consumerId
      (books.Level consumerId) (books.Owes consumerId) where
  own := fun _ _ level => level.named
  stable := fun _ _ _ relied level => level_stable relied level
  allowed := by
    intro self action world uses
    constructor
    · intro owner touched
      rw [uses_touches uses] at touched
      cases touched
    · exact uses_asks uses
  performed := by
    intro self action oracle before result after uses performed level
    apply level_stable _ level
    apply perform_sameBooks _ performed
    rw [uses_touches uses]
    exact nofun
  published := fun _ balanced => balanced.published
  commits := publishConsumedSequence_owing
  counts := countConsumed_level

theorem consumerRound_level :
    LedgerTriple transport consumerCounters passes books consumerId (books.Level consumerId)
      (plainApplication transport Value consumerCounters).consumerRound
      (fun _ => books.Level consumerId) := by
  have consuming := @level_consuming transport Value passes consumerCounters books consumerId
  apply Contract.Triple.bind seen
  intro consumer
  have asks : LedgerTriple transport consumerCounters passes books consumerId
      (fun self world => consumer = self.1 ∧ books.Level consumerId self world)
      (act (.nextConsumerRequest consumer.consumerId)) (fun _ => books.Level consumerId) := by
    apply Contract.Triple.perform
    rintro self world before ⟨rfl, held⟩ relied _balanced _met
    have level := level_stable relied held
    refine ⟨⟨nofun, self.1, rfl, level⟩, fun oracle result after performed => ?_⟩
    cases oracle <;> cases performed
    exact level
  apply Contract.Triple.bind asks
  intro request
  apply Contract.Triple.bind (consuming.serves request)
  intro output
  apply Contract.Triple.bind seen
  intro consumer
  apply Contract.Triple.given (consumer.consumerId = consumerId)
  · rintro self world ⟨rfl, level⟩
    exact level.named
  · intro same
    exact (consuming.act Anyhow (by exact decide_eq_true same)).keeps.strengthen
      (fun _ _ held => held.2)

theorem consumerProgram_ledger {consumer : Consumer} {world : World (plain Value)}
    (rests : books.ConsumerRests consumerId consumer world) (fuel : Nat) :
    (ledger transport consumerCounters passes books).Safe (.consumer consumerId) fuel
      ((plainApplication transport Value consumerCounters).consumerProgram consumer)
      (fun _ _ => True) world :=
  have level : books.Level consumerId (consumer, ()) world := rests
  Contract.Triple.forever consumerRound_level level fuel _

/-! ### The start of a consumer -/

abbrev AttachTriple (transport : Transport) (consumerCounters : ConsumerCounters)
    (passes : DirectoryPasses) (books : Books Value) (consumerId : ConsumerId) {α : Type}
    (pre : World (plain Value) → Prop) (routine : Process (plain Value) Attaching α)
    (post : α → World (plain Value) → Prop) : Prop :=
  (ledger transport consumerCounters passes books).Triple (.consumer consumerId)
    (fun attaching world => attaching.consumerId = consumerId ∧ pre world) routine
    (fun value attaching world => attaching.consumerId = consumerId ∧ post value world)

theorem attach_act {pre : World (plain Value) → Prop} {action : Action (plain Value)}
    {post : action.Result → World (plain Value) → Prop} (uses : action.touches = none)
    (asks : ∀ self world, books.Asks self world (.consumer consumerId) action)
    (stable : ∀ before after, World.SameBooks before after (.consumer consumerId) →
      pre before → pre after)
    (outcome : ∀ before oracle result after, pre after →
      perform passes action oracle before = some (result, after) → post result after) :
    AttachTriple transport consumerCounters passes books consumerId pre (act action) post := by
  apply Contract.Triple.perform
  rintro attaching world before ⟨named, held⟩ relied _balanced _met
  refine ⟨⟨?_, asks _ before⟩, fun oracle result after performed => ⟨named, ?_⟩⟩
  · intro owner touched
    rw [uses] at touched
    cases touched
  · apply outcome before oracle result after _ performed
    apply stable before after _ (stable world before relied held)
    apply perform_sameBooks _ performed
    rw [uses]
    exact nofun

theorem attach_expect {pre : World (plain Value) → Prop} {condition : Prop}
    [Decidable condition]
    (stable : ∀ before after, World.SameBooks before after (.consumer consumerId) →
      pre before → pre after) :
    AttachTriple transport consumerCounters passes books consumerId pre (expect condition)
      (fun _ => pre) := by
  unfold expect
  split
  · exact Contract.Triple.pure () (fun _ _ held => held)
  · have panics : AttachTriple transport consumerCounters passes books consumerId pre
        (act .panic) (fun _ => pre) := by
      apply attach_act
      · rfl
      · exact fun _ _ => trivial
      · exact stable
      · exact fun _ _ _ _ held _ => held
    exact Contract.Triple.bind panics (fun impossible => nomatch (impossible : Empty))

theorem initialised_stable (before after : World (plain Value))
    (same : before.SameBooks after (.consumer consumerId))
    (initialised : consumerId ∉ before.uninitialised) : consumerId ∉ after.uninitialised :=
  same.2.2 initialised

theorem newOrAttachCursor_ledger :
    AttachTriple transport consumerCounters passes books consumerId
      (fun world => consumerId ∉ world.uninitialised) (Consumer.newOrAttachCursor consumerId)
      (fun _ world => consumerId ∉ world.uninitialised) := by
  have creates : AttachTriple transport consumerCounters passes books consumerId
      (fun world => consumerId ∉ world.uninitialised)
      (act (.newOrAttachConsumerSequence consumerId))
      (fun (isNew : Bool) world => isNew = false → consumerId ∉ world.uninitialised) := by
    apply Contract.Triple.perform
    rintro attaching world before ⟨named, held⟩ relied _balanced _met
    have initialised := initialised_stable world before relied held
    refine ⟨⟨fun owner touched => (Option.some.inj touched).symm, trivial⟩, ?_⟩
    intro oracle result after performed
    simp only [Application.machine, perform] at performed
    split at performed
    · cases performed
      exact ⟨named, fun _ => initialised⟩
    · cases performed
      exact ⟨named, fun old => absurd old Bool.noConfusion⟩
  apply Contract.Triple.bind creates
  intro (isNew : Bool)
  have initialises : AttachTriple transport consumerCounters passes books consumerId
      (fun world => isNew = false → consumerId ∉ world.uninitialised)
      (onlyIf (isNew = true) (act (.initialiseConsumerSequence consumerId)))
      (fun _ world => consumerId ∉ world.uninitialised) := by
    apply onlyIf_triple
    · intro _new
      apply attach_act
      · rfl
      · exact fun _ _ => trivial
      · exact fun before after same held old => initialised_stable before after same (held old)
      · intro before oracle result after _held performed
        cases performed
        simp only [List.mem_filter, ne_eq, not_true_eq_false, decide_false, Bool.false_eq_true,
          and_false, not_false_eq_true]
    · exact fun old _ _ held => ⟨held.1, held.2 (Bool.eq_false_of_not_eq_true old)⟩
  apply Contract.Triple.bind initialises
  intro _
  exact Contract.Triple.pure isNew (fun _ _ held => held)

theorem attach_ledger (unwatched : books.consumed consumerId = none) :
    AttachTriple transport consumerCounters passes books consumerId
      (fun world => consumerId ∉ world.uninitialised)
      (Consumer.attach transport consumerCounters)
      (fun consumer => books.ConsumerRests consumerId consumer) := by
  have standing : ∀ (sequence : Int) (before after : World (plain Value)),
      before.SameBooks after (.consumer consumerId) →
      before.consumerSequence consumerId = sequence →
      after.consumerSequence consumerId = sequence :=
    fun sequence before after same stood => same.1.trans stood
  apply Contract.Triple.through (fun (attaching : Attaching) self world =>
    attaching.consumerId = consumerId ∧ self.consumerId = consumerId ∧
      consumerId ∉ world.uninitialised)
  · apply Contract.Triple.get.weaken
    rintro attaching self world ⟨rfl, named, initialised⟩
    exact ⟨named, named, initialised⟩
  intro attaching
  apply Contract.Triple.given (attaching.consumerId = consumerId) (fun _ _ held => held.1)
  rintro rfl
  apply Contract.Triple.strengthen _ (fun _ _ held => held.2)
  apply Contract.Triple.bind newOrAttachCursor_ledger
  intro (isNew : Bool)
  apply Contract.Triple.bind (attach_expect initialised_stable)
  intro _
  have loads : AttachTriple transport consumerCounters passes books attaching.consumerId
      (fun world => attaching.consumerId ∉ world.uninitialised)
      (act (.loadConsumerSequence attaching.consumerId))
      (fun (sequence : Int) world =>
        world.consumerSequence attaching.consumerId = sequence) := by
    apply attach_act
    · rfl
    · exact fun _ _ => trivial
    · exact initialised_stable
    · intro before oracle result after initialised performed
      simp only [perform] at performed
      split at performed <;> cases performed
      exact (if_neg initialised).symm
  apply Contract.Triple.bind loads
  intro (sequence : Int)
  have signals : AttachTriple transport consumerCounters passes books attaching.consumerId
      (fun world => world.consumerSequence attaching.consumerId = sequence)
      (onlyIf (transport.backend = .sharedMemory ∨ isNew = true) (act .signalReadiness))
      (fun _ world => world.consumerSequence attaching.consumerId = sequence) := by
    apply onlyIf_triple
    · intro _signals
      apply attach_act
      · rfl
      · exact fun _ _ => trivial
      · exact standing sequence
      · exact fun _ _ _ _ held _ => held
    · exact fun _ _ _ held => held
  apply Contract.Triple.bind signals
  intro _
  apply Contract.Triple.pure
  rintro self world ⟨named, stands⟩
  refine ⟨named, rfl, stands.symm, ?_⟩
  intro offset watched
  rw [unwatched] at watched
  cases watched

theorem boot_ledger (unwatched : books.consumed consumerId = none)
    {world : World (plain Value)} (initialised : consumerId ∉ world.uninitialised)
    (fuel : Nat) :
    (ledger transport consumerCounters passes books).Safe (.consumer consumerId) fuel
      ((plainApplication transport Value consumerCounters).boot consumerId)
      (fun _ _ => True) world := by
  have attaches := @attach_ledger transport Value passes consumerCounters books consumerId
    unwatched ⟨consumerId⟩ world ⟨rfl, initialised⟩ fuel
  apply attaches.bind
  intro out after held remaining _fewer
  exact consumerProgram_ledger held.2 remaining

end Consumer

end Ring
