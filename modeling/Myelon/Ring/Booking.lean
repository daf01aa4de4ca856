/-
What a producer books to its counter.

A call writes events, publishes them, goes on behind them and counts them, each step after
the one before. Where it returns, the first three agree, and whether the fourth agrees with
them is a matter of the call.
-/

import Myelon.Ring.Known
import Myelon.Ring.Ledger

namespace Ring

open Interleaving Delivery

variable {transport : Transport} {Value : Type} {passes : DirectoryPasses}
variable {consumerCounters : ConsumerCounters} {books : Books Value}

/-! ### The course of a call -/

structure Opening where
  attached : Bool
  replies : List (Nat × ProducerReply)
  count : Nat

namespace Opening

variable (opening : Opening)

abbrev earlier : Nat :=
  total 0 opening.replies

/-- How many events the call has written, published, left behind and counted so far. -/
structure Course (written published passed counted : Nat) (current : Int) (counts : Bool)
    (world : World (plain Value)) : Prop where
  attached : counts = opening.attached
  replies : world.replies = opening.replies
  written : world.written.length = opening.earlier + written
  published : world.producerSequence + 1 = (opening.earlier : Int) + published
  sequence : current = (opening.earlier : Int) + passed
  count : world.counters .eventsPublished = opening.count + counted
  bounded : opening.count ≤ opening.earlier
  inRange : InRange current

def Reached (written published passed counted : Nat) (producer : Producer)
    (world : World (plain Value)) : Prop :=
  opening.Course written published passed counted producer.sequence
    producer.counters.eventsPublished world

/-- A call that returns has published everything it wrote, and counted it or nothing. -/
def Closed (reply : ProducerReply) (producer : Producer) (world : World (plain Value)) : Prop :=
  ∃ events counted, opening.Reached events events events counted producer world ∧
    counted = if opening.attached && reply.booked then events else 0

def next (reply : ProducerReply) (events counted : Nat) : Opening :=
  { attached := opening.attached
    replies := opening.replies ++ [(opening.earlier + events, reply)]
    count := opening.count + counted }

variable {opening} {written published passed counted : Nat}

theorem Course.stable {sequence : Int} {attached : Bool} {before after : World (plain Value)}
    (same : before.SameBooks after .producer)
    (course : opening.Course written published passed counted sequence attached before) :
    opening.Course written published passed counted sequence attached after := by
  obtain ⟨replies, events, published, count⟩ := same
  constructor
  · exact course.attached
  · exact replies.trans course.replies
  · rw [events]
    exact course.written
  · rw [published]
    exact course.published
  · exact course.sequence
  · exact count.trans course.count
  · exact course.bounded
  · exact course.inRange

/-! ### The steps of a call -/

abbrev BookTriple (transport : Transport) (consumerCounters : ConsumerCounters)
    (passes : DirectoryPasses) (books : Books Value) {α : Type}
    (pre : Producer → World (plain Value) → Prop) (routine : ProducerProcess (plain Value) α)
    (post : α → Producer → World (plain Value) → Prop) : Prop :=
  FrameTriple (ledger transport consumerCounters passes books) pre routine post

theorem looks_touches {action : Action (plain Value)} (looks : action.looks = true) :
    action.touches = none := by
  cases action
  case addCounter counter amount =>
    have full := of_decide_eq_true looks
    subst full
    rfl
  all_goals first
    | rfl
    | cases looks

theorem reached_managing :
    Managing (ledger transport consumerCounters passes books)
      (opening.Reached written published passed counted) where
  reserving :=
    { looking :=
        { lasting :=
            { stable := fun _ _ _ relied reached => Course.stable relied reached
              allowed := by
                intro self action world looks
                constructor
                · intro owner touched
                  rw [looks_touches looks] at touched
                  cases touched
                · cases action
                  all_goals trivial
              performed := by
                intro producer action oracle before result after looks _met performed reached
                apply Course.stable _ reached
                apply perform_sameBooks _ performed
                rw [looks_touches looks]
                exact nofun }
          barrier := fun _ _ _ _ reached => reached }
      clearance := fun _ _ _ reached => reached }
  alerts := by
    intro alert
    apply Contract.Triple.perform
    intro producer world before reached relied _balanced _met
    constructor
    · refine ⟨?_, trivial⟩
      intro owner touched
      cases touched
    · intro oracle result after performed
      cases performed
      exact Course.stable relied reached
  liveness := fun _ _ _ reached => reached

theorem reached_looking :
    Looking (ledger transport consumerCounters passes books)
      (opening.Reached written published passed counted) :=
  reached_managing.reserving.looking

theorem writeSlot_reached (sequence : Int) (update : Value → Option Value) :
    BookTriple transport consumerCounters passes books
      (opening.Reached written published passed counted)
      (Producer.writeSlot transport sequence update)
      (fun _ => opening.Reached (written + 1) published passed counted) := by
  have gets : Leaves (ledger transport consumerCounters passes books)
      (opening.Reached written published passed counted) (transport.ring.get sequence) :=
    Leaves.bind reached_looking.lasting.expect (fun _ => Leaves.pure _)
  apply Contract.Triple.bind gets
  intro slot
  apply Contract.Triple.perform
  intro producer world before held relied _balanced _met
  have course := Course.stable relied held
  refine ⟨⟨?_, trivial⟩, fun oracle result after performed => ?_⟩
  · intro owner touched
    exact (Option.some.inj touched).symm
  · simp only [Application.machine, perform] at performed
    split at performed <;> cases performed
    constructor
    · exact course.attached
    · exact course.replies
    · change (before.written ++ [_]).length = opening.earlier + (written + 1)
      rw [List.length_append, course.written, List.length_singleton, Nat.add_assoc]
    · exact course.published
    · exact course.sequence
    · exact course.count
    · exact course.bounded
    · exact course.inRange

theorem storeSequence_reached {events : Nat} (sequence : Int) (inRange : InRange sequence)
    (last : sequence + 1 = (opening.earlier : Int) + events) :
    BookTriple transport consumerCounters passes books (opening.Reached events 0 0 0)
      (Producer.storeSequence sequence events)
      (fun _ => opening.Reached events events events 0) := by
  have stores : BookTriple transport consumerCounters passes books
      (opening.Reached events 0 0 0) (act (.storeProducerSequence sequence))
      (fun _ => opening.Reached events events 0 0) := by
    apply Contract.Triple.perform
    intro producer world before held relied _balanced _met
    have course := Course.stable relied held
    refine ⟨⟨?_, inRange⟩, fun oracle result after performed => ?_⟩
    · intro owner touched
      exact (Option.some.inj touched).symm
    · cases performed
      constructor
      · exact course.attached
      · exact course.replies
      · exact course.written
      · exact last
      · exact course.sequence
      · exact course.count
      · exact course.bounded
      · exact course.inRange
  apply Contract.Triple.bind stores
  intro _
  apply Contract.Triple.bind Contract.Triple.get
  intro producer
  have checks : BookTriple transport consumerCounters passes books
      (fun self world => producer = self ∧ opening.Reached events events 0 0 self world)
      (checked (producer.sequence + events))
      (fun next self world => (next = (opening.earlier : Int) + events ∧ InRange next) ∧
        opening.Reached events events 0 0 self world) := by
    apply Contract.Triple.given (producer.sequence = (opening.earlier : Int))
    · rintro self world ⟨rfl, reached⟩
      exact reached.sequence.trans (Int.add_zero _)
    · intro start
      apply (reached_looking.lasting.checked _).conseq
      · exact fun _ _ held => held.2
      · rintro next self world ⟨⟨rfl, fits⟩, reached⟩
        exact ⟨⟨by rw [start], fits⟩, reached⟩
  apply Contract.Triple.bind checks
  rintro next self world ⟨⟨rfl, fits⟩, reached⟩ fuel
  cases fuel with
  | zero => trivial
  | succ fuel =>
      constructor
      · exact reached.attached
      · exact reached.replies
      · exact reached.written
      · exact reached.published
      · rfl
      · exact reached.count
      · exact reached.bounded
      · exact fits

/-! ### The calls that publish -/

theorem applyUpdate_reached (update : Value → Option Value) :
    BookTriple transport consumerCounters passes books (opening.Reached 0 0 0 0)
      (Producer.applyUpdate transport update) (fun _ => opening.Reached 1 1 1 0) := by
  apply Contract.Triple.bind Contract.Triple.get
  intro producer
  apply Contract.Triple.given
    (producer.sequence = (opening.earlier : Int) ∧ InRange producer.sequence)
  · rintro self world ⟨rfl, reached⟩
    exact ⟨reached.sequence.trans (Int.add_zero _), reached.inRange⟩
  rintro ⟨start, inRange⟩
  apply Contract.Triple.bind (reached_looking.lasting.expect.strengthen (fun _ _ held => held.2))
  intro _
  apply Contract.Triple.bind (writeSlot_reached producer.sequence update)
  intro _
  apply Contract.Triple.bind
  · apply storeSequence_reached producer.sequence inRange
    rw [start]
    rfl
  · intro _
    exact Contract.Triple.pure _ (fun _ _ reached => reached)

theorem applyBatchUpdates_reached (n : Nat) (updateFn : Nat → Value → Option Value) :
    BookTriple transport consumerCounters passes books (opening.Reached 0 0 0 0)
      (Producer.applyBatchUpdates transport n updateFn) (fun _ => opening.Reached n n n 0) := by
  apply Contract.Triple.bind reached_looking.lasting.expect
  intro _
  apply Contract.Triple.bind reached_looking.lasting.expect
  intro _
  apply Contract.Triple.bind Contract.Triple.get
  intro producer
  apply Contract.Triple.given (producer.sequence = (opening.earlier : Int))
  · rintro self world ⟨rfl, reached⟩
    exact reached.sequence.trans (Int.add_zero _)
  intro start
  apply Contract.Triple.bind ((reached_looking.lasting.checked _).strengthen
    (fun _ _ held => held.2))
  intro upper
  apply Contract.Triple.given (upper = producer.sequence + ((n : Int) - 1) ∧ InRange upper)
  · rintro self world ⟨⟨rfl, fits⟩, _reached⟩
    exact ⟨rfl, by assumption⟩
  rintro ⟨last, inRange⟩
  have writes : BookTriple transport consumerCounters passes books (opening.Reached 0 0 0 0)
      (Routine.each (fun i : Nat => Producer.writeSlot transport (producer.sequence + i)
        (updateFn i)) (List.range n)) (fun _ => opening.Reached n 0 0 0) := by
    apply (Contract.Triple.eachOf
      (fun items : List Nat => fun self world => ∃ done, done + items.length = n ∧
        opening.Reached done 0 0 0 self world) (List.range n) ?_).conseq
    · intro self world reached
      exact ⟨0, by rw [Nat.zero_add, List.length_range], reached⟩
    · rintro _ self world ⟨done, all, reached⟩
      rw [List.length_nil, Nat.add_zero] at all
      exact all ▸ reached
    · intro item rest
      apply Contract.Triple.exists
      intro done
      apply Contract.Triple.given (done + (item :: rest).length = n) (fun _ _ held => held.1)
      intro all
      rw [List.length_cons] at all
      apply (writeSlot_reached _ _).conseq
      · exact fun _ _ held => held.2
      · exact fun _ self world reached => ⟨done + 1, by omega, reached⟩
  apply Contract.Triple.bind (writes.strengthen (fun _ _ held => held.2))
  intro _
  apply Contract.Triple.bind
  · apply storeSequence_reached upper inRange
    omega
  · intro _
    exact Contract.Triple.pure _ (fun _ _ reached => reached)

/-! ### The calls that count -/

theorem countPublished_reached :
    BookTriple transport consumerCounters passes books (opening.Reached 1 1 1 0)
      (Producer.count opening.attached .eventsPublished)
      (fun _ => opening.Reached 1 1 1 (if opening.attached = true then 1 else 0)) := by
  apply onlyIf_triple
  · intro attached
    rw [if_pos attached]
    apply Contract.Triple.perform
    intro producer world before held relied _balanced _met
    have course := Course.stable relied held
    have count := course.count
    have bounded := course.bounded
    have sequence := course.sequence
    have high := course.inRange.2
    refine ⟨⟨?_, trivial⟩, fun oracle result after performed => ?_⟩
    · intro owner touched
      exact (Option.some.inj touched).symm
    · cases performed
      constructor
      · exact course.attached
      · exact course.replies
      · exact course.written
      · exact course.published
      · exact course.sequence
      · simp only [addCounter, Function.update_self]
        rw [Nat.mod_eq_of_lt (by omega), count]
      · exact course.bounded
      · exact course.inRange
  · intro detached
    rw [if_neg detached]
    exact fun _ _ reached => reached

theorem tryPublish_reached (update : Value → Option Value) :
    BookTriple transport consumerCounters passes books (opening.Reached 0 0 0 0)
      (Producer.tryPublish transport update)
      (Either (opening.Reached 0 0 0 0)
        (fun _ => opening.Reached 1 1 1 (if opening.attached = true then 1 else 0))) := by
  apply Contract.Triple.bind Contract.Triple.get
  intro producer
  apply Contract.Triple.given (producer.counters.eventsPublished = opening.attached)
  · rintro self world ⟨rfl, reached⟩
    exact reached.attached
  intro attached
  apply Contract.Triple.bind ((reached_managing.reserving.nextSequences 1).strengthen
    (fun _ _ held => held.2))
  intro reserved
  cases reserved with
  | error missing =>
      apply Contract.Triple.bind (reached_looking.lasting.count _)
      intro _
      exact Contract.Triple.pure _ (fun _ _ reached => reached)
  | ok last =>
      apply Contract.Triple.bind (applyUpdate_reached update)
      intro sequence
      rw [attached]
      apply Contract.Triple.bind countPublished_reached
      intro _
      exact Contract.Triple.pure _ (fun _ _ reached => reached)

theorem publish_reached (update : Value → Option Value) :
    BookTriple transport consumerCounters passes books (opening.Reached 0 0 0 0)
      (Producer.publish transport update)
      (fun _ => opening.Reached 1 1 1 (if opening.attached = true then 1 else 0)) := by
  apply Contract.Triple.bind reached_managing.reserving.awaitSlot
  intro _
  apply Contract.Triple.bind (applyUpdate_reached update)
  intro sequence
  apply Contract.Triple.bind Contract.Triple.get
  intro producer
  apply Contract.Triple.given (producer.counters.eventsPublished = opening.attached)
  · rintro self world ⟨rfl, reached⟩
    exact reached.attached
  intro attached
  rw [attached]
  exact countPublished_reached.strengthen (fun _ _ held => held.2)

/-! ### The calls that do not count -/

theorem tryBatchPublish_reached (n : Nat) (updateFn : Nat → Value → Option Value) :
    BookTriple transport consumerCounters passes books (opening.Reached 0 0 0 0)
      (Producer.tryBatchPublish transport n updateFn)
      (Either (opening.Reached 0 0 0 0) (fun _ => opening.Reached n n n 0)) := by
  unfold Producer.tryBatchPublish
  split
  · rename_i none
    subst none
    apply Contract.Triple.bind Contract.Triple.get
    intro producer
    apply Contract.Triple.bind ((reached_looking.lasting.computed _).strengthen
      (fun _ _ held => held.2))
    intro last
    exact Contract.Triple.pure _ (fun _ _ reached => reached)
  · apply Contract.Triple.bind (reached_managing.reserving.nextSequences n)
    intro reserved
    cases reserved with
    | error missing => exact Contract.Triple.pure _ (fun _ _ reached => reached)
    | ok last =>
        apply Contract.Triple.bind (applyBatchUpdates_reached n updateFn)
        intro sequence
        exact Contract.Triple.pure _ (fun _ _ reached => reached)

theorem publishWithTimeout_reached (timeout : Nat) (update : Value → Option Value) :
    BookTriple transport consumerCounters passes books (opening.Reached 0 0 0 0)
      (Producer.publishWithTimeout transport timeout update)
      (Either (opening.Reached 0 0 0 0) (fun _ => opening.Reached 1 1 1 0)) := by
  apply Contract.Triple.bind reached_looking.lasting.expect
  intro _
  apply Contract.Triple.bind (reached_looking.act rfl)
  intro start
  apply Contract.Triple.repeat' (fun _ => opening.Reached 0 0 0 0)
  intro round
  apply Contract.Triple.bind (reached_managing.reserving.nextSequences 1)
  intro reserved
  cases reserved with
  | ok last =>
      apply Contract.Triple.bind (applyUpdate_reached update)
      intro sequence
      exact Contract.Triple.pure _ (fun _ _ reached => reached)
  | error missing =>
      apply Contract.Triple.bind (reached_looking.act rfl)
      intro now
      split
      · exact Contract.Triple.pure _ (fun _ _ reached => reached)
      · apply Contract.Triple.bind (reached_looking.act rfl)
        intro _
        exact Contract.Triple.pure _ (fun _ _ reached => reached)

theorem publishBatchManaged_reached (n : Nat) (updateFn : Nat → Value → Option Value) :
    BookTriple transport consumerCounters passes books (opening.Reached 0 0 0 0)
      (Producer.publishBatchManaged transport n updateFn)
      (Either (opening.Reached 0 0 0 0) (fun _ => opening.Reached n n n 0)) := by
  by_cases none : n = 0
  · subst none
    apply Contract.Triple.bind Contract.Triple.get
    intro producer
    apply Contract.Triple.bind ((reached_looking.lasting.computed _).strengthen
      (fun _ _ held => held.2))
    intro last
    exact Contract.Triple.pure _ (fun _ _ reached => reached)
  · exact reached_managing.publishBatchManaged none (applyBatchUpdates_reached n updateFn)

/-! ### A request -/

theorem closed_silent (reply : ProducerReply) {producer : Producer} {world : World (plain Value)}
    (reached : opening.Reached 0 0 0 0 producer world) : opening.Closed reply producer world :=
  ⟨0, 0, reached, by split <;> rfl⟩

theorem closed_uncounted {α ε : Type} {reply : Except ε α → ProducerReply} {events : Nat}
    (unbooked : ∀ result, (reply result).booked = false) (result : Except ε α)
    {producer : Producer} {world : World (plain Value)}
    (held : Either (opening.Reached 0 0 0 0) (fun _ => opening.Reached events events events 0)
      result producer world) :
    opening.Closed (reply result) producer world := by
  cases result with
  | error error => exact closed_silent _ held
  | ok value =>
      refine ⟨events, 0, held, ?_⟩
      rw [unbooked, Bool.and_false, if_neg Bool.false_ne_true]

theorem serveProducer_closed (request : ProducerRequest Value) :
    BookTriple transport consumerCounters passes books (opening.Reached 0 0 0 0)
      (serveProducer transport request) opening.Closed := by
  have looking := @reached_looking transport Value passes consumerCounters books opening 0 0 0 0
  have silent : ∀ {α : Type} {routine : ProducerProcess (plain Value) α}
      {reply : α → ProducerReply},
      Leaves (ledger transport consumerCounters passes books) (opening.Reached 0 0 0 0) routine →
      BookTriple transport consumerCounters passes books (opening.Reached 0 0 0 0)
        (reply <$> routine) opening.Closed :=
    fun leaves => Contract.Triple.map (leaves.weaken (fun _ _ _ reached =>
      closed_silent _ reached))
  cases request with
  | tryPublish update =>
      apply Contract.Triple.map ((tryPublish_reached update).weaken _)
      intro result producer world held
      cases result with
      | error error => exact closed_silent _ held
      | ok sequence =>
          exact ⟨1, _, held, by simp only [ProducerReply.booked, Bool.and_true]⟩
  | publish update =>
      apply Contract.Triple.bind (publish_reached update)
      intro _
      apply Contract.Triple.pure
      intro producer world reached
      exact ⟨1, _, reached, by simp only [ProducerReply.booked, Bool.and_true]⟩
  | tryBatchPublish n updateFn =>
      exact Contract.Triple.map ((tryBatchPublish_reached n updateFn).weaken
        (fun result _ _ held => closed_uncounted (fun _ => rfl) result held))
  | publishWithTimeout timeout update =>
      simp only [serveProducer]
      split
      · exact Contract.Triple.map ((publishWithTimeout_reached timeout update).weaken
          (fun result _ _ held => closed_uncounted (fun _ => rfl) result held))
      · exact Contract.Triple.pure _ (fun _ _ reached => closed_silent _ reached)
  | publishManaged update =>
      exact Contract.Triple.map ((reached_managing.publishManaged
        (applyUpdate_reached update)).weaken
        (fun result _ _ held => closed_uncounted (fun _ => rfl) result held))
  | publishBatchManaged n updateFn =>
      exact Contract.Triple.map ((publishBatchManaged_reached n updateFn).weaken
        (fun result _ _ held => closed_uncounted (fun _ => rfl) result held))
  | lastPublishedSequence => exact silent (looking.act rfl)
  | minGatingSequence => exact silent looking.gatingSequence
  | isConsumed sequence => exact silent (looking.isConsumed sequence)
  | waitUntilConsumedWithStrategy sequence timeout =>
      exact silent (looking.waitUntilConsumed sequence timeout)
  | discoverConsumerId consumerId => exact silent (looking.discoverConsumerId consumerId)
  | waitForConsumerId consumerId timeout =>
      exact silent (looking.waitForConsumerId consumerId timeout)
  | consumerSequence consumerId => exact silent (looking.consumerSequence consumerId)
  | getConsumerCount => exact silent looking.bestEffortConsumerCount

/-! ### The rounds of the producer -/

def AtRest (books : Books Value) (producer : Producer) (world : World (plain Value)) : Prop :=
  ∃ opening : Opening, opening.Reached 0 0 0 0 producer world ∧
    books.Published opening.attached opening.replies opening.count

theorem booked_next {reply : ProducerReply} {events counted : Nat}
    (exact : counted = if opening.attached && reply.booked then events else 0)
    (booked : books.Published opening.attached opening.replies opening.count) :
    books.Published (opening.next reply events counted).attached
      (opening.next reply events counted).replies (opening.next reply events counted).count := by
  intro earlier start watched
  obtain ⟨attached, later, split, ascending, count⟩ := booked earlier start watched
  have total : opening.earlier = total (total 0 earlier) later := by
    change total 0 opening.replies = _
    rw [split, total_append]
  refine ⟨attached, later ++ [(opening.earlier + events, reply)], ?_, ?_, ?_⟩
  · change opening.replies ++ _ = _
    rw [split, List.append_assoc]
  · rw [ascending_append, ← total]
    exact ⟨ascending, Nat.le_add_right _ _, trivial⟩
  · rw [grown_append, ← total]
    change opening.count + counted = _
    rw [count, exact, attached, Bool.true_and]
    simp only [grown, Nat.add_sub_cancel_left, Nat.add_zero, Nat.add_assoc]

theorem reply_rests (reply : ProducerReply) :
    BookTriple transport consumerCounters passes books
      (fun producer world => opening.Closed reply producer world ∧
        books.Published opening.attached opening.replies opening.count)
      (act (.reply reply)) (fun _ => AtRest books) := by
  apply Contract.Triple.perform
  rintro producer world before ⟨⟨events, counted, reached, exact⟩, booked⟩ relied _balanced _met
  have course := Course.stable relied reached
  refine ⟨⟨?_, trivial⟩, fun oracle result after performed => ?_⟩
  · intro owner touched
    exact (Option.some.inj touched).symm
  · cases performed
    refine ⟨opening.next reply events counted, ?_, booked_next exact booked⟩
    have total : (opening.next reply events counted).earlier = opening.earlier + events := by
      change total 0 (opening.replies ++ _) = _
      rw [total_append]
      rfl
    have small : counted ≤ events := by
      rw [exact]
      split
      · exact Nat.le_refl events
      · exact Nat.zero_le events
    constructor
    · exact course.attached
    · change before.replies ++ [(before.written.length, reply)] = opening.replies ++ _
      rw [course.replies, course.written]
    · rw [total]
      exact course.written
    · rw [total]
      push_cast
      rw [Int.add_zero]
      exact course.published
    · rw [total]
      push_cast
      rw [Int.add_zero]
      exact course.sequence
    · exact course.count
    · rw [total]
      exact Nat.add_le_add course.bounded small
    · exact course.inRange

theorem atRest_rests {producer : Producer} {world : World (plain Value)}
    (rests : AtRest books producer world) : books.ProducerRests producer world := by
  obtain ⟨opening, reached, booked⟩ := rests
  have sequence := reached.sequence
  have published := reached.published
  have count := reached.count
  have bounded := reached.bounded
  have attached := reached.attached
  constructor
  · omega
  · exact reached.inRange
  · rw [reached.replies]
    exact published
  · rw [reached.replies]
    exact reached.written
  · omega
  · rw [reached.replies, attached, count]
    exact booked

theorem producerRound_rests :
    BookTriple transport consumerCounters passes books (AtRest books)
      (plainApplication transport Value consumerCounters).producerRound
      (fun _ => AtRest books) := by
  apply Contract.Triple.exists
  intro opening
  have asks : BookTriple transport consumerCounters passes books
      (fun producer world => opening.Reached 0 0 0 0 producer world ∧
        books.Published opening.attached opening.replies opening.count)
      (act .nextProducerRequest)
      (fun _ producer world => opening.Reached 0 0 0 0 producer world ∧
        books.Published opening.attached opening.replies opening.count) := by
    apply Contract.Triple.perform
    rintro producer world before ⟨reached, booked⟩ relied _balanced _met
    have course := Course.stable relied reached
    refine ⟨⟨nofun, producer, rfl, atRest_rests ⟨opening, course, booked⟩⟩,
      fun oracle result after performed => ?_⟩
    cases oracle <;> cases performed
    exact ⟨course, booked⟩
  apply Contract.Triple.bind asks
  intro request
  apply Contract.Triple.given (books.Published opening.attached opening.replies opening.count)
    (fun _ _ held => held.2)
  intro booked
  apply Contract.Triple.bind ((serveProducer_closed request).strengthen
    (fun _ _ held => held.1))
  intro reply
  exact (reply_rests reply).strengthen (fun _ _ closed => ⟨closed, booked⟩)

end Opening

theorem producerProgram_ledger {producer : Producer} {world : World (plain Value)}
    (rests : Opening.AtRest books producer world) (fuel : Nat) :
    (ledger transport consumerCounters passes books).Safe .producer fuel
      ((plainApplication transport Value consumerCounters).producerProgram producer)
      (fun _ _ => True) world :=
  Contract.Triple.forever Opening.producerRound_rests rests fuel _

/-! ### Whole runs -/

section Runs

variable {slots : Nat → Value} {producer : Producer} {attached joining : List ConsumerId}

theorem start_balanced (slots : Nat → Value) (consumers discovered : List ConsumerId) :
    ({ World.initial slots with consumers, discovered } : World (plain Value)).Balanced where
  published := by
    change InRange (-1)
    decide
  committed := fun _ => by
    change InRange (-1)
    decide
  counted := fun _ => Int.le_refl _

theorem start_ledger (fresh : producer.sequence = 0) :
    (ledger transport consumerCounters passes (Books.closed Value)).Upheld
      ((plainApplication transport Value consumerCounters).start slots producer attached
        joining) := by
  refine ⟨start_balanced slots attached _, fun party fuel => ?_⟩
  cases party with
  | producer =>
      apply producerProgram_ledger
      refine ⟨⟨producer.counters.eventsPublished, [], 0⟩, ?_, fun _ _ => nofun⟩
      constructor
      · rfl
      · rfl
      · rfl
      · rfl
      · exact fresh
      · rfl
      · exact Nat.le_refl 0
      · rw [fresh]
        decide
  | consumer consumerId =>
      simp only [Application.start]
      by_cases here : consumerId ∈ attached
      · rw [if_pos here]
        apply consumerProgram_ledger
        exact ⟨rfl, rfl, fun _ => nofun⟩
      · rw [if_neg here]
        by_cases later : consumerId ∈ joining
        · rw [if_pos later]
          exact boot_ledger rfl List.not_mem_nil fuel
        · rw [if_neg later]
          cases fuel <;> trivial

theorem restart_ledger {party : Party} {world later : World (plain Value)}
    {program : (plainApplication transport Value consumerCounters).Code}
    (unwatched : books.Unwatched party)
    (restarted : ((plainApplication transport Value consumerCounters).machine passes).restart
      party world = some (program, later)) (fuel : Nat) :
    (ledger transport consumerCounters passes books).Safe party fuel program (fun _ _ => True)
      later := by
  cases party with
  | producer => cases restarted
  | consumer consumerId =>
      simp only [Application.machine] at restarted
      split at restarted
      · rename_i there
        cases restarted
        have initialised : consumerId ∉ (world.record consumerId .crash).uninitialised := there.2
        exact boot_ledger unwatched initialised fuel
      · cases restarted

variable {moves : List (Move Party (Oracle (plain Value)))}
variable {before after : (plainApplication transport Value consumerCounters).State}

theorem run_ledger (upheld : (ledger transport consumerCounters passes books).Upheld before)
    (noCrash : ∀ consumerId, ¬ books.Unwatched (.consumer consumerId) →
      .crash (.consumer consumerId) ∉ moves)
    (ran : ((plainApplication transport Value consumerCounters).machine passes).run before
      moves = some after) :
    (ledger transport consumerCounters passes books).Upheld after := by
  have spares : ∀ party, (∃ consumerId, party = .consumer consumerId ∧
      ¬ books.Unwatched party) → .crash party ∉ moves := by
    rintro party ⟨consumerId, rfl, watched⟩
    exact noCrash consumerId watched
  apply Contract.Upheld.runSparing _ spares upheld _ _ ran
  · intro party world program later spared _balanced restarted fuel
    cases party with
    | producer => cases restarted
    | consumer consumerId =>
        apply restart_ledger (not_not.mp _) restarted fuel
        intro watched
        exact spared ⟨consumerId, rfl, watched⟩
  · exact Machine.meets_always (fun _ _ _ _ => trivial) _ _
  · exact Machine.accepts_always (fun _ _ _ _ _ => trivial) _ _

/-- One party goes on with a program that keeps the books, from now on. -/
theorem open_ledger {party : Party}
    {program : (plainApplication transport Value consumerCounters).Code}
    (upheld : (ledger transport consumerCounters passes (Books.closed Value)).Upheld before)
    (others : ∀ other, other ≠ party → books.Unwatched other)
    (safe : ∀ fuel, (ledger transport consumerCounters passes books).Safe party fuel program
      (fun _ _ => True) before.world) :
    (ledger transport consumerCounters passes books).Upheld (before.launch party program) := by
  have balanced : before.world.Balanced := upheld.invariant
  refine Contract.Upheld.exchange upheld balanced ?_ safe
  intro other different fuel program world kept
  apply kept.weaken
  · exact fun _ _ relied => relied
  · exact fun _ balanced => balanced
  · exact fun _ _ _ met => met
  · exact fun _ _ _ _ accepted => accepted
  · exact fun self action world _balanced guaranteed =>
      ⟨guaranteed.1, guaranteed.2.unwatched (others other different)⟩

theorem reached_ledger (fresh : producer.sequence = 0)
    (reached : Reaches transport passes consumerCounters slots producer attached joining moves
      before) :
    (ledger transport consumerCounters passes (Books.closed Value)).Upheld before := by
  apply run_ledger (start_ledger fresh) _ reached
  intro consumerId watched
  exact absurd rfl watched

end Runs

/-! ### A reader and a writer that are asked for their next call -/

section Example

def askedNext (state : (plainApplication transport Value consumerCounters).State) :
    Party → Option Self
  | .producer => match state.program .producer with
      | .act self .nextProducerRequest _ => some self
      | _ => none
  | .consumer consumerId => match state.program (.consumer consumerId) with
      | .act self (.nextConsumerRequest reader) _ => if reader = consumerId then some self else none
      | _ => none

theorem askedNext_producer {state : (plainApplication transport Value consumerCounters).State}
    {self : Self} (found : askedNext state .producer = some self) :
    state.AboutTo .producer self .nextProducerRequest := by
  simp only [askedNext] at found
  split at found
  · rename_i asked next placed
    cases found
    exact ⟨next, placed⟩
  · cases found

theorem askedNext_consumer {state : (plainApplication transport Value consumerCounters).State}
    {consumerId : ConsumerId} {self : Self}
    (found : askedNext state (.consumer consumerId) = some self) :
    state.AboutTo (.consumer consumerId) self (.nextConsumerRequest consumerId) := by
  simp only [askedNext] at found
  split at found
  · rename_i asked reader next placed
    split at found
    · rename_i same
      cases found
      subst same
      exact ⟨next, placed⟩
    · cases found
  · cases found

end Example

/-! ### The results -/

section Results

variable {slots : Nat → Value} {producer : Producer} {attached joining : List ConsumerId}
variable {earlier moves : List (Move Party (Oracle (plain Value)))}
variable {before after : (plainApplication transport Value consumerCounters).State}

/-- From the moment its counters are attached the counter of a consumer grows by what its
cursor grows by, between any two of its calls. -/
theorem consumed_follows_cursor {consumerId : ConsumerId} {consumer : Consumer}
    {counters : ConsumerCounters} {self : Self} (fresh : producer.sequence = 0)
    (reached : Reaches transport passes consumerCounters slots producer attached joining
      earlier before)
    (resting : before.AboutTo (.consumer consumerId) (.consumer consumer)
      (.nextConsumerRequest consumerId))
    (counting : counters.eventsConsumed = true)
    (ran : ((plainApplication transport Value consumerCounters).machine passes).run
      (before.launch (.consumer consumerId)
        ((plainApplication transport Value consumerCounters).consumerProgram
          { consumer with counters })) moves = some after)
    (uninterrupted : Move.crash (.consumer consumerId) ∉ moves)
    (outside : after.AboutTo (.consumer consumerId) self (.nextConsumerRequest consumerId)) :
    (after.world.counters (.eventsConsumed consumerId) : Int) -
        before.world.counters (.eventsConsumed consumerId) =
      after.world.consumerSequence consumerId - before.world.consumerSequence consumerId := by
  have upheld := reached_ledger fresh reached
  obtain ⟨_owned, other, same, rests⟩ := upheld.guaranteed resting trivial
  cases same
  let offset : Int := before.world.counters (.eventsConsumed consumerId) -
    before.world.consumerSequence consumerId
  let books := Books.ofConsumer Value consumerId offset
  have watched : books.consumed consumerId = some offset := if_pos rfl
  have others : ∀ party, party ≠ .consumer consumerId → books.Unwatched party := by
    intro party different
    cases party with
    | producer => rfl
    | consumer reader =>
        apply if_neg
        rintro rfl
        exact different rfl
  have starts : books.ConsumerRests consumerId { consumer with counters } before.world := by
    refine ⟨rests.named, rests.lastProcessedSequence, ?_⟩
    intro ahead here
    have exact : offset = ahead := Option.some.inj (watched.symm.trans here)
    refine ⟨counting, ?_⟩
    rw [← exact]
    change (before.world.counters (.eventsConsumed consumerId) : Int) =
      before.world.consumerSequence consumerId + offset
    omega
  have opened := open_ledger upheld others (consumerProgram_ledger starts)
  have spared : ∀ reader, ¬ books.Unwatched (.consumer reader) →
      Move.crash (.consumer reader) ∉ moves := by
    intro reader isWatched
    by_cases same : reader = consumerId
    · rw [same]
      exact uninterrupted
    · exact absurd (others (.consumer reader) (fun equal => same (Party.consumer.inj equal)))
        isWatched
  have finished := run_ledger opened spared ran
  obtain ⟨_owned, last, _same, ends⟩ := finished.guaranteed outside trivial
  obtain ⟨_attached, exact⟩ := ends.booked offset watched
  rw [exact]
  omega

def oneCounted : List (Move Party (Oracle (plain Nat))) :=
  byProducer [.silent, .producerRequest (.publish fun _ => some 7), .silent, .silent, .silent,
    .silent] ++
  byConsumer "reader" [.silent, .consumerRequest .tryConsumeNext, .silent, .silent, .silent,
    .silent, .silent, .silent]

theorem consumed_follows_cursor_reader : ∃ before after, ∃ (consumer : Consumer) (self : Self),
    Reaches oneSlot .mayFail noCounters (fun _ => (0 : Nat)) (knowing oneSlot ["reader"])
      ["reader"] [] (byConsumer "reader" [.silent]) before ∧
    ((plainApplication oneSlot Nat noCounters).machine .mayFail).run
      (before.launch (.consumer "reader")
        ((plainApplication oneSlot Nat noCounters).consumerProgram
          { consumer with counters := ⟨true, false, false⟩ })) oneCounted = some after ∧
    after.AboutTo (.consumer "reader") self (.nextConsumerRequest "reader") ∧
    after.world.consumerSequence "reader" = 0 ∧
    (after.world.counters (.eventsConsumed "reader") : Int) -
        before.world.counters (.eventsConsumed "reader") =
      after.world.consumerSequence "reader" - before.world.consumerSequence "reader" := by
  have found : (((plainApplication oneSlot Nat noCounters).machine .mayFail).run
      ((plainApplication oneSlot Nat noCounters).start (fun _ => (0 : Nat))
        (knowing oneSlot ["reader"]) ["reader"] []) (byConsumer "reader" [.silent])).any
          (fun before => (askedNext before (.consumer "reader")).any fun
        | .consumer consumer =>
            (((plainApplication oneSlot Nat noCounters).machine .mayFail).run
              (before.launch (.consumer "reader")
                ((plainApplication oneSlot Nat noCounters).consumerProgram
                  { consumer with counters := ⟨true, false, false⟩ })) oneCounted).any
              fun after => (askedNext after (.consumer "reader")).isSome &&
                decide (after.world.consumerSequence "reader" = 0)
        | _ => false) = true := by
    decide +kernel
  obtain ⟨before, reached, found⟩ := (Option.any_eq_true _ _).mp found
  obtain ⟨asked, resting, found⟩ := (Option.any_eq_true _ _).mp found
  cases asked with
  | producer producer => cases found
  | attaching consumerId => cases found
  | consumer consumer =>
      obtain ⟨after, ran, found⟩ := (Option.any_eq_true _ _).mp found
      obtain ⟨outside, stands⟩ := Bool.and_eq_true_iff.mp found
      obtain ⟨self, outside⟩ := Option.isSome_iff_exists.mp outside
      have about := askedNext_consumer outside
      refine ⟨before, after, consumer, self, reached, ran, about, of_decide_eq_true stands, ?_⟩
      exact consumed_follows_cursor rfl reached (askedNext_consumer resting) rfl ran
        (by simp [oneCounted]) about

/-- The counter of a producer grows by what its cursor grows by, from the moment it is
attached, just as long as no call for a batch, with a timeout or with required consumers
publishes an event. -/
theorem published_follows_cursor_iff {resting : Producer} {counters : ProducerCounters}
    {self : Self} (fresh : producer.sequence = 0)
    (reached : Reaches transport passes consumerCounters slots producer attached joining
      earlier before)
    (asked : before.AboutTo .producer (.producer resting) .nextProducerRequest)
    (counting : counters.eventsPublished = true)
    (ran : ((plainApplication transport Value consumerCounters).machine passes).run
      (before.launch .producer
        ((plainApplication transport Value consumerCounters).producerProgram
          { resting with counters })) moves = some after)
    (outside : after.AboutTo .producer self .nextProducerRequest) :
    (after.world.counters .eventsPublished : Int) - before.world.counters .eventsPublished =
        after.world.producerSequence - before.world.producerSequence ↔
      AllMeet ProducerReply.booked (total 0 before.world.replies)
        (after.world.replies.drop before.world.replies.length) := by
  have upheld := reached_ledger fresh reached
  obtain ⟨_owned, other, same, rests⟩ := upheld.guaranteed asked trivial
  cases same
  let books := Books.ofProducer Value before.world.replies (before.world.counters .eventsPublished)
  have others : ∀ party, party ≠ .producer → books.Unwatched party := by
    intro party different
    cases party with
    | producer => exact absurd rfl different
    | consumer reader => rfl
  have published := rests.published
  have count := rests.count
  have starts : Opening.AtRest books { resting with counters } before.world := by
    refine ⟨⟨true, before.world.replies, before.world.counters .eventsPublished⟩, ?_, ?_⟩
    · constructor
      · exact counting
      · rfl
      · exact rests.written
      · exact published
      · exact rests.sequence.trans published
      · rfl
      · change before.world.counters .eventsPublished ≤ total 0 before.world.replies
        omega
      · exact rests.inRange
    · intro noted start watched
      cases watched
      exact ⟨rfl, [], (List.append_nil _).symm, trivial, rfl⟩
  have opened := open_ledger upheld others (producerProgram_ledger starts)
  have finished := run_ledger opened (fun reader watched => absurd rfl watched) ran
  obtain ⟨_owned, last, _same, ends⟩ := finished.guaranteed outside trivial
  obtain ⟨_attached, later, whole, ascending, exact⟩ := ends.booked _ _ rfl
  have final := ends.published
  rw [whole, total_append] at final
  rw [whole, List.drop_left, ← grown_eq_iff _ _ ascending, exact]
  omega

abbrev callOf (request : ProducerRequest Nat) : List (Move Party (Oracle (plain Nat))) :=
  byProducer [.silent, .producerRequest request, .silent, .silent, .silent, .silent]

/-- The call, from where the counter is attached to where the next call is asked for. -/
def Wrote (before after : (plainApplication oneSlot Nat noCounters).State)
    (resting : Producer) (self : Self) (moves : List (Move Party (Oracle (plain Nat)))) : Prop :=
  Reaches oneSlot .mayFail noCounters (fun _ => (0 : Nat)) (knowing oneSlot ["reader"])
    ["reader"] [] (byProducer [.silent]) before ∧
  before.AboutTo .producer (.producer resting) .nextProducerRequest ∧
  ((plainApplication oneSlot Nat noCounters).machine .mayFail).run
    (before.launch .producer ((plainApplication oneSlot Nat noCounters).producerProgram
      { resting with counters := ⟨true, false⟩ })) moves = some after ∧
  after.AboutTo .producer self .nextProducerRequest

def wroteOne (moves : List (Move Party (Oracle (plain Nat))))
    (check : World (plain Nat) → World (plain Nat) → Bool) : Bool :=
  (((plainApplication oneSlot Nat noCounters).machine .mayFail).run
    ((plainApplication oneSlot Nat noCounters).start (fun _ => (0 : Nat))
      (knowing oneSlot ["reader"]) ["reader"] []) (byProducer [.silent])).any fun before =>
  (askedNext before .producer).any fun
    | .producer resting =>
        (((plainApplication oneSlot Nat noCounters).machine .mayFail).run
          (before.launch .producer ((plainApplication oneSlot Nat noCounters).producerProgram
            { resting with counters := ⟨true, false⟩ })) moves).any
          fun after => (askedNext after .producer).isSome && check before.world after.world
    | _ => false

theorem wrote_of_wroteOne {moves : List (Move Party (Oracle (plain Nat)))}
    {check : World (plain Nat) → World (plain Nat) → Bool} (found : wroteOne moves check = true) :
    ∃ before after resting self, Wrote before after resting self moves ∧
      check before.world after.world = true := by
  obtain ⟨before, reached, found⟩ := (Option.any_eq_true _ _).mp found
  obtain ⟨asked, resting, found⟩ := (Option.any_eq_true _ _).mp found
  cases asked with
  | consumer consumer => cases found
  | attaching consumerId => cases found
  | producer producer =>
      obtain ⟨after, ran, found⟩ := (Option.any_eq_true _ _).mp found
      obtain ⟨outside, checked⟩ := Bool.and_eq_true_iff.mp found
      obtain ⟨self, outside⟩ := Option.isSome_iff_exists.mp outside
      exact ⟨before, after, producer, self, ⟨reached, askedNext_producer resting, ran,
        askedNext_producer outside⟩, checked⟩

theorem published_follows_cursor_single : ∃ before after resting self,
    Wrote before after resting self
      (callOf (.publish fun _ => some 7) ++ byProducer [.silent, .silent]) ∧
    after.world.producerSequence = 0 ∧
    (after.world.counters .eventsPublished : Int) - before.world.counters .eventsPublished =
      after.world.producerSequence - before.world.producerSequence := by
  obtain ⟨before, after, resting, self, wrote, checked⟩ := wrote_of_wroteOne
    (show wroteOne (callOf (.publish fun _ => some 7) ++ byProducer [.silent, .silent])
      (fun before after => decide (after.producerSequence = 0) &&
        (after.replies.drop before.replies.length).all (fun entry => entry.2.booked)) = true by
      decide +kernel)
  obtain ⟨published, booked⟩ := Bool.and_eq_true_iff.mp checked
  refine ⟨before, after, resting, self, wrote, of_decide_eq_true published, ?_⟩
  obtain ⟨reached, asked, ran, outside⟩ := wrote
  apply (published_follows_cursor_iff rfl reached asked rfl ran outside).mpr
  exact allMeet_of_all _ (List.all_eq_true.mp booked)

/-- A batch of one event is published, and the counter stays where it was. -/
theorem batch_not_counted : ∃ before after resting self,
    Wrote before after resting self (callOf (.tryBatchPublish 1 fun _ _ => some 7)) ∧
    (after.world.counters .eventsPublished : Int) - before.world.counters .eventsPublished ≠
      after.world.producerSequence - before.world.producerSequence := by
  obtain ⟨before, after, resting, self, wrote, checked⟩ := wrote_of_wroteOne
    (show wroteOne (callOf (.tryBatchPublish 1 fun _ _ => some 7))
      (fun before after => decide ((after.counters .eventsPublished : Int) -
        before.counters .eventsPublished ≠ after.producerSequence - before.producerSequence)) =
        true by
      decide +kernel)
  exact ⟨before, after, resting, self, wrote, of_decide_eq_true checked⟩

end Results

end Ring
