/-
What every operation of the producer establishes.

A reservation that succeeds leaves room up to its last sequence before every
gated consumer, and one that fails says who was behind. With room the producer
may write, and what it has written becomes visible in one store.
-/

import Myelon.Ring.BarrierTriples

namespace Ring

open Interleaving Delivery

variable {transport : Transport} {application : Application transport}
variable {policy : Policy application} {α : Type}
variable {written : List application.interface.Value}
variable {replies : List (Nat × application.interface.ProducerReply)} {low : Int}

namespace Policy

/-! ### Reservation -/

/-- The slot of the sequence is free of every gated consumer. -/
def Room (policy : Policy application) (sequence : Int) (producer : Producer)
    (world : World application.interface) : Prop :=
  ∀ consumerId, policy.gated producer.consumerBarrier consumerId →
    sequence ≤ world.consumerSequence consumerId + transport.ring.size

theorem room_stable {sequence : Int} : ProducerStable (policy.Room sequence) := by
  intro producer before after relied room consumerId gated
  have further := relied.consumerSequence consumerId
  have free := room consumerId gated
  omega

theorem freeSlots_triple {pre : Producer → World application.interface → Prop}
    (stable : ProducerStable pre) (lastPublished rear : Int) :
    policy.ProducerTriple pre (Producer.freeSlots transport lastPublished rear)
      (fun free producer world => free = rear - lastPublished + transport.ring.size ∧
        pre producer world) := by
  refine Contract.Triple.bind (producer_checked stable) (fun wrapPoint => ?_)
  refine Contract.Triple.assume (fun _ _ held => held.1) (fun same => ?_)
  refine ((producer_checked stable).strengthen (fun _ _ held => held.2.2)).weaken
    (fun free _ _ held => ⟨?_, held.2.2⟩)
  rw [held.1, same]
  exact transport.ring.freeSlots_eq lastPublished rear

theorem refreshClearanceWindow_triple (n : Int) :
    policy.ProducerTriple (policy.Resting written replies low)
      (Producer.refreshClearanceWindow transport n)
      (fun result producer world => policy.Resting written replies low producer world ∧
        match result with
        | .ok () => policy.Room (written.length - 1 + n) producer world
        | .error _ => low + transport.ring.size < written.length - 1 + n) := by
  refine Contract.Triple.bind producer_get (fun before => ?_)
  refine Contract.Triple.given (before.sequence = written.length) ?_ (fun here => ?_)
  · rintro producer world ⟨rfl, resting⟩
    rw [resting.settled.sequence, resting.written]
  refine Contract.Triple.bind ((producer_checked resting_stable).strengthen
    (fun _ _ held => held.2)) (fun lastPublished => ?_)
  refine Contract.Triple.assume (fun _ _ held => held.1) (fun last => ?_)
  refine Contract.Triple.bind (gatingSequence_triple.strengthen
    (fun _ _ held => held.2.2)) (fun rear => ?_)
  refine Contract.Triple.bind (freeSlots_triple gating_stable lastPublished rear)
    (fun free => ?_)
  refine Contract.Triple.assume (fun _ _ held => held.1) (fun counted => ?_)
  have total : free = rear - written.length + 1 + transport.ring.size := by omega
  split
  · refine Contract.Triple.bind ((producer_checked gating_stable).strengthen
      (fun _ _ held => held.2)) (fun missing => ?_)
    refine Contract.Triple.pure _ ?_
    rintro producer world ⟨_missing, _inRange, resting, _behind, above⟩
    exact ⟨resting, by omega⟩
  · refine Contract.Triple.bind ((producer_checked gating_stable).strengthen
      (fun _ _ held => held.2)) (fun cleared => ?_)
    rintro producer world ⟨same, _inRange, resting, behind, _above⟩ fuel
    cases fuel with
    | zero => trivial
    | succ fuel =>
        have clear : ∀ consumerId, policy.gated producer.consumerBarrier consumerId →
            cleared ≤ world.consumerSequence consumerId + transport.ring.size := by
          intro consumerId gated
          have bound := behind consumerId gated
          omega
        refine ⟨{ resting with settled := { resting.settled with cleared := ?_ } }, ?_⟩
        · exact fun consumerId gated => .inr (clear consumerId gated)
        · intro consumerId gated
          have bound := clear consumerId gated
          change (written.length : Int) - 1 + n ≤ _
          omega

theorem updateMinConsumerClearanceWindow_triple (n : Int) (positive : 0 < n) :
    policy.ProducerTriple (policy.Resting written replies low)
      (Producer.updateMinConsumerClearanceWindow transport n (written.length - 1 + n))
      (fun result producer world => policy.Resting written replies low producer world ∧
        match result with
        | .ok () => policy.Room (written.length - 1 + n) producer world
        | .error _ => low + transport.ring.size < written.length - 1 + n) := by
  refine Contract.Triple.bind producer_get (fun before => ?_)
  split
  · rename_i enough
    refine Contract.Triple.pure _ ?_
    rintro producer world ⟨rfl, resting⟩
    refine ⟨resting, fun consumerId gated => ?_⟩
    have here := resting.settled.sequence
    rw [resting.written] at here
    rcases resting.settled.cleared consumerId gated with used | clear
    · omega
    · omega
  · exact (refreshClearanceWindow_triple n).strengthen (fun _ _ held => held.2)

def Refused (transport : Transport) (length low : Int) (n : Nat) : Prop :=
  low + transport.ring.size < length - 1 + n ∨ ¬ InRange n ∨ ¬ InRange (length - 1 + n)

theorem nextSequences_triple (n : Nat) :
    policy.ProducerTriple (policy.Resting written replies low)
      (Producer.nextSequences transport n)
      (fun result producer world => policy.Resting written replies low producer world ∧
        match result with
        | .ok nNext => 0 < n ∧ nNext = written.length - 1 + n ∧
            policy.Room (written.length - 1 + n) producer world
        | .error _ => Refused transport written.length low n) := by
  unfold Producer.nextSequences
  split
  · rename_i inRange
    refine Contract.Triple.bind (producer_expect resting_stable) (fun _ => ?_)
    refine Contract.Triple.assume (fun _ _ held => held.1) (fun positive => ?_)
    refine Contract.Triple.bind (producer_get.strengthen (fun _ _ held => held.2))
      (fun before => ?_)
    refine Contract.Triple.given
      (before.sequence = written.length ∧ (written.length : Int) < 2 ^ 63) ?_
      (fun here => ?_)
    · rintro producer world ⟨rfl, resting⟩
      have bound := resting.settled.inRange
      rw [resting.settled.sequence, resting.written] at *
      exact ⟨rfl, by omega⟩
    have current : InRange (before.sequence + -1) := by
      unfold InRange
      omega
    unfold Producer.lastReservedSequence checkedAdd
    rw [if_pos current, Option.bind_some]
    split
    · rename_i none
      split at none
      · cases none
      · rename_i overflow
        refine Contract.Triple.pure _ (fun _ _ held => ⟨held.2, .inr (.inr ?_)⟩)
        rw [here.1] at overflow
        exact overflow
    · rename_i nNext some
      split at some
      · cases some
        have same : before.sequence + -1 + (n : Int) = written.length - 1 + n := by omega
        rw [same]
        refine Contract.Triple.bind ((updateMinConsumerClearanceWindow_triple n
          (Int.natCast_pos.mpr positive)).strengthen (fun _ _ held => held.2)) (fun cleared => ?_)
        cases cleared with
        | error missing =>
            exact Contract.Triple.pure _ (fun _ _ held => ⟨held.1, .inl held.2⟩)
        | ok cleared =>
            exact Contract.Triple.pure _ (fun _ _ held => ⟨held.1, positive, rfl, held.2⟩)
      · cases some
  · rename_i tooMany
    exact Contract.Triple.pure _ (fun _ _ held => ⟨held, .inr (.inl tooMany)⟩)

/-! ### Publication -/

/-- Some events are written behind the visible ones, and there is room up to a sequence. -/
structure Publishing (policy : Policy application)
    (visible more : List application.interface.Value)
    (replies : List (Nat × application.interface.ProducerReply)) (low upper : Int)
    (producer : Producer) (world : World application.interface) : Prop where
  /-- With the events that are not visible left out, the producer rests. -/
  resting : policy.Resting visible replies low producer { world with written := visible }
  written : world.written = visible ++ more
  room : policy.Room upper producer world

theorem publishing_stable {visible more : List application.interface.Value} {upper : Int} :
    ProducerStable (policy.Publishing visible more replies low upper) := by
  intro producer before after relied publishing
  refine ⟨?_, relied.written.trans publishing.written,
    room_stable producer before after relied publishing.room⟩
  refine resting_stable producer { before with written := visible } _ ?_ publishing.resting
  exact ⟨relied.producerSequence, rfl, relied.replies, relied.discovered, relied.consumers,
    relied.consumerSequence⟩

theorem Resting.publishing {upper : Int} {producer : Producer}
    {world : World application.interface}
    (resting : policy.Resting written replies low producer world)
    (room : policy.Room upper producer world) :
    policy.Publishing written [] replies low upper producer world := by
  obtain rfl := resting.written
  exact ⟨resting, (List.append_nil _).symm, room⟩

theorem get_triple {pre : Producer → World application.interface → Prop}
    (stable : ProducerStable pre) (sequence : Int) :
    policy.ProducerTriple pre (transport.ring.get sequence)
      (fun slot producer world => slot = transport.ring.index sequence ∧ pre producer world) := by
  refine Contract.Triple.bind (producer_expect stable) (fun _ => ?_)
  exact Contract.Triple.pure _ (fun _ _ held => ⟨rfl, held.2⟩)

theorem writeSlot_triple (visible more : List application.interface.Value) (upper : Int)
    {update : application.interface.Value → Option application.interface.Value}
    (within : ((visible.length + more.length : Nat) : Int) ≤ upper) :
    policy.ProducerTriple (policy.Publishing visible more replies low upper)
      (Producer.writeSlot transport (visible.length + more.length : Nat) update)
      (fun _ producer world => ∃ old value, update old = some value ∧
        policy.Publishing visible (more ++ [value]) replies low upper producer world) := by
  refine Contract.Triple.bind (get_triple publishing_stable _) (fun slot => ?_)
  refine Contract.Triple.assume (fun _ _ held => held.1) (fun same => ?_)
  subst same
  refine Contract.Triple.perform ?_
  rintro producer world before ⟨_, publishing⟩ relied _holds _met
  have here := publishing_stable producer world before relied publishing
  have free : ∀ consumerId, policy.gated producer.consumerBarrier consumerId →
      ((visible.length + more.length : Nat) : Int) ≤
        before.consumerSequence consumerId + transport.ring.size := by
    intro consumerId gated
    have room := here.room consumerId gated
    omega
  refine ⟨⟨?_, rfl, fun consumerId observed =>
    free consumerId (here.resting.settled.observes consumerId observed),
    producer, rfl, here.resting.settled.discovered, free⟩, ?_⟩
  · rw [here.written, List.length_append]
  · intro oracle result after performed
    simp only [Application.machine, perform] at performed
    split at performed
    · cases performed
    · rename_i value filled
      cases performed
      refine ⟨_, value, filled, ?_, ?_, here.room⟩
      · have settled := here.resting.settled
        exact {
          settled :=
            { sequence := settled.sequence
              published := settled.published
              inRange := settled.inRange
              observes := settled.observes
              cleared := settled.cleared
              known := settled.known
              discovered := settled.discovered }
          written := rfl
          replies := here.resting.replies
          floor := here.resting.floor
          lowJoined := here.resting.lowJoined
          lowPublished := here.resting.lowPublished
          lowKnown := here.resting.lowKnown }
      · change before.written ++ [value] = _
        rw [here.written, List.append_assoc]

theorem storeSequence_triple (visible more : List application.interface.Value) (upper : Int)
    (nonempty : 0 < more.length) :
    policy.ProducerTriple (policy.Publishing visible more replies low upper)
      (Producer.storeSequence ((visible.length + more.length : Nat) - 1) more.length)
      (fun _ => policy.Resting (visible ++ more) replies low) := by
  refine Contract.Triple.through (fun _ (producer : Producer) world =>
    producer.sequence = visible.length ∧
    (InRange (visible.length + more.length : Nat) → policy.Resting (visible ++ more) replies low
      { producer with sequence := (visible.length + more.length : Nat) } world)) ?_ (fun _ => ?_)
  · refine Contract.Triple.perform ?_
    rintro producer world before publishing relied _holds _met
    have here := publishing_stable producer world before relied publishing
    have settled := here.resting.settled
    have published : before.producerSequence + 1 = visible.length := settled.published
    have lowPublished : low ≤ before.producerSequence := here.resting.lowPublished
    refine ⟨⟨?_, ?_⟩, ?_⟩
    · rw [here.written, List.length_append]
      omega
    · omega
    · intro oracle result after performed
      cases performed
      refine ⟨settled.sequence, fun inRange => ?_⟩
      have sequence : producer.sequence = visible.length := settled.sequence
      exact {
        settled :=
          { sequence := by
              change _ = ((before.written.length : Nat) : Int)
              rw [here.written, List.length_append]
            published := by
              change ((visible.length + more.length : Nat) : Int) - 1 + 1 = _
              rw [here.written, List.length_append]
              omega
            inRange := by
              change before.written.length < 2 ^ 63
              rw [here.written, List.length_append]
              have bound := inRange.2
              omega
            observes := settled.observes
            cleared := by
              intro consumerId gated
              rcases settled.cleared consumerId gated with used | clear
              · refine .inl ?_
                change producer.sequenceClearOfConsumers <
                  ((visible.length + more.length : Nat) : Int)
                omega
              · exact .inr clear
            known := settled.known
            discovered := settled.discovered }
        written := here.written
        replies := here.resting.replies
        floor := here.resting.floor
        lowJoined := here.resting.lowJoined
        lowPublished := by
          change low ≤ ((visible.length + more.length : Nat) : Int) - 1
          omega
        lowKnown := here.resting.lowKnown }
  · refine Contract.Triple.bind producer_get (fun current => ?_)
    refine Contract.Triple.given (current.sequence = visible.length) ?_ (fun here => ?_)
    · rintro producer world ⟨rfl, sequence, _⟩
      exact sequence
    have total : current.sequence + (more.length : Int) = (visible.length + more.length : Nat) := by
      omega
    rw [total]
    refine Contract.Triple.through (fun next (producer : Producer) world =>
      next = ((visible.length + more.length : Nat) : Int) ∧
      policy.Resting (visible ++ more) replies low
        { producer with sequence := (visible.length + more.length : Nat) } world) ?_
      (fun next => ?_)
    · refine ((producer_checked ?_).strengthen
        (fun _ _ held => held.2.2)).weaken ?_
      · intro producer before after relied held inRange
        exact resting_stable _ before after relied (held inRange)
      · rintro next producer world ⟨rfl, inRange, held⟩
        exact ⟨rfl, held inRange⟩
    · rintro producer world ⟨rfl, resting⟩ fuel
      cases fuel with
      | zero => trivial
      | succ fuel => exact resting

def Filled {Value : Type} (updateFn : Nat → Value → Option Value) (n : Nat)
    (values : List Value) : Prop :=
  values.length = n ∧ ∀ (i : Nat) value, values[i]? = some value →
    ∃ old, updateFn i old = some value

theorem filled_snoc {Value : Type} {updateFn : Nat → Value → Option Value} {n : Nat}
    {values : List Value} {old value : Value} (filled : Filled updateFn n values)
    (last : updateFn n old = some value) : Filled updateFn (n + 1) (values ++ [value]) := by
  obtain ⟨length, each⟩ := filled
  refine ⟨by rw [List.length_append, length, List.length_singleton], ?_⟩
  intro i other found
  by_cases earlier : i < values.length
  · rw [List.getElem?_append_left earlier] at found
    exact each i other found
  · rw [List.getElem?_append_right (by omega), List.getElem?_singleton] at found
    split at found
    · cases found
      have same : i = n := by omega
      exact ⟨old, same ▸ last⟩
    · cases found

def Extended (policy : Policy application) (written : List application.interface.Value)
    (replies : List (Nat × application.interface.ProducerReply)) (low : Int)
    (updateFn : Nat → application.interface.Value → Option application.interface.Value)
    (n : Nat) (producer : Producer) (world : World application.interface) : Prop :=
  ∃ values, Filled updateFn n values ∧
    policy.Resting (written ++ values) replies low producer world

theorem extended_stable
    {updateFn : Nat → application.interface.Value → Option application.interface.Value}
    {n : Nat} : ProducerStable (policy.Extended written replies low updateFn n) := by
  rintro producer before after relied ⟨values, filled, resting⟩
  exact ⟨values, filled, resting_stable producer before after relied resting⟩

theorem applyUpdate_triple
    (update : application.interface.Value → Option application.interface.Value) :
    policy.ProducerTriple
      (fun producer world => policy.Resting written replies low producer world ∧
        policy.Room (written.length - 1 + 1) producer world)
      (Producer.applyUpdate transport update)
      (fun sequence producer world => sequence = written.length ∧
        policy.Extended written replies low (fun _ => update) 1 producer world) := by
  refine Contract.Triple.bind producer_get (fun before => ?_)
  refine Contract.Triple.given (before.sequence = (written.length + 0 : Nat)) ?_
    (fun here => ?_)
  · rintro producer world ⟨rfl, resting, _room⟩
    rw [resting.settled.sequence, resting.written, Nat.add_zero]
  have stable : ProducerStable (policy.Publishing written [] replies low
    (written.length - 1 + 1)) := publishing_stable
  refine Contract.Triple.bind ((producer_expect stable).strengthen
    (fun _ _ held => held.2.1.publishing held.2.2)) (fun _ => ?_)
  rw [here]
  have within : ((written.length + ([] : List application.interface.Value).length : Nat) : Int) ≤
      written.length - 1 + 1 := by
    rw [List.length_nil]
    omega
  refine Contract.Triple.bind ((writeSlot_triple written [] _ within).strengthen
    (fun _ _ held => held.2)) (fun _ => ?_)
  refine Contract.Triple.exists (fun old => Contract.Triple.exists (fun value => ?_))
  refine Contract.Triple.assume (fun _ _ held => held.1) (fun filled => ?_)
  refine Contract.Triple.through (fun _ => policy.Resting (written ++ [value]) replies low)
    ?_ (fun _ => Contract.Triple.pure _
      (fun _ _ resting => ⟨by omega, [value], ⟨rfl, ?_⟩, resting⟩))
  · have last : ((written.length + 0 : Nat) : Int) =
        ((written.length + [value].length : Nat) : Int) - 1 := by
      rw [List.length_singleton]
      omega
    rw [last]
    exact (storeSequence_triple written [value] _ Nat.zero_lt_one).strengthen
      (fun _ _ held => held.2)
  · intro i other found
    rw [List.getElem?_singleton] at found
    split at found
    · cases found
      exact ⟨old, filled⟩
    · cases found

theorem applyBatchUpdates_triple (n : Nat)
    (updateFn : Nat → application.interface.Value → Option application.interface.Value) :
    policy.ProducerTriple
      (fun producer world => policy.Resting written replies low producer world ∧
        policy.Room (written.length - 1 + n) producer world)
      (Producer.applyBatchUpdates transport n updateFn)
      (fun _ => policy.Extended written replies low updateFn n) := by
  have stable : ProducerStable (policy.Publishing written [] replies low
    (written.length - 1 + n)) := publishing_stable
  refine Contract.Triple.bind ((producer_expect stable).strengthen
    (fun _ _ held => held.1.publishing held.2)) (fun _ => ?_)
  refine Contract.Triple.assume (fun _ _ held => held.1) (fun positive => ?_)
  refine Contract.Triple.bind ((producer_expect stable).strengthen
    (fun _ _ held => held.2)) (fun _ => ?_)
  refine Contract.Triple.bind (producer_get.strengthen (fun _ _ held => held.2))
    (fun before => ?_)
  refine Contract.Triple.given (before.sequence = written.length) ?_ (fun here => ?_)
  · rintro producer world ⟨rfl, publishing⟩
    exact publishing.resting.settled.sequence
  refine Contract.Triple.bind ((producer_checked stable).strengthen
    (fun _ _ held => held.2)) (fun last => ?_)
  refine Contract.Triple.assume (fun _ _ held => held.1) (fun same => ?_)
  -- while a suffix of the range is left, the slots before it are filled
  refine Contract.Triple.through (fun _ (producer : Producer) world => ∃ values,
    Filled updateFn n values ∧
      policy.Publishing written values replies low (written.length - 1 + n) producer world)
    ?_ (fun _ => ?_)
  · refine (Contract.Triple.eachOf (fun rest (producer : Producer) world => ∃ done values,
        done + rest.length = n ∧ rest = List.range' done rest.length ∧
        Filled updateFn done values ∧
        policy.Publishing written values replies low (written.length - 1 + n) producer world)
      (List.range n) ?_).conseq ?_ ?_
    rotate_left
    · rintro producer world ⟨_, _, publishing⟩
      refine ⟨0, [], by rw [List.length_range, Nat.zero_add], ?_, ⟨rfl, ?_⟩, publishing⟩
      · rw [List.length_range, List.range_eq_range']
      · intro i value found
        cases found
    · rintro _ producer world ⟨done, values, total, _, filled, publishing⟩
      rw [List.length_nil, Nat.add_zero] at total
      exact ⟨values, total ▸ filled, publishing⟩
    · intro item rest
      refine Contract.Triple.exists (fun done => Contract.Triple.exists (fun values => ?_))
      refine Contract.Triple.given (done + (rest.length + 1) = n ∧ item = done ∧
        rest = List.range' (done + 1) rest.length ∧ Filled updateFn done values) ?_
        (fun facts => ?_)
      · rintro producer world ⟨total, range, filled, _⟩
        rw [List.length_cons, List.range'_succ, List.cons.injEq] at range
        exact ⟨total, range.1, range.2, filled⟩
      obtain ⟨total, rfl, range, filled⟩ := facts
      have number : before.sequence + (item : Int) = (written.length + values.length : Nat) := by
        rw [here, filled.1]
        omega
      rw [number]
      refine (writeSlot_triple written values _ (by rw [filled.1]; omega)).conseq
        (fun _ _ held => held.2.2.2) ?_
      rintro _ producer world ⟨old, value, stored, publishing⟩
      exact ⟨item + 1, values ++ [value], by omega, range, filled_snoc filled stored, publishing⟩
  · refine Contract.Triple.exists (fun values => ?_)
    refine Contract.Triple.assume (fun _ _ held => held.1) (fun filled => ?_)
    have stop : last = ((written.length + values.length : Nat) : Int) - 1 := by
      rw [same, here, filled.1]
      omega
    have count : n = values.length := filled.1.symm
    refine Contract.Triple.through (fun _ => policy.Resting (written ++ values) replies low)
      ?_ (fun _ => Contract.Triple.pure _ (fun _ _ resting => ⟨values, filled, resting⟩))
    rw [stop, count]
    exact (storeSequence_triple written values _ (by rw [filled.1]; exact positive)).strengthen
      (fun _ _ held => held.2)

/-! ### The rest of the private state -/

theorem producer_modify {change : Producer → Producer}
    (same : ∀ producer, (change producer).consumerBarrier = producer.consumerBarrier ∧
      (change producer).sequence = producer.sequence ∧
      (change producer).sequenceClearOfConsumers = producer.sequenceClearOfConsumers) :
    policy.ProducerTriple (policy.Resting written replies low)
      (modifyGet fun producer => ((), change producer))
      (fun _ => policy.Resting written replies low) := by
  intro producer world resting fuel
  cases fuel with
  | zero => trivial
  | succ fuel =>
      obtain ⟨barrier, sequence, clear⟩ := same producer
      have settled := resting.settled
      exact {
        settled :=
          { sequence := sequence.trans settled.sequence
            published := settled.published
            inRange := settled.inRange
            observes := by rw [barrier]; exact settled.observes
            cleared := by
              unfold Cleared
              rw [barrier, sequence, clear]
              exact settled.cleared
            known := by rw [barrier]; exact settled.known
            discovered := by rw [barrier]; exact settled.discovered }
        written := resting.written
        replies := resting.replies
        floor := resting.floor
        lowJoined := resting.lowJoined
        lowPublished := resting.lowPublished
        lowKnown := by rw [barrier]; exact resting.lowKnown }

theorem setLiveness_triple (state : RequiredConsumerLivenessState) :
    policy.ProducerTriple (policy.Resting written replies low) (Producer.setLiveness state)
      (fun _ => policy.Resting written replies low) :=
  producer_modify (fun _ => ⟨rfl, rfl, rfl⟩)

theorem count_triple {pre : Producer → World application.interface → Prop}
    (stable : ProducerStable pre) (attached : Bool) (counter : Counter) :
    policy.ProducerTriple pre (Producer.count attached counter) (fun _ => pre) :=
  producer_onlyIf (producer_idle stable rfl)

theorem pause_triple :
    policy.ProducerTriple (policy.Resting written replies low) (act .pause)
      (fun _ => policy.Resting written replies low) := by
  refine Contract.Triple.perform ?_
  intro producer world before resting relied _holds _met
  have here := resting_stable producer world before relied resting
  refine ⟨⟨producer, rfl, here.settled⟩, ?_⟩
  intro oracle result after performed
  cases performed
  exact here

/-! ### Liveness -/

theorem missingRequiredConsumers_triple (consumerIds : List ConsumerId) :
    policy.ProducerTriple (policy.Resting written replies low)
      (RequiredConsumerLivenessState.missingRequiredConsumers
        ConsumerBarrier.discoverConsumerId consumerIds)
      (fun _ => policy.Resting written replies low) := by
  induction consumerIds with
  | nil => exact Contract.Triple.pure _ (fun _ _ held => held)
  | cons consumerId rest ih =>
      refine Contract.Triple.bind (discoverConsumerId_triple consumerId) (fun present => ?_)
      refine Contract.Triple.bind (ih.strengthen (fun _ _ held => held.1)) (fun missing => ?_)
      exact Contract.Triple.pure _ (fun _ _ held => held)

theorem seedProgress_triple (now : Nat) (consumerIds : List ConsumerId)
    (state : RequiredConsumerLivenessState) :
    policy.ProducerTriple (policy.Resting written replies low)
      (RequiredConsumerLivenessState.seedProgress ConsumerBarrier.consumerSequence now
        consumerIds state)
      (fun _ => policy.Resting written replies low) := by
  induction consumerIds generalizing state with
  | nil => exact Contract.Triple.pure _ (fun _ _ held => held)
  | cons consumerId rest ih =>
      exact Contract.Triple.bind (consumerSequence_triple consumerId) (fun observed => ih _)

theorem alert_triple (alert : RequiredConsumerAlert) :
    policy.ProducerTriple (policy.Resting written replies low) (act (.alert alert))
      (fun _ => policy.Resting written replies low) :=
  producer_idle resting_stable rfl

theorem emitAlert_triple (config : RequiredConsumerLivenessConfig)
    (progress : RequiredConsumerProgress) (alert : RequiredConsumerAlert) :
    policy.ProducerTriple (policy.Resting written replies low)
      (RequiredConsumerLivenessState.emitAlert (fun alert => act (.alert alert)) config
        progress alert)
      (fun _ => policy.Resting written replies low) := by
  unfold RequiredConsumerLivenessState.emitAlert
  cases !progress.alertEmitted && config.alertHook with
  | true => exact alert_triple alert
  | false => exact Contract.Triple.pure () (fun _ _ held => held)

theorem evaluateConsumers_triple (now : Nat) (producerSequence : Int)
    (consumerIds : List ConsumerId) (state : RequiredConsumerLivenessState) :
    policy.ProducerTriple (policy.Resting written replies low)
      (RequiredConsumerLivenessState.evaluateConsumers ConsumerBarrier.consumerSequence
        (fun alert => act (.alert alert)) now producerSequence consumerIds state)
      (fun _ => policy.Resting written replies low) := by
  induction consumerIds generalizing state with
  | nil => exact Contract.Triple.pure _ (fun _ _ held => held)
  | cons consumerId rest ih =>
      refine Contract.Triple.bind (consumerSequence_triple consumerId) (fun observed => ?_)
      dsimp only
      split
      · exact ih _
      · split
        · exact ih _
        · refine Contract.Triple.bind (emitAlert_triple _ _ _) (fun _ => ?_)
          split
          · exact ih _
          · exact Contract.Triple.pure _ (fun _ _ held => held)

theorem evaluateBlocked_triple (now : Nat) (producerSequence : Int)
    (state : RequiredConsumerLivenessState) :
    policy.ProducerTriple (policy.Resting written replies low)
      (RequiredConsumerLivenessState.evaluateBlocked ConsumerBarrier.consumerSequence
        (fun alert => act (.alert alert)) now producerSequence state)
      (fun _ => policy.Resting written replies low) := by
  unfold RequiredConsumerLivenessState.evaluateBlocked
  split
  · exact Contract.Triple.pure _ (fun _ _ held => held)
  · split
    · exact evaluateConsumers_triple now producerSequence _ _
    · exact Contract.Triple.pure _ (fun _ _ held => held)

theorem instantNow_triple :
    policy.ProducerTriple (policy.Resting written replies low) (act .instantNow)
      (fun _ => policy.Resting written replies low) :=
  producer_idle resting_stable rfl

theorem completeStartup_triple (state : RequiredConsumerLivenessState) :
    policy.ProducerTriple (policy.Resting written replies low) (Producer.completeStartup state)
      (fun _ => policy.Resting written replies low) := by
  refine Contract.Triple.bind instantNow_triple (fun now => ?_)
  refine Contract.Triple.bind (seedProgress_triple _ _ _) (fun state => ?_)
  exact setLiveness_triple _

theorem awaitRequiredConsumers_triple (state : RequiredConsumerLivenessState) (deadline : Nat) :
    policy.ProducerTriple (policy.Resting written replies low)
      (Producer.awaitRequiredConsumers state deadline)
      (fun _ => policy.Resting written replies low) := by
  refine Contract.Triple.repeat' (fun _ => policy.Resting written replies low) ?_ ()
  intro round
  refine Contract.Triple.bind (missingRequiredConsumers_triple _) (fun missing => ?_)
  split
  · refine Contract.Triple.bind (completeStartup_triple state) (fun _ => ?_)
    exact Contract.Triple.pure _ (fun _ _ held => held)
  · refine Contract.Triple.bind instantNow_triple (fun now => ?_)
    split
    · exact Contract.Triple.pure _ (fun _ _ held => held)
    · refine Contract.Triple.bind pause_triple (fun _ => ?_)
      exact Contract.Triple.pure _ (fun _ _ held => held)

theorem ensureRequiredConsumersReady_triple :
    policy.ProducerTriple (policy.Resting written replies low)
      Producer.ensureRequiredConsumersReady (fun _ => policy.Resting written replies low) := by
  refine Contract.Triple.bind producer_get (fun producer => ?_)
  split
  · exact Contract.Triple.pure _ (fun _ _ held => held.2)
  · split
    · exact Contract.Triple.pure _ (fun _ _ held => held.2)
    · refine Contract.Triple.bind (instantNow_triple.strengthen (fun _ _ held => held.2))
        (fun start => ?_)
      exact awaitRequiredConsumers_triple _ _

theorem checkRequiredConsumerLiveness_triple :
    policy.ProducerTriple (policy.Resting written replies low)
      Producer.checkRequiredConsumerLiveness (fun _ => policy.Resting written replies low) := by
  refine Contract.Triple.bind producer_get (fun producer => ?_)
  split
  · exact Contract.Triple.pure _ (fun _ _ held => held.2)
  · refine Contract.Triple.bind (instantNow_triple.strengthen (fun _ _ held => held.2))
      (fun now => ?_)
    refine Contract.Triple.bind (producer_idle resting_stable rfl) (fun producerSequence => ?_)
    refine Contract.Triple.bind (evaluateBlocked_triple _ _ _) (fun evaluated => ?_)
    refine Contract.Triple.bind (setLiveness_triple _) (fun _ => ?_)
    split
    · exact Contract.Triple.pure _ (fun _ _ held => held)
    · exact Contract.Triple.pure _ (fun _ _ held => held)

/-! ### The operations of a producer -/

variable {updateFn : Nat → application.interface.Value → Option application.interface.Value}
variable {update : application.interface.Value → Option application.interface.Value}

theorem tryPublish_triple :
    policy.ProducerTriple (policy.Resting written replies low)
      (Producer.tryPublish transport update)
      (fun result producer world => match result with
        | .error _ => policy.Resting written replies low producer world ∧
            Refused transport written.length low 1
        | .ok sequence => sequence = written.length ∧
            policy.Extended written replies low (fun _ => update) 1 producer world) := by
  refine Contract.Triple.bind producer_get (fun before => ?_)
  refine Contract.Triple.bind ((nextSequences_triple 1).strengthen (fun _ _ held => held.2))
    (fun reserved => ?_)
  cases reserved with
  | error missing =>
      refine Contract.Triple.assume (fun _ _ held => held.2) (fun refused => ?_)
      refine Contract.Triple.bind ((count_triple resting_stable _ _).strengthen
        (fun _ _ held => held.1)) (fun _ => ?_)
      exact Contract.Triple.pure _ (fun _ _ held => ⟨held, refused⟩)
  | ok nNext =>
      refine Contract.Triple.bind ((applyUpdate_triple update).strengthen
        (fun _ _ held => ⟨held.1, held.2.2.2⟩)) (fun sequence => ?_)
      refine Contract.Triple.assume (fun _ _ held => held.1) (fun here => ?_)
      refine Contract.Triple.bind ((count_triple extended_stable _ _).strengthen
        (fun _ _ held => held.2)) (fun _ => ?_)
      exact Contract.Triple.pure _ (fun _ _ held => ⟨here, held⟩)

theorem awaitSlot_triple :
    policy.ProducerTriple (policy.Resting written replies low) (Producer.awaitSlot transport)
      (fun _ producer world => policy.Resting written replies low producer world ∧
        policy.Room (written.length - 1 + 1) producer world) := by
  refine Contract.Triple.repeat' (fun _ => policy.Resting written replies low) ?_ false
  intro spun
  refine Contract.Triple.bind producer_get (fun before => ?_)
  refine Contract.Triple.bind ((nextSequences_triple 1).strengthen (fun _ _ held => held.2))
    (fun reserved => ?_)
  cases reserved with
  | ok nNext => exact Contract.Triple.pure _ (fun _ _ held => ⟨held.1, held.2.2.2⟩)
  | error missing =>
      refine Contract.Triple.bind ((count_triple resting_stable _ _).strengthen
        (fun _ _ held => held.1)) (fun _ => ?_)
      refine Contract.Triple.bind pause_triple (fun _ => ?_)
      exact Contract.Triple.pure _ (fun _ _ held => held)

theorem publish_triple :
    policy.ProducerTriple (policy.Resting written replies low)
      (Producer.publish transport update)
      (fun _ => policy.Extended written replies low (fun _ => update) 1) := by
  refine Contract.Triple.bind awaitSlot_triple (fun _ => ?_)
  refine Contract.Triple.bind (applyUpdate_triple update) (fun sequence => ?_)
  refine Contract.Triple.bind (producer_get.strengthen (fun _ _ held => held.2))
    (fun producer => ?_)
  exact (count_triple extended_stable _ _).strengthen (fun _ _ held => held.2)

/-- The number of events an accepted batch has, which may be none. -/
theorem resting_extended {producer : Producer} {world : World application.interface}
    (resting : policy.Resting written replies low producer world) :
    policy.Extended written replies low updateFn 0 producer world := by
  refine ⟨[], ⟨rfl, fun i value found => by cases found⟩, ?_⟩
  rw [List.append_nil]
  exact resting

theorem tryBatchPublish_triple (n : Nat) :
    policy.ProducerTriple (policy.Resting written replies low)
      (Producer.tryBatchPublish transport n updateFn)
      (fun result producer world => match result with
        | .error _ => policy.Resting written replies low producer world ∧
            Refused transport written.length low n
        | .ok _ => policy.Extended written replies low updateFn n producer world) := by
  unfold Producer.tryBatchPublish
  split
  · rename_i none
    subst none
    refine Contract.Triple.bind producer_get (fun before => ?_)
    refine Contract.Triple.bind ((producer_checked resting_stable).strengthen
      (fun _ _ held => held.2)) (fun last => ?_)
    exact Contract.Triple.pure _ (fun _ _ held => resting_extended held.2.2)
  · refine Contract.Triple.bind (nextSequences_triple n) (fun reserved => ?_)
    cases reserved with
    | error missing => exact Contract.Triple.pure _ (fun _ _ held => held)
    | ok nNext =>
        refine Contract.Triple.bind ((applyBatchUpdates_triple n updateFn).strengthen
          (fun _ _ held => ⟨held.1, held.2.2.2⟩)) (fun sequence => ?_)
        exact Contract.Triple.pure _ (fun _ _ held => held)

theorem publishWithTimeout_triple (timeout : Nat) :
    policy.ProducerTriple (policy.Resting written replies low)
      (Producer.publishWithTimeout transport timeout update)
      (fun result producer world => match result with
        | .error _ => policy.Resting written replies low producer world
        | .ok _ => policy.Extended written replies low (fun _ => update) 1 producer world) := by
  refine Contract.Triple.bind (producer_expect resting_stable) (fun _ => ?_)
  refine Contract.Triple.bind (instantNow_triple.strengthen (fun _ _ held => held.2))
    (fun start => ?_)
  refine Contract.Triple.repeat' (fun _ => policy.Resting written replies low) ?_ ()
  intro round
  refine Contract.Triple.bind (nextSequences_triple 1) (fun reserved => ?_)
  cases reserved with
  | ok nNext =>
      refine Contract.Triple.bind ((applyUpdate_triple update).strengthen
        (fun _ _ held => ⟨held.1, held.2.2.2⟩)) (fun sequence => ?_)
      exact Contract.Triple.pure _ (fun _ _ held => held.2)
  | error missing =>
      refine Contract.Triple.bind (instantNow_triple.strengthen (fun _ _ held => held.1))
        (fun now => ?_)
      split
      · exact Contract.Triple.pure _ (fun _ _ held => held)
      · refine Contract.Triple.bind pause_triple (fun _ => ?_)
        exact Contract.Triple.pure _ (fun _ _ held => held)

theorem publishManagedLoop_triple (n : Nat) {apply : ProducerProcess application.interface Int}
    (applied : policy.ProducerTriple
      (fun producer world => policy.Resting written replies low producer world ∧
        policy.Room (written.length - 1 + n) producer world)
      apply (fun _ => policy.Extended written replies low updateFn n)) :
    policy.ProducerTriple (policy.Resting written replies low)
      (Producer.publishManagedLoop transport n apply)
      (fun result producer world => match result with
        | .error _ => policy.Resting written replies low producer world
        | .ok _ => policy.Extended written replies low updateFn n producer world) := by
  refine Contract.Triple.repeat' (fun _ => policy.Resting written replies low) ?_ ()
  intro round
  refine Contract.Triple.bind (nextSequences_triple n) (fun reserved => ?_)
  cases reserved with
  | ok nNext =>
      refine Contract.Triple.bind (applied.strengthen
        (fun _ _ held => ⟨held.1, held.2.2.2⟩)) (fun sequence => ?_)
      exact Contract.Triple.pure _ (fun _ _ held => held)
  | error missing =>
      refine Contract.Triple.bind (checkRequiredConsumerLiveness_triple.strengthen
        (fun _ _ held => held.1)) (fun checked => ?_)
      cases checked with
      | error error => exact Contract.Triple.pure _ (fun _ _ held => held)
      | ok checked =>
          refine Contract.Triple.bind pause_triple (fun _ => ?_)
          exact Contract.Triple.pure _ (fun _ _ held => held)

theorem publishManaged_triple :
    policy.ProducerTriple (policy.Resting written replies low)
      (Producer.publishManaged transport update)
      (fun result producer world => match result with
        | .error _ => policy.Resting written replies low producer world
        | .ok _ => policy.Extended written replies low (fun _ => update) 1 producer world) := by
  refine Contract.Triple.bind ensureRequiredConsumersReady_triple (fun ready => ?_)
  cases ready with
  | error error => exact Contract.Triple.pure _ (fun _ _ held => held)
  | ok ready =>
      exact publishManagedLoop_triple 1 ((applyUpdate_triple update).weaken
        (fun _ _ _ held => held.2))

theorem publishBatchManaged_triple (n : Nat) :
    policy.ProducerTriple (policy.Resting written replies low)
      (Producer.publishBatchManaged transport n updateFn)
      (fun result producer world => match result with
        | .error _ => policy.Resting written replies low producer world
        | .ok _ => policy.Extended written replies low updateFn n producer world) := by
  unfold Producer.publishBatchManaged
  split
  · rename_i none
    subst none
    refine Contract.Triple.bind producer_get (fun before => ?_)
    refine Contract.Triple.bind ((producer_checked resting_stable).strengthen
      (fun _ _ held => held.2)) (fun last => ?_)
    exact Contract.Triple.pure _ (fun _ _ held => resting_extended held.2.2)
  · refine Contract.Triple.bind ensureRequiredConsumersReady_triple (fun ready => ?_)
    cases ready with
    | error error => exact Contract.Triple.pure _ (fun _ _ held => held)
    | ok ready => exact publishManagedLoop_triple n (applyBatchUpdates_triple n updateFn)

theorem lastPublishedSequence_triple :
    policy.ProducerTriple (policy.Resting written replies low)
      (Producer.lastPublishedSequence : ProducerProcess application.interface Int)
      (fun _ => policy.Resting written replies low) :=
  producer_idle resting_stable rfl

theorem isConsumed_triple (sequence : Int) :
    policy.ProducerTriple (policy.Resting written replies low)
      (Producer.isConsumed transport sequence) (fun _ => policy.Resting written replies low) :=
  Contract.Triple.bind gatingSequence_triple (fun _ =>
    Contract.Triple.pure _ (fun _ _ held => held.1))

theorem waitForConsumerId_triple (consumerId : ConsumerId) (timeout : Nat) :
    policy.ProducerTriple (policy.Resting written replies low)
      (Producer.waitForConsumerId consumerId timeout)
      (fun _ => policy.Resting written replies low) := by
  refine Contract.Triple.bind (producer_expect resting_stable) (fun _ => ?_)
  refine Contract.Triple.bind (instantNow_triple.strengthen (fun _ _ held => held.2))
    (fun start => ?_)
  refine Contract.Triple.repeat' (fun _ => policy.Resting written replies low) ?_ ()
  intro round
  refine Contract.Triple.bind (discoverConsumerId_triple consumerId) (fun found => ?_)
  split
  · exact Contract.Triple.pure _ (fun _ _ held => held.1)
  · refine Contract.Triple.bind (instantNow_triple.strengthen (fun _ _ held => held.1))
      (fun now => ?_)
    split
    · exact Contract.Triple.pure _ (fun _ _ held => held)
    · refine Contract.Triple.bind pause_triple (fun _ => ?_)
      exact Contract.Triple.pure _ (fun _ _ held => held)

theorem waitUntilConsumed_triple (sequence : Int) (timeout : Nat) :
    policy.ProducerTriple (policy.Resting written replies low)
      (Producer.waitUntilConsumedWithStrategy transport sequence timeout)
      (fun _ => policy.Resting written replies low) := by
  refine Contract.Triple.bind instantNow_triple (fun start => ?_)
  refine Contract.Triple.repeat' (fun _ => policy.Resting written replies low) ?_ ()
  intro round
  refine Contract.Triple.bind instantNow_triple (fun now => ?_)
  split
  · refine Contract.Triple.bind (isConsumed_triple sequence) (fun consumed => ?_)
    split
    · exact Contract.Triple.pure _ (fun _ _ held => held)
    · refine Contract.Triple.bind pause_triple (fun _ => ?_)
      exact Contract.Triple.pure _ (fun _ _ held => held)
  · exact Contract.Triple.pure _ (fun _ _ held => held)

/-! ### The rounds of a producer -/

def AtRest (policy : Policy application) (producer : Producer)
    (world : World application.interface) : Prop :=
  ∃ written replies, policy.rested written replies ∧
    policy.Resting written replies (-1) producer world

def Replied (policy : Policy application) (written : List application.interface.Value)
    (replies : List (Nat × application.interface.ProducerReply))
    (reply : application.interface.ProducerReply) (producer : Producer)
    (world : World application.interface) : Prop :=
  ∃ more, policy.Resting (written ++ more) replies (-1) producer world ∧
    policy.answers (written ++ more) replies reply ∧
    policy.rested (written ++ more) (replies ++ [((written ++ more).length, reply)])

/-- What an application has to show of the requests it serves. -/
def ServesProducer (policy : Policy application) : Prop :=
  ∀ request written replies, policy.rested written replies →
    policy.ProducerTriple (policy.Resting written replies (-1))
      (application.serveProducer request) (policy.Replied written replies)

theorem producerRound_triple (serves : policy.ServesProducer) :
    policy.ProducerTriple policy.AtRest application.producerRound
      (fun _ => policy.AtRest) := by
  refine Contract.Triple.exists (fun written => Contract.Triple.exists (fun replies => ?_))
  refine Contract.Triple.given (policy.rested written replies) (fun _ _ held => held.1)
    (fun rested => ?_)
  refine Contract.Triple.through
    (fun _ => policy.Resting written replies (-1)) ?_ (fun request => ?_)
  · refine Contract.Triple.perform ?_
    rintro producer world before ⟨_, resting⟩ relied _holds _met
    have here := resting_stable producer world before relied resting
    refine ⟨⟨producer, rfl, here.settled, ?_⟩, ?_⟩
    · rw [here.written, here.replies]
      exact rested
    intro oracle result after performed
    cases oracle <;> cases performed
    exact here
  · refine Contract.Triple.bind (serves request written replies rested) (fun reply => ?_)
    refine Contract.Triple.exists (fun more => ?_)
    refine Contract.Triple.perform ?_
    rintro producer world before ⟨resting, answers, again⟩ relied _holds _met
    have here := resting_stable producer world before relied resting
    refine ⟨?_, ?_⟩
    · change policy.answers before.written before.replies reply
      rw [here.written, here.replies]
      exact answers
    · intro oracle result after performed
      cases performed
      have settled := here.settled
      refine ⟨written ++ more, replies ++ [((written ++ more).length, reply)], again, {
        settled :=
          { sequence := settled.sequence
            published := settled.published
            inRange := settled.inRange
            observes := settled.observes
            cleared := settled.cleared
            known := settled.known
            discovered := settled.discovered }
        written := here.written
        replies := by
          change before.replies ++ [(before.written.length, reply)] = _
          rw [here.written, here.replies]
        floor := here.floor
        lowJoined := here.lowJoined
        lowPublished := here.lowPublished
        lowKnown := here.lowKnown }⟩

theorem producerProgram_safe (serves : policy.ServesProducer) {producer : Producer}
    {world : World application.interface} (rests : policy.AtRest producer world) (fuel : Nat) :
    policy.contract.Safe .producer fuel (application.producerProgram producer)
      (fun _ _ => True) world :=
  Contract.Triple.forever (producerRound_triple serves) rests fuel _

end Policy
end Ring
