/-
The runs of the processes of a transport.

A consumer serves one request after the other, and starts again where its cursor
stands. Once the operations of an application keep the contract, every run of it
does, from the first configuration on and through every crash of a consumer.
-/

import Myelon.Ring.ConsumerTriples
import Myelon.Ring.ProducerTriples

namespace Ring

open Interleaving Delivery

variable {transport : Transport} {application : Application transport}

structure Producer.Fresh (transport : Transport) (producer : Producer) : Prop where
  sequence : producer.sequence = 0
  sequenceClearOfConsumers :
    producer.sequenceClearOfConsumers = (transport.ring.size : Int) - 1

namespace Policy

variable (policy : Policy application)

/-! ### The rounds of a consumer -/

/-- What an application has to show of the consumers it serves. -/
structure ServesConsumer
    (kept : List (ConsumerEvent application.interface) → application.App → Prop) :
    Prop where
  fresh : ∀ log, log = [] ∨ (∃ before, log = before ++ [.crash]) →
    Throughout (fun before event => event = .crash ∨ policy.permits before event) log →
    kept log application.fresh
  returned : ∀ log app, kept log app → policy.returned log
  serves : ∀ consumerId request, policy.ConsumerTriple consumerId
    (policy.Rested consumerId kept) (application.serveConsumer request)
    (fun output => policy.Rested consumerId (fun log app =>
      policy.permits log (.handOver output) ∧ kept (log ++ [.handOver output]) app))

variable {policy} {consumerId : ConsumerId}
variable {kept : List (ConsumerEvent application.interface) → application.App → Prop}

theorem nextConsumerRequest_triple
    (returned : ∀ log app, kept log app → policy.returned log) (consumer : Consumer) :
    policy.ConsumerTriple consumerId
      (fun self world => consumer = self.1 ∧ policy.Rested consumerId kept self world)
      (act (.nextConsumerRequest consumer.consumerId))
      (fun _ => policy.Rested consumerId kept) := by
  refine Contract.Triple.perform ?_
  rintro self world before ⟨rfl, resting⟩ relied _holds _met
  have here := rested_stable self world before relied resting
  obtain ⟨log, app, visible, keeps, idle, standing⟩ := here
  have events := standing.here.events
  refine ⟨⟨standing.here.named, ⟨self.1, rfl, ?_, ?_⟩, ?_⟩, ?_⟩
  · rw [events]
    exact standing.here
  · rw [events]
    exact idle
  · rw [events]
    exact returned log app keeps
  · intro oracle result after performed
    cases oracle <;> cases performed
    exact ⟨log, app, visible, keeps, idle, standing⟩

theorem handOver_triple (output : application.interface.Output) (consumer : Consumer) :
    policy.ConsumerTriple consumerId
      (fun self world => consumer = self.1 ∧ policy.Rested consumerId (fun log app =>
        policy.permits log (.handOver output) ∧ kept (log ++ [.handOver output]) app)
        self world)
      (act (.handOver consumer.consumerId output))
      (fun _ => policy.Rested consumerId kept) := by
  refine Contract.Triple.perform ?_
  rintro self world before ⟨rfl, resting⟩ relied _holds _met
  obtain ⟨log, app, visible, ⟨permits, keeps⟩, idle, standing⟩ :=
    rested_stable self world before relied resting
  have events := standing.here.events
  refine ⟨⟨standing.here.named, ?_⟩, ?_⟩
  · rw [events]
    exact permits
  · intro oracle result after performed
    cases performed
    have same : position (log ++ [.handOver output]) = position log := position_snoc _ _
    refine ⟨log ++ [.handOver output], app, visible, keeps, ?_,
      ⟨standing.here.named, ?_, standing.here.attached, standing.here.initialised, ?_⟩,
      standing.app, standing.visible⟩
    · rw [same]
      exact idle
    · rw [same]
      exact standing.here.lastProcessedSequence
    · simp only [World.record, standing.here.named, Function.update_self, events]

theorem consumerRound_triple (serves : policy.ServesConsumer kept) :
    policy.ConsumerTriple consumerId (policy.Rested consumerId kept)
      application.consumerRound (fun _ => policy.Rested consumerId kept) :=
  Contract.Triple.bind current_triple (fun consumer =>
    Contract.Triple.bind (nextConsumerRequest_triple serves.returned consumer) (fun request =>
      Contract.Triple.bind (serves.serves consumerId request) (fun output =>
        Contract.Triple.bind current_triple (handOver_triple output))))

theorem consumerProgram_safe (serves : policy.ServesConsumer kept) {consumer : Consumer}
    {world : World application.interface}
    (rests : policy.Rested consumerId kept (consumer, application.fresh) world) (fuel : Nat) :
    policy.contract.Safe (.consumer consumerId) fuel (application.consumerProgram consumer)
      (fun _ _ => True) world :=
  Contract.Triple.forever (consumerRound_triple serves) rests fuel _

/-! ### The start of a consumer -/

structure Starting (policy : Policy application) (consumerId : ConsumerId)
    (log : List (ConsumerEvent application.interface)) (attaching : Attaching)
    (world : World application.interface) : Prop where
  named : attaching.consumerId = consumerId
  joins : policy.joins consumerId
  created : consumerId ∈ world.consumers ∨ policy.creates consumerId
  events : world.events consumerId = log

variable {log : List (ConsumerEvent application.interface)}

theorem starting_stable :
    ConsumerStable consumerId (policy.Starting consumerId log) := by
  intro self before after relied starting
  exact { starting with
    created := starting.created.imp_left fun attached => relied.consumers attached
    events := relied.events.trans starting.events }

structure Opened (policy : Policy application) (consumerId : ConsumerId)
    (log : List (ConsumerEvent application.interface)) (attaching : Attaching)
    (world : World application.interface) : Prop where
  starting : policy.Starting consumerId log attaching world
  attached : consumerId ∈ world.consumers
  initialised : consumerId ∉ world.uninitialised

theorem opened_stable : ConsumerStable consumerId (policy.Opened consumerId log) :=
  fun self before after relied opened =>
    { starting := starting_stable self before after relied opened.starting
      attached := relied.consumers opened.attached
      initialised := relied.initialised opened.initialised }

theorem newOrAttachCursor_triple :
    policy.ConsumerTriple consumerId
      (fun attaching world => policy.Starting consumerId log attaching world ∧
        consumerId ∉ world.uninitialised)
      (Consumer.newOrAttachCursor consumerId)
      (fun _ => policy.Opened consumerId log) := by
  have found_stable : ∀ isNew : Bool, ConsumerStable consumerId (fun attaching world =>
      policy.Starting consumerId log attaching world ∧ consumerId ∈ world.consumers ∧
        (isNew = false → consumerId ∉ world.uninitialised)) :=
    fun isNew self before after relied held =>
      ⟨starting_stable self before after relied held.1, relied.consumers held.2.1,
        fun old => relied.initialised (held.2.2 old)⟩
  refine Contract.Triple.through (fun (isNew : Bool) attaching world =>
    policy.Starting consumerId log attaching world ∧ consumerId ∈ world.consumers ∧
      (isNew = false → consumerId ∉ world.uninitialised)) ?_ (fun isNew => ?_)
  · refine Contract.Triple.perform ?_
    rintro self world before ⟨starting, initialised⟩ relied _holds _met
    have here := starting_stable self world before relied starting
    refine ⟨⟨rfl, here.joins, here.created⟩, fun oracle result after performed => ?_⟩
    simp only [Application.machine, perform] at performed
    split at performed
    · rename_i present
      cases performed
      exact ⟨here, present, fun _ => relied.initialised initialised⟩
    · cases performed
      have attached : consumerId ∈ consumerId :: before.consumers := List.mem_cons_self
      exact ⟨⟨here.named, here.joins, .inl attached, here.events⟩, attached,
        fun old => absurd old Bool.noConfusion⟩
  · have initialises : policy.ConsumerTriple consumerId (fun attaching world =>
        policy.Starting consumerId log attaching world ∧ consumerId ∈ world.consumers ∧
          (isNew = false → consumerId ∉ world.uninitialised))
        (onlyIf (isNew = true) (act (.initialiseConsumerSequence consumerId)))
        (fun _ => policy.Opened consumerId log) := by
      refine onlyIf_triple (fun _ => Contract.Triple.perform ?_) (fun old self world held => ?_)
      · rintro self world before held relied _holds _met
        obtain ⟨here, attached, _old⟩ := found_stable isNew self world before relied held
        refine ⟨trivial, fun oracle result after performed => ?_⟩
        cases performed
        refine ⟨⟨here.named, here.joins, .inl attached, here.events⟩, attached, ?_⟩
        simp only [List.mem_filter, ne_eq, not_true_eq_false, decide_false, Bool.false_eq_true,
          and_false, not_false_eq_true]
      · exact ⟨held.1, held.2.1, held.2.2 (Bool.eq_false_of_not_eq_true old)⟩
    exact Contract.Triple.bind initialises fun _ => Contract.Triple.pure _ fun _ _ held => held

/-- It goes on behind what it committed before. -/
theorem attach_consumer_triple (counters : ConsumerCounters) :
    policy.ConsumerTriple consumerId
      (fun attaching world => policy.Starting consumerId log attaching world ∧
        consumerId ∉ world.uninitialised)
      (Consumer.attach transport counters)
      (fun consumer _ world => Consumer.At consumerId log consumer world ∧
        -1 ≤ world.producerSequence) := by
  refine Contract.Triple.through (fun attaching self world => attaching = self ∧
    policy.Starting consumerId log self world ∧ consumerId ∉ world.uninitialised)
    Contract.Triple.get (fun attaching => ?_)
  refine Contract.Triple.given (attaching.consumerId = consumerId) ?_ ?_
  · rintro self world ⟨rfl, starting, _initialised⟩
    exact starting.named
  rintro rfl
  refine Contract.Triple.bind (newOrAttachCursor_triple.strengthen
    (fun _ _ held => held.2)) (fun isNew => ?_)
  refine Contract.Triple.bind ((consumer_expect opened_stable).weaken
    (fun _ _ _ held => held.2)) (fun _ => ?_)
  have loaded_stable : ∀ sequence : Int, ConsumerStable attaching.consumerId
      (fun self world =>
        (sequence = (position log).committed ∧ -1 ≤ world.producerSequence) ∧
          policy.Opened attaching.consumerId log self world) :=
    fun sequence self before after relied held =>
      ⟨⟨held.1.1, Int.le_trans held.1.2 relied.producerSequence⟩,
        opened_stable self before after relied held.2⟩
  refine Contract.Triple.through (fun (sequence : Int) self world =>
    (sequence = (position log).committed ∧ -1 ≤ world.producerSequence) ∧
      policy.Opened attaching.consumerId log self world) ?_ (fun sequence => ?_)
  · refine consumer_act opened_stable rfl ?_
    intro self world oracle result after opened holds performed same
    have committed := (holds.positions attaching.consumerId).1
    have events := opened.starting.events
    have initialised := opened.initialised
    rw [same.events] at events
    rw [same.uninitialised] at initialised
    rw [events] at committed
    simp only [perform] at performed
    split at performed
    · cases performed
      have reads : world.cursor attaching.consumerId =
          world.consumerSequence attaching.consumerId := if_neg initialised
      exact ⟨⟨reads.trans committed.symm, holds.published.1⟩, opened⟩
    · cases performed
  refine Contract.Triple.bind (consumer_onlyIf (consumer_idle (loaded_stable sequence) rfl))
    (fun _ => ?_)
  refine Contract.Triple.pure _ ?_
  rintro self world ⟨⟨loaded, low⟩, opened⟩
  exact ⟨⟨rfl, loaded, opened.attached, opened.initialised, opened.starting.events⟩, low⟩

theorem boot_safe (serves : policy.ServesConsumer kept)
    {world : World application.interface} (joins : policy.joins consumerId)
    (created : consumerId ∈ world.consumers ∨ policy.creates consumerId)
    (initialised : consumerId ∉ world.uninitialised)
    (empty : world.events consumerId = [] ∨
      ∃ before, world.events consumerId = before ++ [.crash])
    (permitted : Throughout (fun before event => event = .crash ∨ policy.permits before event)
      (world.events consumerId)) (fuel : Nat) :
    policy.contract.Safe (.consumer consumerId) fuel (application.boot consumerId)
      (fun _ _ => True) world := by
  have triple : policy.ConsumerTriple consumerId
      (fun attaching world' => policy.Starting consumerId (world.events consumerId) attaching
        world' ∧ consumerId ∉ world'.uninitialised)
      (Consumer.attach transport application.consumerCounters) _ :=
    attach_consumer_triple application.consumerCounters
  have attaches := triple ⟨consumerId⟩ world ⟨⟨rfl, joins, created, rfl⟩, initialised⟩ fuel
  refine attaches.bind _ ?_
  intro out after here remaining _fewer
  refine consumerProgram_safe serves ⟨_, _, -1, serves.fresh _ empty permitted, ?_, here.1,
    rfl, here.2⟩ remaining
  · rcases empty with none | ⟨before, crashed⟩
    · rw [none]
      rfl
    · rw [crashed, position_snoc]
      rfl

/-! ### Whole runs -/

theorem restart_safe (serves : policy.ServesConsumer kept) {party : Party}
    {world later : World application.interface} {program : application.Code}
    (holds : policy.contract.invariant world)
    (restarted : (application.machine policy.passes).restart party world =
      some (program, later)) (fuel : Nat) :
    policy.contract.Safe party fuel program (fun _ _ => True) later := by
  have kept := (policy.contract.restarted holds restarted).1
  cases party with
  | producer => cases restarted
  | consumer consumerId =>
      simp only [Application.machine] at restarted
      split at restarted
      · rename_i there
        cases restarted
        refine boot_safe serves (kept.joined consumerId there.1) (.inl ?_) ?_ (.inr ?_)
          (kept.permitted consumerId) fuel
        · exact there.1
        · exact there.2
        · exact ⟨world.events consumerId, by simp only [World.record, Function.update_self]⟩
      · cases restarted

theorem start_holds (slots : Nat → application.interface.Value)
    (attached discovered : List ConsumerId)
    (joined : ∀ consumerId ∈ attached, policy.joins consumerId) :
    policy.Holds { World.initial slots with consumers := attached, discovered } where
  slots := by
    intro number value found
    cases found
  published := ⟨Int.le_refl _, Int.le_refl _⟩
  positions := fun _ => ⟨rfl, Int.le_refl _⟩
  ordered := fun _ => throughout_nil
  permitted := fun _ => throughout_nil
  room := by
    intro consumerId _observed
    change ((0 : Nat) : Int) ≤ -1 + 1 + transport.ring.size
    omega
  faithful := by
    intro consumerId _observed event member
    cases member
  joined := joined
  created := fun _ impossible => absurd impossible List.not_mem_nil
  unwritten := fun _ _ => rfl
  answered := throughout_nil

theorem start_rests (slots : Nat → application.interface.Value) {producer : Producer}
    {attached : List ConsumerId} (fresh : producer.Fresh transport)
    (observes : ∀ consumerId, policy.observed consumerId →
      policy.gated producer.consumerBarrier consumerId)
    (known : producer.consumerBarrier.consumerCursors ⊆ attached) :
    policy.AtRest producer
      { World.initial slots with
        consumers := attached
        discovered := producer.consumerBarrier.consumerCursors } :=
  ⟨[], [], policy.begins,
    { settled :=
        { sequence := fresh.sequence
          published := rfl
          inRange := by
            change 0 < 2 ^ 63
            decide
          observes
          cleared := fun consumerId _gated => .inr (by
            change producer.sequenceClearOfConsumers ≤ -1 + transport.ring.size
            rw [fresh.sequenceClearOfConsumers]
            omega)
          known
          discovered := List.Subset.refl _ }
      written := rfl
      replies := rfl
      floor := fun _ => Int.le_refl _
      lowJoined := fun _ _ => Int.le_refl _
      lowPublished := Int.le_refl _
      lowKnown := .inl (Int.le_refl _) }⟩

theorem start_upheld (servesProducer : policy.ServesProducer)
    (servesConsumer : policy.ServesConsumer kept) (slots : Nat → application.interface.Value)
    {producer : Producer} {attached joining : List ConsumerId}
    (fresh : producer.Fresh transport)
    (observes : ∀ consumerId, policy.observed consumerId →
      policy.gated producer.consumerBarrier consumerId)
    (known : producer.consumerBarrier.consumerCursors ⊆ attached)
    (joins : ∀ consumerId ∈ attached ++ joining, policy.joins consumerId)
    (creates : ∀ consumerId ∈ joining, consumerId ∉ attached → policy.creates consumerId) :
    policy.contract.Upheld (application.start slots producer attached joining) := by
  have attachedJoins : ∀ consumerId ∈ attached, policy.joins consumerId :=
    fun consumerId member => joins consumerId (List.mem_append_left _ member)
  refine ⟨start_holds slots attached _ attachedJoins, fun party fuel => ?_⟩
  cases party with
  | producer =>
      exact producerProgram_safe servesProducer (start_rests slots fresh observes known) fuel
  | consumer consumerId =>
      simp only [Application.start]
      by_cases here : consumerId ∈ attached
      · rw [if_pos here]
        have rests : policy.Rested consumerId kept
            ({ consumerId, lastProcessedSequence := -1
               counters := application.consumerCounters }, application.fresh)
            { World.initial slots with
              consumers := attached
              discovered := producer.consumerBarrier.consumerCursors } :=
          ⟨[], _, -1, servesConsumer.fresh [] (.inl rfl) throughout_nil, rfl,
            ⟨rfl, rfl, here, List.not_mem_nil, rfl⟩, rfl, Int.le_refl _⟩
        exact consumerProgram_safe servesConsumer rests fuel
      · rw [if_neg here]
        by_cases later : consumerId ∈ joining
        · rw [if_pos later]
          exact boot_safe servesConsumer (joins consumerId (List.mem_append_right _ later))
            (.inr (creates consumerId later here)) List.not_mem_nil (.inl rfl) throughout_nil
            fuel
        · rw [if_neg later]
          cases fuel <;> trivial

/-- A policy that takes every answer is content with every run. -/
theorem accepts_always (policy : Policy application) (always : ∀ producer action oracle world,
      policy.accepts producer action oracle world) (configuration : application.State)
    (moves : List (Move Party (application.machine policy.passes).Oracle)) :
    (application.machine policy.passes).Accepts policy.contract.accepts configuration moves := by
  apply Machine.accepts_always
  intro party self action oracle world
  cases party with
  | producer =>
      cases self with
      | producer producer => exact always producer action oracle world
      | consumer consumer => trivial
      | attaching consumerId => trivial
  | consumer consumerId => trivial

/-- Every run from a start keeps the contract, as far as its condition is met. -/
theorem run_upheld (servesProducer : policy.ServesProducer)
    (servesConsumer : policy.ServesConsumer kept) (slots : Nat → application.interface.Value)
    {producer : Producer} {attached joining : List ConsumerId}
    {moves : List (Move Party (application.machine policy.passes).Oracle)}
    {after : application.State} (fresh : producer.Fresh transport)
    (observes : ∀ consumerId, policy.observed consumerId →
      policy.gated producer.consumerBarrier consumerId)
    (known : producer.consumerBarrier.consumerCursors ⊆ attached)
    (joins : ∀ consumerId ∈ attached ++ joining, policy.joins consumerId)
    (creates : ∀ consumerId ∈ joining, consumerId ∉ attached → policy.creates consumerId)
    (met : (application.machine policy.passes).Meets policy.contract.condition
      (application.start slots producer attached joining) moves)
    (accepted : (application.machine policy.passes).Accepts policy.contract.accepts
      (application.start slots producer attached joining) moves)
    (ran : (application.machine policy.passes).run
      (application.start slots producer attached joining) moves = some after) :
    policy.contract.Upheld after :=
  Contract.Upheld.run (fun _ _ _ _ holds restarted => restart_safe servesConsumer holds restarted)
    (start_upheld servesProducer servesConsumer slots fresh observes known joins creates) met
    accepted ran

end Policy
end Ring
