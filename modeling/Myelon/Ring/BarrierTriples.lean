/-
What the producer learns from its barrier.

Whatever the barrier does, the producer stays where it is. The sequence it gets
is behind every consumer that gates it, and not behind all of them.
-/

import Myelon.Ring.Contract

namespace Ring

open Interleaving Delivery

variable {transport : Transport} {application : Application transport}
variable {policy : Policy application} {α : Type}

/-! ### Rules for the producer -/

/-- An assertion that survives the steps of the consumers. -/
def ProducerStable (holds : Producer → World application.interface → Prop) : Prop :=
  ∀ producer before after, ProducerRely before after → holds producer before →
    holds producer after

def Action.free {interface : Interface} : Action interface → Bool
  | .pause => false
  | .nextProducerRequest => false
  | .nextConsumerRequest _ => false
  | action => action.quiet

theorem Action.free_quiet {interface : Interface} {action : Action interface}
    (free : action.free = true) : action.quiet = true := by
  cases action <;> first | exact free | cases free

theorem Policy.producer_free {self : Self} {world : World application.interface}
    {action : Action application.interface} (free : action.free = true) :
    policy.producerGuarantee self world action := by
  cases action <;> first | exact free | cases free

def Producer.inserting (attached : Bool) (consumerId : ConsumerId) (producer : Producer) :
    Producer :=
  if attached = true then
    { producer with consumerBarrier := producer.consumerBarrier.insert consumerId }
  else producer

namespace Policy

abbrev ProducerTriple (policy : Policy application)
    (pre : Producer → World application.interface → Prop)
    (routine : ProducerProcess application.interface α)
    (post : α → Producer → World application.interface → Prop) : Prop :=
  policy.contract.Triple .producer pre routine post

variable {pre : Producer → World application.interface → Prop}

theorem producer_actAccepted {action : Action application.interface}
    {post : action.Result → Producer → World application.interface → Prop}
    (stable : ProducerStable pre) (free : action.free = true)
    (outcome : ∀ producer world oracle result after, pre producer after →
      policy.Holds world → policy.condition producer action world →
      policy.accepts producer action oracle world →
      perform policy.passes action oracle world = some (result, after) →
      world.SameRing after → post result producer after) :
    policy.ProducerTriple pre (act action) post := by
  apply Contract.Triple.performAccepted
  intro producer world before holds relied invariant met
  refine ⟨producer_free free, fun oracle result after accepted performed => ?_⟩
  have same := perform_quiet (Action.free_quiet free) performed
  have held := stable producer world before relied holds
  exact outcome producer before oracle result after
    (stable producer before after same.producerRely held) invariant met accepted performed same

theorem producer_act {action : Action application.interface}
    {post : action.Result → Producer → World application.interface → Prop}
    (stable : ProducerStable pre) (free : action.free = true)
    (outcome : ∀ producer world oracle result after, pre producer after →
      policy.Holds world → policy.condition producer action world →
      perform policy.passes action oracle world = some (result, after) →
      world.SameRing after → post result producer after) :
    policy.ProducerTriple pre (act action) post :=
  producer_actAccepted stable free
    (fun producer world oracle result after held invariant met _accepted performed same =>
      outcome producer world oracle result after held invariant met performed same)

theorem producer_idle {action : Action application.interface}
    (stable : ProducerStable pre) (free : action.free = true) :
    policy.ProducerTriple pre (act action) (fun _ => pre) :=
  producer_act stable free (fun _ _ _ _ _ held _ _ _ _ => held)

theorem producer_panic {post : α → Producer → World application.interface → Prop}
    (stable : ProducerStable pre) :
    policy.ProducerTriple pre (panic' : ProducerProcess application.interface α) post :=
  Contract.Triple.bind (producer_idle stable rfl) (fun impossible =>
    nomatch (impossible : Empty))

theorem producer_expect {condition : Prop} [Decidable condition]
    (stable : ProducerStable pre) :
    policy.ProducerTriple pre (expect condition)
      (fun _ producer world => condition ∧ pre producer world) := by
  unfold expect
  split
  · exact Contract.Triple.pure () (fun _ _ held => ⟨by assumption, held⟩)
  · exact producer_panic stable

theorem producer_checked {value : Int} (stable : ProducerStable pre) :
    policy.ProducerTriple pre (checked value)
      (fun result producer world => result = value ∧ InRange value ∧ pre producer world) := by
  unfold checked
  split
  · exact Contract.Triple.pure value (fun _ _ held => ⟨rfl, by assumption, held⟩)
  · exact producer_panic stable

theorem producer_onlyIf {condition : Prop} [Decidable condition]
    {body : ProducerProcess application.interface Unit}
    (triple : policy.ProducerTriple pre body (fun _ => pre)) :
    policy.ProducerTriple pre (onlyIf condition body) (fun _ => pre) := by
  unfold onlyIf
  split
  · exact triple
  · exact Contract.Triple.pure () (fun _ _ held => held)

/-! ### The producer between two publications -/

/-- The producer rests while it has written and answered what is given, and no
consumer that may ever attach is behind the given sequence. -/
structure Resting (policy : Policy application) (written : List application.interface.Value)
    (replies : List (Nat × application.interface.ProducerReply)) (low : Int)
    (producer : Producer) (world : World application.interface) : Prop where
  settled : policy.Settled producer world
  written : world.written = written
  replies : world.replies = replies
  floor : ∀ consumerId, -1 ≤ world.consumerSequence consumerId
  lowJoined : ∀ consumerId, policy.joins consumerId → low ≤ world.consumerSequence consumerId
  lowPublished : low ≤ world.producerSequence
  lowKnown : low ≤ -1 ∨ producer.consumerBarrier.consumerCursors ≠ []

theorem Settled.stable {producer : Producer} {before after : World application.interface}
    (settled : policy.Settled producer before) (relied : ProducerRely before after) :
    policy.Settled producer after where
  sequence := by rw [relied.written]; exact settled.sequence
  published := by rw [relied.written, relied.producerSequence]; exact settled.published
  inRange := by rw [relied.written]; exact settled.inRange
  observes := settled.observes
  cleared := by
    intro consumerId gated
    have further := relied.consumerSequence consumerId
    rcases settled.cleared consumerId gated with used | clear
    · exact .inl used
    · exact .inr (by omega)
  known := fun consumerId member => relied.consumers (settled.known consumerId member)
  discovered := by rw [relied.discovered]; exact settled.discovered

variable {written : List application.interface.Value}
variable {replies : List (Nat × application.interface.ProducerReply)} {low : Int}

theorem resting_stable : ProducerStable (policy.Resting written replies low) := by
  intro producer before after relied resting
  exact {
    settled := resting.settled.stable relied
    written := relied.written.trans resting.written
    replies := relied.replies.trans resting.replies
    floor := fun consumerId =>
      Int.le_trans (resting.floor consumerId) (relied.consumerSequence consumerId)
    lowJoined := fun consumerId joins =>
      Int.le_trans (resting.lowJoined consumerId joins) (relied.consumerSequence consumerId)
    lowPublished := by rw [relied.producerSequence]; exact resting.lowPublished
    lowKnown := resting.lowKnown }

theorem Resting.rebarrier {producer : Producer} {world : World application.interface}
    {barrier : ConsumerBarrier} (resting : policy.Resting written replies low producer world)
    (more : producer.consumerBarrier.consumerCursors ⊆ barrier.consumerCursors)
    (mode : barrier.discoveryMode = producer.consumerBarrier.discoveryMode)
    (cleared : ∀ consumerId, policy.gated barrier consumerId →
      policy.gated producer.consumerBarrier consumerId ∨
        Cleared transport producer (world.consumerSequence consumerId))
    (known : ∀ consumerId ∈ barrier.consumerCursors, consumerId ∈ world.consumers) :
    policy.Resting written replies low { producer with consumerBarrier := barrier } world where
  settled :=
    { sequence := resting.settled.sequence
      published := resting.settled.published
      inRange := resting.settled.inRange
      observes := fun consumerId observed =>
        policy.grows more mode (resting.settled.observes consumerId observed)
      cleared := fun consumerId gated => (cleared consumerId gated).elim
        (resting.settled.cleared consumerId) id
      known := known
      discovered := fun _ found => more (resting.settled.discovered found) }
  written := resting.written
  replies := resting.replies
  floor := resting.floor
  lowJoined := resting.lowJoined
  lowPublished := resting.lowPublished
  lowKnown := resting.lowKnown.imp_right fun some none =>
    some (List.subset_nil.mp (none ▸ more))

theorem Resting.rescanned {producer : Producer} {world : World application.interface}
    {barrier : ConsumerBarrier} (resting : policy.Resting written replies low producer world)
    (same : barrier.consumerCursors = producer.consumerBarrier.consumerCursors)
    (mode : barrier.discoveryMode = producer.consumerBarrier.discoveryMode) :
    policy.Resting written replies low { producer with consumerBarrier := barrier } world :=
  resting.rebarrier (same ▸ List.Subset.refl _) mode
    (fun _ gated => .inl (policy.grows (same ▸ List.Subset.refl _) mode.symm gated))
    (same ▸ resting.settled.known)

/-! ### Rules for the state of the barrier -/

theorem producer_get :
    policy.ProducerTriple pre get (fun value producer world =>
      value = producer ∧ pre producer world) :=
  Contract.Triple.get

theorem barrier_current :
    policy.ProducerTriple pre ConsumerBarrier.current (fun barrier producer world =>
      barrier = producer.consumerBarrier ∧ pre producer world) :=
  Contract.Triple.bind producer_get (fun producer =>
    Contract.Triple.pure producer.consumerBarrier (by
      rintro self world ⟨rfl, held⟩
      exact ⟨rfl, held⟩))

theorem barrier_update {change : ConsumerBarrier → ConsumerBarrier}
    {post : Producer → World application.interface → Prop}
    (changed : ∀ producer world, pre producer world →
      post { producer with consumerBarrier := change producer.consumerBarrier } world) :
    policy.ProducerTriple pre (ConsumerBarrier.update change) (fun _ => post) := by
  intro producer world held fuel
  cases fuel with
  | zero => trivial
  | succ fuel => exact changed producer world held

/-! ### Discovery -/

theorem attach_framed {frame : Producer → World application.interface → Prop}
    (stable : ProducerStable frame)
    (blind : ∀ producer world discovered, frame producer world →
      frame producer
        { world with
          discovered }) (consumerId : ConsumerId) :
    policy.ProducerTriple
      (fun producer world => policy.Resting written replies low producer world ∧
        frame producer world)
      (act (.attachConsumerSequence consumerId))
      (fun attached producer world => policy.Resting written replies low
        (producer.inserting attached consumerId) world ∧ frame producer world) := by
  refine Contract.Triple.perform ?_
  rintro producer world before ⟨resting, framed⟩ relied _holds met
  have here := resting_stable producer world before relied resting
  have kept := stable producer world before relied framed
  refine ⟨trivial, fun oracle result after performed => ?_⟩
  simp only [Application.machine, perform] at performed
  split at performed
  · rename_i present
    cases performed
    have inserted : policy.Resting written replies low
        { producer with consumerBarrier := producer.consumerBarrier.insert consumerId }
        before := here.rebarrier (List.subset_cons_self consumerId _) rfl
      (fun other => policy.admits met present here.settled.observes)
      (fun other member => (List.mem_cons.mp member).elim
        (fun same => by rw [same]; exact present) (here.settled.known other))
    exact ⟨{ inserted with
      settled := { inserted.settled with
        discovered := List.cons_subset_cons consumerId here.settled.discovered } },
      blind producer before _ kept⟩
  · cases performed
    exact ⟨here, kept⟩

theorem attach_triple (consumerId : ConsumerId) :
    policy.ProducerTriple (policy.Resting written replies low)
      (act (.attachConsumerSequence consumerId))
      (fun attached producer => policy.Resting written replies low
        (producer.inserting attached consumerId)) :=
  (attach_framed (fun _ _ _ _ _ => trivial) (fun _ _ _ _ => trivial) consumerId).conseq
    (fun _ _ resting => ⟨resting, trivial⟩) (fun _ _ _ held => held.1)

theorem insert_triple (consumerId : ConsumerId) :
    policy.ProducerTriple
      (fun producer => policy.Resting written replies low (producer.inserting true consumerId))
      (ConsumerBarrier.update (·.insert consumerId))
      (fun _ producer world => policy.Resting written replies low producer world ∧
        consumerId ∈ producer.consumerBarrier.consumerCursors) :=
  barrier_update (fun _ _ resting => ⟨resting, List.mem_cons_self⟩)

theorem discoverConsumerId_triple (consumerId : ConsumerId) :
    policy.ProducerTriple (policy.Resting written replies low)
      (ConsumerBarrier.discoverConsumerId consumerId)
      (fun found producer world => policy.Resting written replies low producer world ∧
        (found = true → consumerId ∈ producer.consumerBarrier.consumerCursors)) := by
  refine Contract.Triple.bind barrier_current (fun barrier => ?_)
  split
  · rename_i member
    refine Contract.Triple.pure true ?_
    rintro producer world ⟨rfl, resting⟩
    exact ⟨resting, fun _ => member⟩
  · refine Contract.Triple.bind ((attach_triple consumerId).strengthen
      (fun _ _ held => held.2)) (fun attached => ?_)
    cases attached with
    | true =>
        refine Contract.Triple.bind (insert_triple consumerId) (fun _ => ?_)
        exact Contract.Triple.pure true (fun _ _ held => ⟨held.1, fun _ => held.2⟩)
    | false =>
        exact Contract.Triple.pure false
          (fun _ _ held => ⟨held, fun impossible => by cases impossible⟩)

theorem discoverNames_triple (names : List ConsumerId) :
    policy.ProducerTriple (policy.Resting written replies low)
      (ConsumerBarrier.discoverNames names)
      (fun _ => policy.Resting written replies low) := by
  refine Contract.Triple.each (fun name => ?_)
  exact Contract.Triple.bind (discoverConsumerId_triple name)
    (fun _ => Contract.Triple.pure () (fun _ _ held => held.1))

theorem consumerSequence_triple (consumerId : ConsumerId) :
    policy.ProducerTriple (policy.Resting written replies low)
      (ConsumerBarrier.consumerSequence consumerId)
      (fun _ => policy.Resting written replies low) := by
  refine Contract.Triple.bind (discoverConsumerId_triple consumerId) (fun present => ?_)
  split
  · refine Contract.Triple.bind ((producer_idle resting_stable rfl).strengthen
      (fun _ _ held => held.1)) (fun sequence => ?_)
    exact Contract.Triple.pure (some sequence) (fun _ _ held => held)
  · exact Contract.Triple.pure none (fun _ _ held => held.1)

theorem discoverWithConsumerPrefix_triple (consumerPrefix : String) :
    policy.ProducerTriple (policy.Resting written replies low)
      (SharedConsumerBarrier.discoverWithConsumerPrefix consumerPrefix)
      (fun _ => policy.Resting written replies low) :=
  Contract.Triple.bind barrier_current (fun _ =>
    (discoverNames_triple _).strengthen (fun _ _ held => held.2))

theorem discoverWithRegisteredSlots_triple (maxConsumers : Nat) :
    policy.ProducerTriple (policy.Resting written replies low)
      (SharedConsumerBarrier.discoverWithRegisteredSlots maxConsumers)
      (fun _ => policy.Resting written replies low) := by
  refine Contract.Triple.bind (producer_idle resting_stable rfl) (fun registration => ?_)
  split
  · exact Contract.Triple.pure 0 (fun _ _ held => held)
  · exact Contract.Triple.bind (discoverNames_triple _)
      (fun _ => Contract.Triple.pure _ (fun _ _ held => held))

theorem discoverWithPidBasedScanning_triple :
    policy.ProducerTriple (policy.Resting written replies low)
      (SharedConsumerBarrier.discoverWithPidBasedScanning transport)
      (fun _ => policy.Resting written replies low) :=
  Contract.Triple.bind barrier_current (fun _ =>
    (discoverNames_triple _).strengthen (fun _ _ held => held.2))

theorem scan_triple (maxConsumers : Nat) (consumerPrefix : Option String) :
    policy.ProducerTriple (policy.Resting written replies low)
      (SharedConsumerBarrier.scan transport maxConsumers consumerPrefix)
      (fun _ => policy.Resting written replies low) := by
  cases consumerPrefix with
  | some consumerPrefix => exact discoverWithConsumerPrefix_triple consumerPrefix
  | none =>
      refine Contract.Triple.bind (discoverWithRegisteredSlots_triple maxConsumers)
        (fun registeredSlots => ?_)
      refine Contract.Triple.bind barrier_current (fun barrier => ?_)
      split
      · exact discoverWithPidBasedScanning_triple.strengthen (fun _ _ held => held.2)
      · exact Contract.Triple.pure () (fun _ _ held => held.2)

theorem discoverConsumers_triple :
    policy.ProducerTriple (policy.Resting written replies low)
      (SharedConsumerBarrier.discoverConsumers transport)
      (fun _ => policy.Resting written replies low) := by
  refine Contract.Triple.bind (producer_idle resting_stable rfl) (fun now => ?_)
  refine Contract.Triple.bind barrier_current (fun barrier => ?_)
  split
  · exact Contract.Triple.pure () (fun _ _ held => held.2)
  · refine Contract.Triple.bind (barrier_update
      (fun _ _ held => held.2.rescanned rfl rfl)) (fun _ => ?_)
    refine Contract.Triple.bind (scan_triple _ _) (fun _ => ?_)
    refine barrier_update (fun producer world resting => ?_)
    split
    · exact resting.rescanned rfl rfl
    · exact resting

theorem discoverUnlessCompleted_triple :
    policy.ProducerTriple (policy.Resting written replies low)
      (SharedConsumerBarrier.discoverUnlessCompleted transport)
      (fun _ => policy.Resting written replies low) := by
  refine Contract.Triple.bind barrier_current (fun barrier => ?_)
  split
  · exact Contract.Triple.pure () (fun _ _ held => held.2)
  · split
    · exact Contract.Triple.pure () (fun _ _ held => held.2)
    · exact discoverConsumers_triple.strengthen (fun _ _ held => held.2)

/-! ### The sequence that gates the producer -/

def Gating (policy : Policy application) (low rear : Int) (producer : Producer)
    (world : World application.interface) : Prop :=
  (∀ consumerId, policy.gated producer.consumerBarrier consumerId →
    rear ≤ world.consumerSequence consumerId) ∧ low ≤ rear

theorem gating_stable {rear : Int} : ProducerStable (fun producer world =>
    policy.Resting written replies low producer world ∧
      policy.Gating low rear producer world) := by
  rintro producer before after relied ⟨resting, behind, above⟩
  exact ⟨resting_stable producer before after relied resting,
    fun consumerId gated =>
      Int.le_trans (behind consumerId gated) (relied.consumerSequence consumerId), above⟩

def Covered (policy : Policy application) (barrier : ConsumerBarrier) : Prop :=
  ∀ consumerId, policy.gated barrier consumerId → consumerId ∈ barrier.consumerCursors ∨
    (barrier.consumerCursors = [] ∧ barrier.discoveryMode ≠ .disabled)

structure Collecting (policy : Policy application) (order rest : List ConsumerId)
    (low minimum : Int) (producer : Producer) (world : World application.interface) : Prop where
  covered : policy.Covered producer.consumerBarrier
  ordered : ∀ consumerId, consumerId ∈ order ↔
    consumerId ∈ producer.consumerBarrier.consumerCursors
  remaining : rest ⊆ order
  collected : ∀ consumerId ∈ order, consumerId ∈ rest ∨
    ((policy.gated producer.consumerBarrier consumerId →
      minimum ≤ world.consumerSequence consumerId) ∧ minimum < 2 ^ 63 - 1)
  untouched : order = [] → minimum = 2 ^ 63 - 1
  above : low ≤ minimum

theorem loadMinimum_triple {counts : Int → Bool} {order : List ConsumerId}
    (counted : ∀ sequence : Int, -1 ≤ sequence → counts sequence = true) :
    policy.ProducerTriple
      (fun producer world => policy.Resting written replies low producer world ∧
        policy.Covered producer.consumerBarrier ∧
        ∀ consumerId, consumerId ∈ order ↔
          consumerId ∈ producer.consumerBarrier.consumerCursors)
      (ConsumerBarrier.loadMinimum counts order)
      (fun minimum producer world => policy.Resting written replies low producer world ∧
        policy.Collecting order [] low minimum producer world) := by
  refine Contract.Triple.strengthen (Contract.Triple.fold (fun rest minimum producer world =>
    policy.Resting written replies low producer world ∧
      policy.Collecting order rest low minimum producer world) order ?_ _) ?_
  · intro item rest minimum
    refine Contract.Triple.through (fun sequence producer world =>
      policy.Resting written replies low producer world ∧
        policy.Collecting order (item :: rest) low minimum producer world ∧
        -1 ≤ (sequence : Int) ∧ (policy.gated producer.consumerBarrier item →
          sequence ≤ world.consumerSequence item) ∧ sequence < 2 ^ 63 - 1 ∧ low ≤ sequence) ?_
        (fun sequence => ?_)
    · refine producer_act ?_ rfl ?_
      · rintro producer before after relied ⟨resting, collecting⟩
        refine ⟨resting_stable producer before after relied resting,
          { collecting with collected := fun consumerId member => ?_ }⟩
        exact (collecting.collected consumerId member).imp_right fun earlier =>
          ⟨fun gated => Int.le_trans (earlier.1 gated) (relied.consumerSequence consumerId),
            earlier.2⟩
      · rintro producer world oracle result after ⟨resting, collecting⟩ holds met performed _same
        simp only [perform] at performed
        split at performed
        · rename_i attached
          cases performed
          have bounds := holds.cursor_bounds item
          have published := resting.settled.published
          have inRange := resting.settled.inRange
          have low := resting.lowJoined item (holds.joined item attached)
          have reads := holds.cursor_cases item
          refine ⟨resting, collecting, by omega, fun gated => ?_, by omega, by omega⟩
          exact holds.cursor_gated met gated
        · cases performed
    · refine Contract.Triple.pure _ ?_
      rintro producer world ⟨resting, collecting, floor, behind, small, above⟩
      rw [if_pos (counted sequence floor)]
      refine ⟨resting, { collecting with
        remaining := fun _ member =>
          collecting.remaining (List.mem_cons_of_mem item member)
        collected := fun consumerId member => ?_
        untouched := fun empty => by
          have present := collecting.remaining List.mem_cons_self
          rw [empty] at present
          cases present
        above := by have earlier := collecting.above; omega }⟩
      rcases collecting.collected consumerId member with present | earlier
      · rcases List.mem_cons.mp present with rfl | later
        · exact .inr ⟨fun gated => by have := behind gated; omega, by omega⟩
        · exact .inl later
      · exact .inr ⟨fun gated => by have := earlier.1 gated; omega, by omega⟩
  · rintro producer world ⟨resting, covered, ordered⟩
    have lowPublished := resting.lowPublished
    have published := resting.settled.published
    have inRange := resting.settled.inRange
    exact ⟨resting, covered, ordered, List.Subset.refl _, fun _ member => .inl member,
      fun _ => rfl, by omega⟩

/-- All cursors are read: the minimum gates, or there was none. -/
theorem Collecting.gating {order : List ConsumerId} {minimum : Int} {producer : Producer}
    {world : World application.interface}
    (collecting : policy.Collecting order [] low minimum producer world)
    (some : producer.consumerBarrier.consumerCursors ≠ []) :
    policy.Gating low minimum producer world ∧ minimum < 2 ^ 63 - 1 := by
  have read : ∀ consumerId ∈ producer.consumerBarrier.consumerCursors,
      (policy.gated producer.consumerBarrier consumerId →
        minimum ≤ world.consumerSequence consumerId) ∧ minimum < 2 ^ 63 - 1 := by
    intro consumerId member
    rcases collecting.collected consumerId ((collecting.ordered consumerId).mpr member) with
      impossible | read
    · cases impossible
    · exact read
  obtain ⟨first, member⟩ := List.exists_mem_of_ne_nil _ some
  refine ⟨⟨fun consumerId gated => ?_, collecting.above⟩, (read first member).2⟩
  rcases collecting.covered consumerId gated with known | ⟨none, _enabled⟩
  · exact (read consumerId known).1 gated
  · exact absurd none some

theorem iterate_triple {barrier : ConsumerBarrier} :
    policy.ProducerTriple
      (fun producer world => barrier = producer.consumerBarrier ∧
        policy.Resting written replies low producer world)
      (act (.iterate barrier.consumerCursors))
      (fun order producer world =>
        (policy.Resting written replies low producer world ∧
          policy.Covered producer.consumerBarrier ∧
          ∀ consumerId, consumerId ∈ (show List ConsumerId from order) ↔
            consumerId ∈ producer.consumerBarrier.consumerCursors) ∧
        (barrier.consumerCursors ≠ [] → (show List ConsumerId from order) ≠ [])) := by
  refine producer_act ?_ rfl ?_
  · rintro producer before after relied ⟨same, resting⟩
    exact ⟨same, resting_stable producer before after relied resting⟩
  · rintro producer world oracle result after ⟨rfl, resting⟩ holds met performed _same
    cases oracle <;> simp only [perform] at performed
    case order permuted =>
      split at performed
      · rename_i permutation
        cases performed
        have same := List.isPerm_iff.mp permutation
        exact ⟨⟨resting, fun consumerId gated => policy.covers gated met,
          fun consumerId => same.mem_iff⟩, fun some none => some (List.nil_perm.mp (none ▸ same))⟩
      · cases performed
    all_goals cases performed

theorem discoveredMinSequence_triple :
    policy.ProducerTriple (policy.Resting written replies low)
      SharedConsumerBarrier.discoveredMinSequence
      (fun discovered producer world => policy.Resting written replies low producer world ∧
        policy.Covered producer.consumerBarrier ∧
        match discovered with
        | some rear => policy.Gating low rear producer world
        | none => producer.consumerBarrier.consumerCursors = []) := by
  refine Contract.Triple.bind barrier_current (fun barrier => ?_)
  refine Contract.Triple.bind iterate_triple (fun order => ?_)
  refine Contract.Triple.bind ((loadMinimum_triple (fun sequence floor =>
    decide_eq_true floor)).strengthen (fun _ _ held => held.1)) (fun minimum => ?_)
  refine Contract.Triple.pure _ ?_
  rintro producer world ⟨resting, collecting⟩
  refine ⟨resting, collecting.covered, ?_⟩
  by_cases none : producer.consumerBarrier.consumerCursors = []
  · have empty : order = [] := by
      refine List.eq_nil_iff_forall_not_mem.mpr (fun consumerId member => ?_)
      have known := (collecting.ordered consumerId).mp member
      rw [none] at known
      cases known
    rw [if_pos (collecting.untouched empty)]
    exact none
  · obtain ⟨gating, small⟩ := collecting.gating none
    rw [if_neg (by omega)]
    exact gating

theorem minSequenceFallback_triple :
    policy.ProducerTriple
      (fun producer world => policy.Resting written replies low producer world ∧
        policy.Covered producer.consumerBarrier ∧
        producer.consumerBarrier.consumerCursors = [])
      SharedConsumerBarrier.minSequenceFallback
      (fun rear producer world => policy.Resting written replies low producer world ∧
        policy.Gating low rear producer world) := by
  refine Contract.Triple.bind barrier_current (fun barrier => ?_)
  split
  · refine Contract.Triple.pure (-1) ?_
    rintro producer world ⟨rfl, resting, _covered, empty⟩
    refine ⟨resting, fun consumerId _gated => resting.floor consumerId, ?_⟩
    exact resting.lowKnown.resolve_right (fun known => known empty)
  · rename_i disabled
    refine producer_act ?_ rfl ?_
    · rintro producer before after relied ⟨same, resting, covered, empty⟩
      exact ⟨same, resting_stable producer before after relied resting, covered, empty⟩
    · rintro producer world oracle result after ⟨rfl, resting, covered, empty⟩ holds _met
        performed _same
      cases performed
      refine ⟨resting, fun consumerId gated => ?_, resting.lowPublished⟩
      rcases covered consumerId gated with known | ⟨_empty, enabled⟩
      · rw [empty] at known
        cases known
      · exact absurd disabled enabled

theorem getMinConsumerSequence_triple :
    policy.ProducerTriple (policy.Resting written replies low)
      (SharedConsumerBarrier.getMinConsumerSequence transport)
      (fun rear producer world => policy.Resting written replies low producer world ∧
        policy.Gating low rear producer world) := by
  refine Contract.Triple.bind discoverUnlessCompleted_triple (fun _ => ?_)
  refine Contract.Triple.bind discoveredMinSequence_triple (fun discoveredMin => ?_)
  split
  · exact Contract.Triple.pure _ (fun _ _ held => ⟨held.1, held.2.2⟩)
  · exact minSequenceFallback_triple

theorem sharedConsumerCount_triple :
    policy.ProducerTriple (policy.Resting written replies low)
      (SharedConsumerBarrier.bestEffortConsumerCount transport)
      (fun _ => policy.Resting written replies low) :=
  Contract.Triple.bind discoverUnlessCompleted_triple (fun _ =>
    Contract.Triple.bind barrier_current (fun _ =>
      Contract.Triple.pure _ (fun _ _ held => held.2)))

/-! ### The mmap barrier -/

def CaughtUp (consumerIds : List ConsumerId) (producer : Producer)
    (world : World application.interface) : Prop :=
  ∀ consumerId ∈ producer.consumerBarrier.consumerCursors ++ consumerIds,
    world.producerSequence ≤ world.consumerSequence consumerId

theorem CaughtUp.stable {consumerIds : List ConsumerId} {producer : Producer}
    {before after : World application.interface}
    (caughtUp : CaughtUp consumerIds producer before) (relied : ProducerRely before after) :
    CaughtUp consumerIds producer after := by
  intro consumerId member
  rw [relied.producerSequence]
  exact Int.le_trans (caughtUp consumerId member) (relied.consumerSequence consumerId)

/-- What a pass that fails leaves, where it matters who is in the map. -/
def Harmless (policy : Policy application) (consumerIds : List ConsumerId)
    (producer : Producer) (world : World application.interface) : Prop :=
  (∀ barrier consumerId, ¬ policy.gated barrier consumerId) ∨
    CaughtUp consumerIds producer world

theorem Harmless.stable {consumerIds : List ConsumerId} {producer : Producer}
    {before after : World application.interface}
    (harmless : policy.Harmless consumerIds producer before)
    (relied : ProducerRely before after) : policy.Harmless consumerIds producer after :=
  harmless.imp_right fun caughtUp => caughtUp.stable relied

theorem Harmless.fewer {some fewer : List ConsumerId} {producer later : Producer}
    {world : World application.interface} (harmless : policy.Harmless some producer world)
    (less : later.consumerBarrier.consumerCursors ++ fewer ⊆
      producer.consumerBarrier.consumerCursors ++ some) :
    policy.Harmless fewer later world :=
  harmless.imp_right fun caughtUp consumerId member => caughtUp consumerId (less member)

structure Passing (policy : Policy application) (known looked : List ConsumerId)
    (entries : List DirectoryEntry) (producer : Producer)
    (world : World application.interface) : Prop where
  kept : known ⊆ producer.consumerBarrier.consumerCursors
  covered : producer.consumerBarrier.consumerCursors ⊆ looked
  harmless : DirectoryPasses.stops known entries = true →
    policy.Harmless (DirectoryPasses.named looked entries) producer world

theorem passing_stable {known looked : List ConsumerId} {entries : List DirectoryEntry} :
    ProducerStable (policy.Passing known looked entries) :=
  fun _ _ _ relied passing => ⟨passing.kept, passing.covered,
    fun stopped => (passing.harmless stopped).stable relied⟩

namespace Passing

variable {known looked : List ConsumerId} {rest : List DirectoryEntry}
variable {consumerId : ConsumerId} {producer : Producer}
variable {world : World application.interface}

theorem accepted
    (passing : policy.Passing known looked (.cursorFile consumerId true :: rest) producer world)
    {later : Producer}
    (more : producer.consumerBarrier.consumerCursors ⊆ later.consumerBarrier.consumerCursors)
    (one : later.consumerBarrier.consumerCursors ⊆
      consumerId :: producer.consumerBarrier.consumerCursors) :
    policy.Passing known (consumerId :: looked) rest later world where
  kept := List.Subset.trans passing.kept more
  covered := List.Subset.trans one (List.cons_subset_cons consumerId passing.covered)
  harmless := by
    intro stopped
    have harmless := passing.harmless (by simpa only [DirectoryPasses.stops, true_or, if_true])
    rw [DirectoryPasses.named, if_pos rfl] at harmless
    apply harmless.fewer
    intro other member
    simp only [List.mem_append, List.mem_cons] at member ⊢
    rcases member with known | named
    · rcases List.mem_cons.mp (one known) with same | earlier
      · exact .inr (.inl same)
      · exact .inl earlier
    · exact .inr (.inr named)

theorem skip
    (passing : policy.Passing known looked (.cursorFile consumerId false :: rest) producer
      world) (member : consumerId ∈ producer.consumerBarrier.consumerCursors) :
    policy.Passing known looked rest producer world where
  kept := passing.kept
  covered := passing.covered
  harmless := by
    intro stopped
    have harmless := passing.harmless (by
      rw [DirectoryPasses.stops]
      split
      · exact stopped
      · rfl)
    rwa [DirectoryPasses.named, if_neg Bool.false_ne_true,
      if_pos (passing.covered member)] at harmless

theorem rejected
    (passing : policy.Passing known looked (.cursorFile consumerId false :: rest) producer
      world) (unknown : consumerId ∉ producer.consumerBarrier.consumerCursors) :
    policy.Harmless [] producer world := by
  have stranger : ¬ (false = true ∨ consumerId ∈ known) := fun either =>
    either.elim Bool.false_ne_true fun member => unknown (passing.kept member)
  apply (passing.harmless (by rw [DirectoryPasses.stops, if_neg stranger])).fewer
  rw [List.append_nil]
  exact List.subset_append_left _ _

end Passing

/-- A pass over entries. Where it fails, those it has met are in the map. -/
theorem discoverEntries_triple (known : List ConsumerId) (entries : List DirectoryEntry)
    (looked : List ConsumerId) (discovered : Nat) :
    policy.ProducerTriple
      (fun producer world => policy.Resting written replies low producer world ∧
        policy.Passing known looked entries producer world)
      (MmapConsumerBarrier.discoverEntries entries discovered)
      (fun result producer world => policy.Resting written replies low producer world ∧
        (result = none → policy.Harmless [] producer world)) := by
  induction entries generalizing looked discovered with
  | nil => exact Contract.Triple.pure _ (fun _ _ held => ⟨held.1, fun none => by cases none⟩)
  | cons entry rest ih =>
      cases entry with
      | unreadable =>
          exact Contract.Triple.pure _ (fun _ _ held => ⟨held.1, fun _ => held.2.harmless rfl⟩)
      | foreign =>
          exact (ih looked discovered).strengthen (fun _ _ held =>
            ⟨held.1, held.2.kept, held.2.covered, held.2.harmless⟩)
      | cursorFile consumerId accepted =>
          refine Contract.Triple.bind barrier_current (fun barrier => ?_)
          cases accepted with
          | true =>
              split
              · apply (ih (consumerId :: looked) discovered).strengthen
                rintro producer world ⟨rfl, resting, passing⟩
                exact ⟨resting, passing.accepted (List.Subset.refl _)
                  (List.subset_cons_self _ _)⟩
              · rw [if_pos rfl]
                refine Contract.Triple.bind ((attach_framed passing_stable
                  (fun _ _ _ passing => ⟨passing.kept, passing.covered, passing.harmless⟩)
                    consumerId).strengthen
                    (fun _ _ held => held.2)) (fun attached => ?_)
                cases attached with
                | true =>
                    refine Contract.Triple.bind (barrier_update (fun producer world held => ?_))
                      (fun _ => ih (consumerId :: looked) (discovered + 1))
                    exact ⟨held.1, held.2.accepted (List.subset_cons_self _ _)
                      (List.Subset.refl _)⟩
                | false =>
                    exact (ih (consumerId :: looked) discovered).strengthen
                      (fun _ _ held => ⟨held.1, held.2.accepted (List.Subset.refl _)
                        (List.subset_cons_self _ _)⟩)
          | false =>
              split
              · rename_i member
                apply (ih looked discovered).strengthen
                rintro producer world ⟨rfl, resting, passing⟩
                exact ⟨resting, passing.skip member⟩
              · rename_i unknown
                rw [if_neg Bool.false_ne_true]
                apply Contract.Triple.pure
                rintro producer world ⟨rfl, resting, passing⟩
                exact ⟨resting, fun _ => passing.rejected unknown⟩

theorem mmapDiscoverConsumers_triple (backend : transport.backend = .mmap) :
    policy.ProducerTriple (policy.Resting written replies low)
      MmapConsumerBarrier.discoverConsumers
      (fun result producer world => policy.Resting written replies low producer world ∧
        (result = none → policy.Harmless [] producer world)) := by
  refine Contract.Triple.through (fun (entries : Option (List DirectoryEntry)) producer world =>
    ∃ known, policy.Resting written replies low producer world ∧
      known = producer.consumerBarrier.consumerCursors ∧
      (DirectoryPasses.fails known entries = true →
        policy.Harmless (DirectoryPasses.named known (entries.getD [])) producer world)) ?_
    (fun readDir => Contract.Triple.exists (fun known => ?_))
  · refine producer_actAccepted resting_stable rfl ?_
    intro producer world oracle result after resting holds _met accepted performed _same
    refine ⟨producer.consumerBarrier.consumerCursors, resting, rfl, fun failing => ?_⟩
    cases oracle <;> simp only [perform] at performed
    case directory entries =>
      split at performed
      · rename_i allowed
        cases performed
        exact policy.harmless backend allowed accepted failing
      · cases performed
    all_goals cases performed
  · cases readDir with
    | none =>
        apply Contract.Triple.pure
        rintro producer world ⟨resting, rfl, harmless⟩
        refine ⟨resting, fun _ => (harmless rfl).fewer ?_⟩
        exact List.Subset.refl _
    | some entries =>
        refine (discoverEntries_triple known entries known 0).strengthen ?_
        rintro producer world ⟨resting, rfl, harmless⟩
        exact ⟨resting, List.Subset.refl _, List.Subset.refl _, harmless⟩

theorem fallbackSequence_triple (backend : transport.backend = .mmap) :
    policy.ProducerTriple
      (fun producer world => policy.Resting written replies low producer world ∧
        policy.Harmless [] producer world)
      MmapConsumerBarrier.fallbackSequence
      (fun rear producer world => policy.Resting written replies low producer world ∧
        policy.Gating low rear producer world) := by
  refine producer_act ?_ rfl ?_
  · intro producer before after relied held
    exact ⟨resting_stable producer before after relied held.1, held.2.stable relied⟩
  · rintro producer world oracle result after ⟨resting, harmless⟩ _holds _met performed _same
    cases performed
    refine ⟨resting, fun consumerId gated => ?_, resting.lowPublished⟩
    rcases harmless with ungated | caughtUp
    · exact absurd gated (ungated _ consumerId)
    · exact caughtUp consumerId (List.mem_append_left _ (policy.mmap backend gated))

theorem mmapMinConsumerSequence_triple (backend : transport.backend = .mmap) :
    policy.ProducerTriple (policy.Resting written replies low)
      MmapConsumerBarrier.minConsumerSequence
      (fun minimum producer world => policy.Resting written replies low producer world ∧
        match minimum with
        | some rear => policy.Gating low rear producer world
        | none => policy.Harmless [] producer world) := by
  refine Contract.Triple.bind (mmapDiscoverConsumers_triple backend) (fun discovered => ?_)
  split
  · exact Contract.Triple.pure _ (fun _ _ held => ⟨held.1, held.2 rfl⟩)
  · refine Contract.Triple.bind (barrier_current.strengthen (fun _ _ held => held.1))
      (fun barrier => ?_)
    split
    · rename_i empty
      refine Contract.Triple.through (fun rear producer world =>
        policy.Resting written replies low producer world ∧
          policy.Gating low rear producer world) ?_ (fun rear =>
            Contract.Triple.pure _ (fun _ _ held => held))
      refine producer_act ?_ rfl ?_
      · rintro producer before after relied ⟨same, resting⟩
        exact ⟨same, resting_stable producer before after relied resting⟩
      · rintro producer world oracle result after ⟨rfl, resting⟩ _holds _met performed _same
        cases performed
        refine ⟨resting, fun consumerId gated => ?_, resting.lowPublished⟩
        have known := policy.mmap backend gated
        rw [List.isEmpty_iff.mp empty] at known
        cases known
    · rename_i nonempty
      refine Contract.Triple.bind iterate_triple (fun order => ?_)
      refine Contract.Triple.assume (fun _ _ held => held.2) (fun ordered => ?_)
      have some : order ≠ [] := ordered (fun empty => nonempty (List.isEmpty_iff.mpr empty))
      refine Contract.Triple.bind ((loadMinimum_triple (fun _ _ => rfl)).strengthen
        (fun _ _ held => held.1)) (fun minimum => ?_)
      refine Contract.Triple.pure _ ?_
      rintro producer world ⟨resting, collecting⟩
      obtain ⟨first, member⟩ := List.exists_mem_of_ne_nil _ some
      have known := (collecting.ordered first).mp member
      exact ⟨resting, (collecting.gating (List.ne_nil_of_mem known)).1⟩

theorem bestEffortMinConsumerSequence_triple (backend : transport.backend = .mmap) :
    policy.ProducerTriple (policy.Resting written replies low)
      MmapConsumerBarrier.bestEffortMinConsumerSequence
      (fun rear producer world => policy.Resting written replies low producer world ∧
        policy.Gating low rear producer world) := by
  refine Contract.Triple.bind (mmapMinConsumerSequence_triple backend) (fun minimum => ?_)
  split
  · exact Contract.Triple.pure _ (fun _ _ held => held)
  · exact fallbackSequence_triple backend

theorem mmapConsumerCount_triple (backend : transport.backend = .mmap) :
    policy.ProducerTriple (policy.Resting written replies low)
      MmapConsumerBarrier.bestEffortConsumerCount
      (fun _ => policy.Resting written replies low) :=
  Contract.Triple.bind (mmapDiscoverConsumers_triple backend) (fun _ =>
    Contract.Triple.bind barrier_current (fun _ =>
      Contract.Triple.pure _ (fun _ _ held => held.2.1)))

/-! ### Either barrier -/

theorem gatingSequence_triple :
    policy.ProducerTriple (policy.Resting written replies low)
      (ConsumerBarrier.gatingSequence transport)
      (fun rear producer world => policy.Resting written replies low producer world ∧
        policy.Gating low rear producer world) := by
  unfold ConsumerBarrier.gatingSequence
  split
  · exact getMinConsumerSequence_triple
  · rename_i backend
    exact bestEffortMinConsumerSequence_triple backend

theorem bestEffortConsumerCount_triple :
    policy.ProducerTriple (policy.Resting written replies low)
      (ConsumerBarrier.bestEffortConsumerCount transport)
      (fun _ => policy.Resting written replies low) := by
  unfold ConsumerBarrier.bestEffortConsumerCount
  split
  · exact sharedConsumerCount_triple
  · rename_i backend
    exact mmapConsumerCount_triple backend

end Policy
end Ring
