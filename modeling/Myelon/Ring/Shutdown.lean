/-
A managed publication after a graceful shutdown.

The shutdown is recorded where the required consumers are evaluated, and they are
evaluated where the ring has no room. While each later call finds no room, it gives the
same error and writes nothing; the first that finds room publishes.
-/

import Myelon.Ring.Frames
import Myelon.Ring.LateJoin

namespace Ring

open Interleaving Delivery

variable {transport : Transport} {Value : Type} {passes : DirectoryPasses}
variable {consumerCounters : ConsumerCounters}

/-! ### The calls after a shutdown -/

def ProducerRequest.managedEvents : ProducerRequest Value → Nat
  | .publishManaged _ => 1
  | .publishBatchManaged n _ => n
  | _ => 0

def Stopped (replies : List (Nat × ProducerReply)) (error : RequiredConsumerError) : Prop :=
  (∃ consumerId lastSequence stalledFor,
    error = .gracefulShutdownTriggered consumerId lastSequence stalledFor) ∧
  ∃ written, (written, ProducerReply.managed (.error error)) ∈ replies

/-- The request that is being served asks for events, after a shutdown. -/
def StoppedCall (asked : Nat → Nat) (replies : List (Nat × ProducerReply)) : Prop :=
  (∃ error, Stopped replies error) ∧ 1 ≤ asked replies.length

def ProducerReply.stops : ProducerReply → Bool
  | .managed (.error (.gracefulShutdownTriggered _ _ _)) => true
  | _ => false

theorem stopped_iff {replies : List (Nat × ProducerReply)} :
    (∃ entry ∈ replies, entry.2.stops = true) ↔ ∃ error, Stopped replies error := by
  constructor
  · rintro ⟨⟨written, reply⟩, member, stops⟩
    simp only [ProducerReply.stops] at stops
    split at stops
    · exact ⟨_, ⟨_, _, _, rfl⟩, written, member⟩
    · cases stops
  · rintro ⟨error, ⟨_, _, _, rfl⟩, written, member⟩
    exact ⟨_, member, rfl⟩

instance (asked : Nat → Nat) (replies : List (Nat × ProducerReply)) :
    Decidable (StoppedCall asked replies) :=
  decidable_of_iff ((∃ entry ∈ replies, entry.2.stops = true) ∧ 1 ≤ asked replies.length)
    (and_congr_left fun _ => stopped_iff)

/-- What a request after the shutdown finds: the clearance does not cover it, and the pass
over the directory goes through. Each request asks for what is given. -/
def Asks (asked : Nat → Nat) :
    Party → Self → Action (plain Value) → Oracle (plain Value) → World (plain Value) → Prop
  | .producer, .producer producer, .nextProducerRequest, .producerRequest request, world =>
      asked world.replies.length = request.managedEvents ∧
      (StoppedCall asked world.replies →
        producer.sequenceClearOfConsumers < producer.sequence - 1 + request.managedEvents)
  | .producer, .producer producer, .readDirectory, .directory entries, world =>
      StoppedCall asked world.replies →
        ¬ DirectoryPasses.fails producer.consumerBarrier.consumerCursors entries = true
  | _, _, _, _, _ => True

/-- There is a consumer for each call that is so far behind, when the call looks at its
cursor, that the ring has no room for what is asked. -/
def StaysFull (transport : Transport) (asked : Nat → Nat) (keeper : Nat → ConsumerId) :
    Party → Self → Action (plain Value) → World (plain Value) → Prop
  | .producer, .producer producer, .readDirectory, world =>
      StoppedCall asked world.replies → producer.consumerBarrier.consumerCursors ≠ []
  | .producer, .producer _, .iterate keys, world =>
      StoppedCall asked world.replies → keeper world.replies.length ∈ keys
  | .producer, .producer producer, .loadConsumerSequence consumerId, world =>
      StoppedCall asked world.replies → consumerId = keeper world.replies.length →
        -1 ≤ world.cursor consumerId ∧
        world.cursor consumerId + transport.ring.size <
          producer.sequence - 1 + asked world.replies.length
  | _, _, _, _ => True

instance (asked : Nat → Nat) (party : Party) (self : Self)
    (action : Action (plainApplication transport Value consumerCounters).interface)
    (oracle : ((plainApplication transport Value consumerCounters).machine passes).Oracle)
    (world : World (plainApplication transport Value consumerCounters).interface) :
    Decidable (Asks asked party self action oracle world) := by
  revert oracle
  intro (oracle : Oracle (plain Value))
  match party, self with
  | .consumer _, _ => exact .isTrue trivial
  | .producer, .consumer _ => exact .isTrue trivial
  | .producer, .attaching _ => exact .isTrue trivial
  | .producer, .producer producer =>
      apply Action.casesOn (motive := fun action =>
        Decidable (Asks asked .producer (.producer producer) action oracle world)) action
      case nextProducerRequest =>
        apply Oracle.casesOn (motive := fun oracle => Decidable
          (Asks asked .producer (.producer producer) .nextProducerRequest oracle world)) oracle
        case producerRequest => exact fun _ => (inferInstance : Decidable (_ ∧ (_ → _ < _)))
        all_goals
          intros
          exact .isTrue trivial
      case readDirectory =>
        apply Oracle.casesOn (motive := fun oracle => Decidable
          (Asks asked .producer (.producer producer) .readDirectory oracle world)) oracle
        case directory => exact fun _ => (inferInstance : Decidable (_ → ¬ _))
        all_goals
          intros
          exact .isTrue trivial
      all_goals
        intros
        exact .isTrue trivial

instance (transport : Transport) (asked : Nat → Nat) (keeper : Nat → ConsumerId) (party : Party)
    (self : Self) (action : Action (plain Value)) (world : World (plain Value)) :
    Decidable (StaysFull transport asked keeper party self action world) := by
  match party, self with
  | .consumer _, _ => exact .isTrue trivial
  | .producer, .consumer _ => exact .isTrue trivial
  | .producer, .attaching _ => exact .isTrue trivial
  | .producer, .producer producer =>
      apply Action.casesOn (motive := fun action =>
        Decidable (StaysFull transport asked keeper .producer (.producer producer) action world))
        action
      case readDirectory =>
        exact (inferInstance : Decidable
          (StoppedCall asked world.replies → producer.consumerBarrier.consumerCursors ≠ []))
      case iterate => exact fun _ => (inferInstance : Decidable (_ → _ ∈ _))
      case loadConsumerSequence =>
        exact fun _ => (inferInstance : Decidable (_ → _ → _ ≤ _ ∧ _ < _))
      all_goals
        intros
        exact .isTrue trivial

/-- The reply of a managed publication after a shutdown is that shutdown, and nothing was
written since the reply before. -/
def Repeats (asked : Nat → Nat) (before : List (Nat × ProducerReply))
    (entry : Nat × ProducerReply) : Prop :=
  ∀ error result, Stopped before error → entry.2 = .managed result →
    1 ≤ asked before.length →
    result = .error error ∧ before.getLast?.map Prod.fst = some entry.1

/-! ### The contract -/

def Action.ofProducer {interface : Interface} : Action interface → Bool
  | .updateSlot _ _ _ => true
  | .reply _ => true
  | _ => false

theorem perform_undisturbed {interface : Interface} {action : Action interface}
    {oracle : Oracle interface} {before after : World interface} {result : action.Result}
    (others : action.ofProducer = false)
    (performed : perform passes action oracle before = some (result, after)) :
    after.replies = before.replies ∧ after.written = before.written := by
  by_cases quiet : action.quiet = true
  · have same := perform_quiet quiet performed
    exact ⟨same.replies, same.written⟩
  cases action
  case updateSlot => cases others
  case reply => cases others
  case newOrAttachConsumerSequence consumerId =>
    simp only [perform] at performed
    split at performed <;> cases performed <;> exact ⟨rfl, rfl⟩
  case attachConsumerSequence consumerId =>
    simp only [perform] at performed
    split at performed <;> cases performed <;> exact ⟨rfl, rfl⟩
  case refused => cases oracle <;> cases performed
  all_goals first
    | exact absurd rfl quiet
    | (cases performed; exact ⟨rfl, rfl⟩)

def sticking (transport : Transport) (Value : Type) (consumerCounters : ConsumerCounters)
    (passes : DirectoryPasses) (asked : Nat → Nat) (keeper : Nat → ConsumerId) :
    Contract ((plainApplication transport Value consumerCounters).machine passes) where
  condition := StaysFull transport asked keeper
  accepts := Asks asked
  guarantee := fun party _ action world => match party, action with
    | .producer, .reply reply => Repeats asked world.replies (world.written.length, reply)
    | .producer, action => action.publishes = true → ¬ StoppedCall asked world.replies
    | .consumer _, action => action.ofProducer = false
  invariant := fun world => Throughout (Repeats asked) world.replies
  rely := fun party before after => match party with
    | .producer => after.replies = before.replies ∧ after.written = before.written
    | .consumer _ => True
  relyRefl := by
    intro party world
    cases party with
    | producer => exact ⟨rfl, rfl⟩
    | consumer consumerId => trivial
  relyTrans := by
    intro party first second third left right
    cases party with
    | producer => exact ⟨right.1.trans left.1, right.2.trans left.2⟩
    | consumer consumerId => trivial
  performed := by
    intro party self action oracle before result after holds _met guaranteed performed
    cases party with
    | producer =>
        constructor
        · by_cases replies : ∃ reply, action = .reply reply
          · obtain ⟨reply, rfl⟩ := replies
            cases performed
            exact throughout_snoc.mpr ⟨holds, guaranteed⟩
          · have same : after.replies = before.replies := by
              by_cases writes : action.ofProducer = false
              · exact (perform_undisturbed writes performed).1
              · cases action
                case reply reply => exact absurd ⟨reply, rfl⟩ replies
                case updateSlot sequence slot update =>
                  simp only [Application.machine, perform] at performed
                  split at performed <;> cases performed
                  rfl
                all_goals exact absurd rfl writes
            rw [same]
            exact holds
        · intro other different
          cases other with
          | producer => exact absurd rfl different
          | consumer consumerId => trivial
    | consumer consumerId =>
        obtain ⟨replies, written⟩ := perform_undisturbed guaranteed performed
        constructor
        · rw [replies]
          exact holds
        · intro other _different
          cases other with
          | producer => exact ⟨replies, written⟩
          | consumer otherId => trivial
  restarted := by
    intro party before program after holds restarted
    cases party with
    | producer => cases restarted
    | consumer consumerId =>
        simp only [Application.machine] at restarted
        split at restarted
        · cases restarted
          refine ⟨holds, fun other _different => ?_⟩
          cases other with
          | producer => exact ⟨rfl, rfl⟩
          | consumer otherId => trivial
        · cases restarted

/-! ### Assertions about the producer, the replies and what was written -/

section Producer

variable {asked : Nat → Nat} {keeper : Nat → ConsumerId}
variable {replies : List (Nat × ProducerReply)} {written : List Value} {α : Type}

theorem sticking_allows {self : Self} {action : Action (plain Value)} {world : World (plain Value)}
    (silent : ∀ reply, action ≠ .reply reply)
    (calm : action.publishes = true → ¬ StoppedCall asked world.replies) :
    (sticking transport Value consumerCounters passes asked keeper).guarantee .producer self
      action world := by
  cases action
  case reply reply => exact absurd rfl (silent reply)
  all_goals exact calm

theorem sticking_lasting
    (about : Producer → List (Nat × ProducerReply) → List Value → Prop) :
    Lasting (sticking transport Value consumerCounters passes asked keeper)
      (fun producer world => about producer world.replies world.written) where
  stable := by
    rintro producer before after ⟨sameReplies, sameWritten⟩ held
    rw [sameReplies, sameWritten]
    exact held
  allowed := by
    intro self action world looks
    apply sticking_allows
    · rintro reply rfl
      cases looks
    · intro publishes
      cases action <;> first | (cases publishes; done) | cases looks
  performed := by
    intro producer action oracle before result after looks _met performed held
    have others : action.ofProducer = false := by
      cases action <;> first | rfl | cases looks
    obtain ⟨sameReplies, sameWritten⟩ := perform_undisturbed others performed
    rw [sameReplies, sameWritten]
    exact held

def Keeping (holds : Option RequiredConsumerLivenessState → Prop)
    (replies : List (Nat × ProducerReply)) (producer : Producer) (world : World (plain Value)) :
    Prop :=
  holds producer.requiredConsumerLiveness ∧ world.replies = replies

variable {holds : Option RequiredConsumerLivenessState → Prop}

theorem keeping_lasting :
    Lasting (sticking transport Value consumerCounters passes asked keeper)
      (Keeping holds replies) :=
  sticking_lasting (fun producer answered _ =>
    holds producer.requiredConsumerLiveness ∧ answered = replies)

theorem keeping_reserving :
    Reserving (sticking transport Value consumerCounters passes asked keeper)
      (Keeping holds replies) where
  looking :=
    { lasting := keeping_lasting
      barrier := fun _ _ _ _ held => held }
  clearance := fun _ _ _ held => held

theorem keeping_looking : Looking (sticking transport Value consumerCounters passes asked keeper)
    (Keeping holds replies) :=
  keeping_reserving.looking

theorem keeping_alerts (alert : RequiredConsumerAlert) :
    Leaves (sticking transport Value consumerCounters passes asked keeper)
      (Keeping holds replies) (act (.alert alert)) := by
  apply Contract.Triple.perform
  intro producer world before held relied _holds _met
  have here := keeping_lasting.stable producer world before relied held
  refine ⟨sticking_allows ?_ ?_, fun oracle result after performed => ?_⟩
  · intro reply impossible
    cases impossible
  · intro publishes
    cases publishes
  · cases performed
    exact here

theorem keeping_publishing (calm : ¬ StoppedCall asked replies) :
    Publishing (sticking transport Value consumerCounters passes asked keeper)
      (Keeping holds replies) where
  reserving := keeping_reserving
  allowed := by
    intro producer action world publishes held
    apply sticking_allows
    · rintro reply rfl
      cases publishes
    · intro _publishes
      rw [held.2]
      exact calm
  published := by
    intro producer action oracle before result after publishes performed held
    cases action
    case updateSlot sequence slot update =>
      simp only [perform] at performed
      split at performed <;> cases performed
      exact held
    case storeProducerSequence sequence =>
      cases performed
      exact held
    all_goals cases publishes
  counts := by
    apply Contract.Triple.perform
    intro producer world before held relied _holds _met
    have here := keeping_lasting.stable producer world before relied held
    refine ⟨nofun, fun oracle result after performed => ?_⟩
    cases performed
    exact here
  sequence := fun _ _ _ held => held

/-! ### A managed call before the shutdown -/

def Started (liveness : Option RequiredConsumerLivenessState) : Prop :=
  ∀ state, liveness = some state → state.hasCompletedStartup = true

def Terminal (error : RequiredConsumerError) (liveness : Option RequiredConsumerLivenessState) :
    Prop :=
  ∃ state, liveness = some state ∧ state.hasCompletedStartup = true ∧
    state.terminalError = some error

theorem setLiveness_keeping (meets : Option RequiredConsumerLivenessState → Prop)
    {pre : Producer → World (plain Value) → Prop}
    (state : RequiredConsumerLivenessState) (met : meets (some state))
    (answered : ∀ producer world, pre producer world → world.replies = replies) :
    FrameTriple (sticking transport Value consumerCounters passes asked keeper)
      pre (Producer.setLiveness state) (fun _ => Keeping meets replies) := by
  intro producer world held fuel
  cases fuel with
  | zero => trivial
  | succ fuel => exact ⟨met, answered producer world held⟩

theorem completeStartup_keeping (state : RequiredConsumerLivenessState) :
    FrameTriple (sticking transport Value consumerCounters passes asked keeper)
      (Keeping holds replies) (Producer.completeStartup state)
      (fun _ => Keeping Started replies) := by
  apply Contract.Triple.bind (keeping_looking.act rfl)
  intro now
  apply Contract.Triple.bind (keeping_looking.seedProgress _ _ _)
  intro seeded
  apply setLiveness_keeping _ _ _ (fun _ _ held => held.2)
  rintro _ ⟨⟩
  rfl

def Awaited (replies : List (Nat × ProducerReply))
    (ready : Except RequiredConsumerError Unit) (producer : Producer)
    (world : World (plain Value)) : Prop :=
  match ready with
  | .ok () => Keeping Started replies producer world
  | .error error => (∃ missing, error = .startupTimeout missing) ∧
      Keeping (fun _ => True) replies producer world

theorem awaitRequiredConsumers_keeping (state : RequiredConsumerLivenessState) (deadline : Nat) :
    FrameTriple (sticking transport Value consumerCounters passes asked keeper)
      (Keeping (fun _ => True) replies) (Producer.awaitRequiredConsumers state deadline)
      (Awaited replies) := by
  refine Contract.Triple.repeat' (fun _ => Keeping (fun _ => True) replies) ?_ ()
  intro round
  apply Contract.Triple.bind (keeping_looking.missingRequiredConsumers _)
  intro missing
  split
  · apply Contract.Triple.bind (completeStartup_keeping state)
    intro _
    exact Contract.Triple.pure _ (fun _ _ held => held)
  · apply Contract.Triple.bind (keeping_looking.act rfl)
    intro now
    split
    · exact Contract.Triple.pure _ (fun _ _ held => ⟨⟨missing, rfl⟩, held⟩)
    · apply Contract.Triple.bind (keeping_looking.act rfl)
      intro _
      exact Contract.Triple.pure _ (fun _ _ held => held)

theorem ensureReady_keeping :
    FrameTriple (sticking transport Value consumerCounters passes asked keeper)
      (Keeping (fun _ => True) replies) Producer.ensureRequiredConsumersReady
      (Awaited replies) := by
  apply Contract.Triple.bind Contract.Triple.get
  intro producer
  split
  · rename_i none
    refine Contract.Triple.pure _ ?_
    rintro self world ⟨rfl, _true, answered⟩
    refine ⟨?_, answered⟩
    intro state some
    rw [none] at some
    cases some
  · rename_i state configured
    split
    · rename_i completed
      refine Contract.Triple.pure _ ?_
      rintro self world ⟨rfl, _true, answered⟩
      refine ⟨?_, answered⟩
      intro other some
      rw [configured] at some
      cases some
      exact completed
    · apply Contract.Triple.bind ((keeping_looking.act rfl).strengthen (fun _ _ held => held.2))
      intro start
      exact awaitRequiredConsumers_keeping state _

def Left (replies : List (Nat × ProducerReply)) {β : Type}
    (result : Except RequiredConsumerError β) (producer : Producer)
    (world : World (plain Value)) : Prop :=
  Keeping Started replies producer world ∧
    ∀ error, result = .error error → Terminal error producer.requiredConsumerLiveness

theorem checkLiveness_keeping :
    FrameTriple (sticking transport Value consumerCounters passes asked keeper)
      (Keeping Started replies) Producer.checkRequiredConsumerLiveness (Left replies) := by
  apply Contract.Triple.bind Contract.Triple.get
  intro producer
  split
  · refine Contract.Triple.pure _ ?_
    rintro self world ⟨_same, held⟩
    exact ⟨held, fun error impossible => by cases impossible⟩
  · rename_i state configured
    apply Contract.Triple.given (state.hasCompletedStartup = true)
    · rintro self world ⟨rfl, started, _answered⟩
      exact started state configured
    intro completed
    apply Contract.Triple.bind ((keeping_looking.act rfl).strengthen (fun _ _ held => held.2))
    intro now
    apply Contract.Triple.bind (keeping_looking.act rfl)
    intro producerSequence
    apply Contract.Triple.bind (keeping_looking.evaluateBlocked keeping_alerts _ _ _)
    rintro ⟨failure, evaluated⟩
    apply Contract.Triple.given
      (Looking.EvaluatedFrom state (failure, evaluated)) (fun _ _ held => held.1)
    intro from_state
    have finished : evaluated.hasCompletedStartup = true :=
      from_state.hasCompletedStartup.trans completed
    apply Contract.Triple.bind (setLiveness_keeping
      (fun liveness => liveness = some evaluated) evaluated rfl
      (fun _ _ held => held.2.2))
    intro _
    have started : ∀ {liveness : Option RequiredConsumerLivenessState},
        liveness = some evaluated → Started liveness := by
      rintro _ rfl other ⟨⟩
      exact finished
    cases failure with
    | none =>
        refine Contract.Triple.pure _ (fun _ _ held => ⟨⟨started held.1, held.2⟩, ?_⟩)
        intro error impossible
        cases impossible
    | some error =>
        refine Contract.Triple.pure _ (fun _ _ held => ⟨⟨started held.1, held.2⟩, ?_⟩)
        rintro _ ⟨⟩
        exact ⟨evaluated, held.1, finished, from_state.terminalError error rfl⟩

theorem publishManagedLoop_keeping (n : Nat) {apply : ProducerProcess (plain Value) Int}
    (applies : Leaves (sticking transport Value consumerCounters passes asked keeper)
      (Keeping Started replies) apply) :
    FrameTriple (sticking transport Value consumerCounters passes asked keeper)
      (Keeping Started replies) (Producer.publishManagedLoop transport n apply)
      (Left replies) := by
  refine Contract.Triple.repeat' (fun _ => Keeping Started replies) ?_ ()
  intro round
  apply Contract.Triple.bind (keeping_reserving.nextSequences n)
  intro reserved
  cases reserved with
  | ok last =>
      apply Contract.Triple.bind applies
      intro sequence
      exact Contract.Triple.pure _ (fun _ _ held => ⟨held, fun _ impossible => nomatch impossible⟩)
  | error missing =>
      apply Contract.Triple.bind checkLiveness_keeping
      intro checked
      cases checked with
      | error error =>
          exact Contract.Triple.pure _ (fun _ _ held =>
            ⟨held.1, fun _ same => held.2 _ (by cases same; rfl)⟩)
      | ok =>
          apply Contract.Triple.bind ((keeping_looking.act rfl).strengthen
            (fun _ _ held => held.1))
          intro _
          exact Contract.Triple.pure _ (fun _ _ held => held)

/-! ### A managed call after the shutdown -/

structure Producer.Unmoved (base producer : Producer) : Prop where
  liveness : producer.requiredConsumerLiveness = base.requiredConsumerLiveness
  sequence : producer.sequence = base.sequence
  clear : producer.sequenceClearOfConsumers = base.sequenceClearOfConsumers

def Halted (base : Producer) (replies : List (Nat × ProducerReply)) (written : List Value)
    (producer : Producer) (world : World (plain Value)) : Prop :=
  base.Unmoved producer ∧ world.replies = replies ∧ world.written = written

variable {base : Producer}

theorem Halted.rebarrier {producer : Producer} {world : World (plain Value)}
    (halted : Halted base replies written producer world) (barrier : ConsumerBarrier) :
    Halted base replies written { producer with consumerBarrier := barrier } world :=
  ⟨⟨halted.1.liveness, halted.1.sequence, halted.1.clear⟩, halted.2⟩

theorem halted_lasting (about : Producer → Prop) :
    Lasting (sticking transport Value consumerCounters passes asked keeper)
    (fun producer world => about producer ∧ Halted base replies written producer world) :=
  sticking_lasting (fun producer answered wrote =>
    about producer ∧ base.Unmoved producer ∧ answered = replies ∧ wrote = written)

theorem halted_looking : Looking (sticking transport Value consumerCounters passes asked keeper)
    (Halted base replies written) where
  lasting := sticking_lasting (fun producer answered wrote =>
    base.Unmoved producer ∧ answered = replies ∧ wrote = written)
  barrier := fun _ _ barrier _ held => held.rebarrier barrier

section Call

variable (called : StoppedCall asked replies)

include called

theorem loadMinimum_halted {counts : Int → Bool} (counted : ∀ sequence ≥ -1, counts sequence = true)
    {order : List ConsumerId} (member : keeper replies.length ∈ order) :
    FrameTriple (sticking transport Value consumerCounters passes asked keeper)
      (Halted base replies written) (ConsumerBarrier.loadMinimum counts order)
      (fun minimum producer world =>
        minimum + transport.ring.size < base.sequence - 1 + asked replies.length ∧
          Halted base replies written producer world) := by
  refine Contract.Triple.conseq (Contract.Triple.fold (fun items minimum producer world =>
    (keeper replies.length ∈ items ∨
      minimum + transport.ring.size < base.sequence - 1 + asked replies.length) ∧
    Halted base replies written producer world) order ?_ _) (fun _ _ held => ⟨.inl member, held⟩)
    (fun _ _ _ held => ⟨held.1.resolve_left List.not_mem_nil, held.2⟩)
  intro consumerId rest minimum
  refine Contract.Triple.through (fun sequence producer world =>
    (consumerId = keeper replies.length → -1 ≤ sequence ∧
      sequence + transport.ring.size < base.sequence - 1 + asked replies.length) ∧
    (keeper replies.length ∈ consumerId :: rest ∨
      minimum + transport.ring.size < base.sequence - 1 + asked replies.length) ∧
    Halted base replies written producer world)
    ((halted_lasting _).acted rfl ?_) (fun sequence => ?_)
  · intro producer world oracle result after here held met _accepted performed
    refine ⟨fun same => ?_, held⟩
    obtain ⟨_held, unmoved, answered, _wrote⟩ := here
    simp only [perform] at performed
    split at performed <;> cases performed
    have low := met (answered ▸ called) (by rw [answered]; exact same)
    rw [answered, unmoved.sequence] at low
    exact low
  · refine Contract.Triple.pure _ ?_
    rintro producer world ⟨loaded, ahead, held⟩
    refine ⟨?_, held⟩
    by_cases same : consumerId = keeper replies.length
    · obtain ⟨floor, low⟩ := loaded same
      rw [if_pos (counted sequence floor)]
      exact .inr (by omega)
    · rcases ahead with later | low
      · exact .inl ((List.mem_cons.mp later).resolve_left (fun equal => same equal.symm))
      · refine .inr ?_
        split <;> omega

theorem iterate_halted (keys : List ConsumerId) :
    FrameTriple (sticking transport Value consumerCounters passes asked keeper)
      (Halted base replies written) (act (.iterate keys))
      (fun (order : List ConsumerId) producer world => keeper replies.length ∈ order ∧
        Halted base replies written producer world) := by
  apply halted_looking.lasting.acted rfl
  intro producer world oracle result after here held met _accepted performed
  refine ⟨?_, held⟩
  have member := met (here.2.1 ▸ called)
  rw [here.2.1] at member
  cases oracle
  case order permuted =>
    simp only [perform] at performed
    split at performed <;> cases performed
    rename_i perm
    exact (List.isPerm_iff.mp perm).mem_iff.mpr member
  all_goals cases performed

variable (inRange : base.sequence - 1 + asked replies.length < 2 ^ 63)

include inRange

theorem getMinConsumerSequence_halted :
    FrameTriple (sticking transport Value consumerCounters passes asked keeper)
      (Halted base replies written) (SharedConsumerBarrier.getMinConsumerSequence transport)
      (fun minimum producer world =>
        minimum + transport.ring.size < base.sequence - 1 + asked replies.length ∧
          Halted base replies written producer world) := by
  apply Contract.Triple.bind halted_looking.discoverUnlessCompleted
  intro _
  refine Contract.Triple.through (fun discoveredMin producer world =>
    (∃ minimum, discoveredMin = some minimum ∧
      minimum + transport.ring.size < base.sequence - 1 + asked replies.length) ∧
    Halted base replies written producer world) ?_ (fun discoveredMin => ?_)
  · apply Contract.Triple.bind Leaves.current
    intro barrier
    apply Contract.Triple.bind (iterate_halted called _)
    intro order
    apply Contract.Triple.assume (fun _ _ held => held.1)
    intro member
    apply Contract.Triple.bind ((loadMinimum_halted called (by simp) member).strengthen
      (fun _ _ held => held.2))
    intro minimum
    refine Contract.Triple.pure _ ?_
    rintro producer world ⟨low, held⟩
    refine ⟨⟨minimum, ?_, low⟩, held⟩
    rw [if_neg (by omega)]
  · apply Contract.Triple.assume (fun _ _ held => held.1)
    rintro ⟨minimum, rfl, low⟩
    exact Contract.Triple.pure _ (fun _ _ held => ⟨low, held.2⟩)

omit called inRange in
theorem discoverEntries_halted (entries : List DirectoryEntry) (discovered : Nat) :
    FrameTriple (sticking transport Value consumerCounters passes asked keeper)
      (fun producer world => (producer.consumerBarrier.consumerCursors ≠ [] ∧
        DirectoryPasses.stops producer.consumerBarrier.consumerCursors entries = false) ∧
        Halted base replies written producer world)
      (MmapConsumerBarrier.discoverEntries entries discovered)
      (fun found producer world => found.isSome = true ∧
        producer.consumerBarrier.consumerCursors ≠ [] ∧
        Halted base replies written producer world) := by
  induction entries generalizing discovered with
  | nil => exact Contract.Triple.pure _ (fun _ _ held => ⟨rfl, held.1.1, held.2⟩)
  | cons entry rest ih =>
      cases entry with
      | unreadable =>
          exact Contract.Triple.pure _ (fun _ _ held => nomatch held.1.2)
      | foreign => exact ih discovered
      | cursorFile consumerId accepted =>
          apply Contract.Triple.bind Leaves.seen
          intro barrier
          split
          · rename_i member
            apply (ih discovered).strengthen
            rintro producer world ⟨rfl, ⟨known, through⟩, held⟩
            rw [DirectoryPasses.stops, if_pos (.inr member)] at through
            exact ⟨⟨known, through⟩, held⟩
          · rename_i stranger
            split
            · rename_i accepts
              apply Contract.Triple.bind ((halted_lasting
                (fun producer => producer.consumerBarrier.consumerCursors ≠ [] ∧
                  DirectoryPasses.stops producer.consumerBarrier.consumerCursors rest = false)).act
                rfl |>.strengthen ?_)
              · intro attached
                split
                · refine Contract.Triple.through (fun _ producer world =>
                    (producer.consumerBarrier.consumerCursors ≠ [] ∧ DirectoryPasses.stops
                      producer.consumerBarrier.consumerCursors rest = false) ∧
                    Halted base replies written producer world) ?_ (fun _ => ih _)
                  intro producer world held fuel
                  cases fuel with
                  | zero => trivial
                  | succ fuel =>
                      exact ⟨⟨List.cons_ne_nil _ _, DirectoryPasses.stops_grows
                        (List.subset_cons_self _ _) held.1.2⟩, held.2.rebarrier _⟩
                · exact ih discovered
              · rintro producer world ⟨rfl, ⟨known, through⟩, held⟩
                rw [DirectoryPasses.stops, if_pos (.inl accepts)] at through
                exact ⟨⟨known, through⟩, held⟩
            · rename_i refused
              refine Contract.Triple.pure _ ?_
              rintro producer world ⟨rfl, ⟨_known, through⟩, _held⟩
              rw [DirectoryPasses.stops, if_neg (fun either => either.elim refused stranger)]
                at through
              cases through

omit inRange in
theorem minConsumerSequence_halted :
    FrameTriple (sticking transport Value consumerCounters passes asked keeper)
      (Halted base replies written) MmapConsumerBarrier.minConsumerSequence
      (fun found producer world =>
        (∃ minimum, found = some minimum ∧
          minimum + transport.ring.size < base.sequence - 1 + asked replies.length) ∧
        Halted base replies written producer world) := by
  refine Contract.Triple.through (fun found producer world => found.isSome = true ∧
    producer.consumerBarrier.consumerCursors ≠ [] ∧
    Halted base replies written producer world) ?_ (fun found => ?_)
  · refine Contract.Triple.through (fun (entries : Option (List DirectoryEntry))
      producer world => (producer.consumerBarrier.consumerCursors ≠ [] ∧
        DirectoryPasses.fails producer.consumerBarrier.consumerCursors entries = false) ∧
      Halted base replies written producer world) (halted_looking.lasting.acted rfl ?_)
      (fun readDir => ?_)
    · intro producer world oracle result after here held met accepted performed
      refine ⟨?_, held⟩
      have known := met (here.2.1 ▸ called)
      cases oracle
      case directory entries =>
        have through := accepted (here.2.1 ▸ called)
        simp only [perform] at performed
        split at performed <;> cases performed
        exact ⟨known, Bool.eq_false_iff.mpr through⟩
      all_goals cases performed
    · cases readDir with
      | none => exact Contract.Triple.pure _ (fun _ _ held => nomatch held.1.2)
      | some entries => exact discoverEntries_halted entries 0
  · cases found with
    | none => exact Contract.Triple.pure _ (fun _ _ held => nomatch held.1)
    | some count =>
        apply Contract.Triple.bind Leaves.seen
        intro barrier
        split
        · rename_i empty
          apply Contract.Triple.given False
          · rintro producer world ⟨rfl, _some, known, _held⟩
            exact known (List.isEmpty_iff.mp empty)
          · exact False.elim
        · apply Contract.Triple.bind ((iterate_halted called _).strengthen
            (fun _ _ held => held.2.2.2))
          intro order
          apply Contract.Triple.assume (fun _ _ held => held.1)
          intro member
          apply Contract.Triple.bind ((loadMinimum_halted called (fun _ _ => rfl)
            member).strengthen (fun _ _ held => held.2))
          intro minimum
          exact Contract.Triple.pure _ (fun _ _ held => ⟨⟨minimum, rfl, held.1⟩, held.2⟩)

theorem gatingSequence_halted :
    FrameTriple (sticking transport Value consumerCounters passes asked keeper)
      (Halted base replies written) (ConsumerBarrier.gatingSequence transport)
      (fun minimum producer world =>
        minimum + transport.ring.size < base.sequence - 1 + asked replies.length ∧
          Halted base replies written producer world) := by
  unfold ConsumerBarrier.gatingSequence
  split
  · exact getMinConsumerSequence_halted called inRange
  · apply Contract.Triple.bind (minConsumerSequence_halted called)
    intro found
    apply Contract.Triple.assume (fun _ _ held => held.1)
    rintro ⟨minimum, rfl, low⟩
    exact Contract.Triple.pure _ (fun _ _ held => ⟨low, held.2⟩)

theorem refreshClearanceWindow_halted :
    FrameTriple (sticking transport Value consumerCounters passes asked keeper)
      (Halted base replies written)
      (Producer.refreshClearanceWindow transport (asked replies.length))
      (fun cleared producer world => (∃ missing, cleared = .error missing) ∧
        Halted base replies written producer world) := by
  have lasting : Lasting (sticking transport Value consumerCounters passes asked keeper)
      (Halted base replies written) := halted_looking.lasting
  apply Contract.Triple.bind Contract.Triple.get
  intro before
  apply Contract.Triple.given (base.Unmoved before)
  · rintro producer world ⟨rfl, held⟩
    exact held.1
  intro unmoved
  apply Contract.Triple.bind ((lasting.checked _).strengthen (fun _ _ held => held.2))
  intro lastPublished
  apply Contract.Triple.assume (fun _ _ held => held.1)
  rintro ⟨rfl, _inRange⟩
  apply Contract.Triple.bind ((gatingSequence_halted called inRange).strengthen
    (fun _ _ held => held.2))
  intro rear
  apply Contract.Triple.assume (fun _ _ held => held.1)
  intro low
  refine Contract.Triple.through (fun free producer world =>
    free < (asked replies.length : Int) ∧ Halted base replies written producer world) ?_
    (fun free => ?_)
  · apply Contract.Triple.bind ((lasting.checked _).strengthen (fun _ _ held => held.2))
    intro wrapPoint
    apply Contract.Triple.assume (fun _ _ held => held.1)
    rintro ⟨rfl, _inRange⟩
    refine ((lasting.checked _).strengthen (fun _ _ held => held.2)).weaken ?_
    rintro value producer world ⟨⟨rfl, _inRange⟩, held⟩
    refine ⟨?_, held⟩
    unfold RingSize.wrapPoint
    rw [unmoved.sequence]
    omega
  · apply Contract.Triple.assume (fun _ _ held => held.1)
    intro few
    rw [if_pos few]
    apply Contract.Triple.bind ((lasting.computed _).strengthen (fun _ _ held => held.2))
    intro missing
    exact Contract.Triple.pure _ (fun _ _ held => ⟨⟨_, rfl⟩, held⟩)

omit inRange in
theorem nextSequences_halted
    (clear : base.sequenceClearOfConsumers < base.sequence - 1 + asked replies.length) :
    FrameTriple (sticking transport Value consumerCounters passes asked keeper)
      (Halted base replies written) (Producer.nextSequences transport (asked replies.length))
      (fun reserved producer world => (∃ missing, reserved = .error missing) ∧
        Halted base replies written producer world) := by
  have refused : ∀ missing, FrameTriple
      (sticking transport Value consumerCounters passes asked keeper)
      (Halted base replies written) (pure (.error missing))
      (fun (reserved : Except MissingFreeSlots Int) producer world =>
        (∃ missing, reserved = .error missing) ∧ Halted base replies written producer world) :=
    fun missing => Contract.Triple.pure _ (fun _ _ held => ⟨⟨missing, rfl⟩, held⟩)
  unfold Producer.nextSequences
  split
  · apply Contract.Triple.bind halted_looking.lasting.expect
    intro _
    apply Contract.Triple.bind Contract.Triple.get
    intro before
    apply Contract.Triple.given (base.Unmoved before)
    · rintro producer world ⟨rfl, held⟩
      exact held.1
    intro unmoved
    split
    · exact (refused _).strengthen (fun _ _ held => held.2)
    · rename_i nNext reserved
      obtain ⟨current, first, second⟩ := Option.bind_eq_some_iff.mp reserved
      simp only [checkedAdd, Option.ite_none_right_eq_some, Option.some.injEq] at first second
      obtain ⟨_inRange, rfl⟩ := first
      obtain ⟨inRange, rfl⟩ := second
      rw [unmoved.sequence] at inRange
      refine Contract.Triple.through (fun cleared producer world =>
        (∃ missing, cleared = .error missing) ∧ Halted base replies written producer world) ?_
        (fun cleared => ?_)
      · apply Contract.Triple.bind (Contract.Triple.get.strengthen (fun _ _ held => held.2))
        intro producer
        apply Contract.Triple.given (base.Unmoved producer)
        · rintro self world ⟨rfl, held⟩
          exact held.1
        intro still
        rw [if_neg (by rw [still.clear, unmoved.sequence]; omega)]
        apply (refreshClearanceWindow_halted called (by
          have bound := inRange.2
          omega)).strengthen
        exact fun _ _ held => held.2
      · apply Contract.Triple.assume (fun _ _ held => held.1)
        rintro ⟨missing, rfl⟩
        exact (refused missing).strengthen (fun _ _ held => held.2)
  · exact refused _

omit called inRange in
theorem checkLiveness_halted {error : RequiredConsumerError}
    (terminal : Terminal error base.requiredConsumerLiveness) :
    FrameTriple (sticking transport Value consumerCounters passes asked keeper)
      (Halted base replies written) Producer.checkRequiredConsumerLiveness
      (fun checked producer world => checked = .error error ∧
        Halted base replies written producer world) := by
  obtain ⟨state, configured, completed, ended⟩ := terminal
  apply Contract.Triple.bind Contract.Triple.get
  intro before
  apply Contract.Triple.given (before.requiredConsumerLiveness = some state)
  · rintro producer world ⟨rfl, held⟩
    exact held.1.liveness.trans configured
  intro same
  rw [same]
  apply Contract.Triple.bind ((halted_looking.act rfl).strengthen (fun _ _ held => held.2))
  intro now
  apply Contract.Triple.bind (halted_looking.act rfl)
  intro producerSequence
  simp only [RequiredConsumerLivenessState.evaluateBlocked, ended]
  apply Contract.Triple.through (fun evaluated producer world =>
    evaluated = (some error, state) ∧ Halted base replies written producer world)
  · exact Contract.Triple.pure _ (fun _ _ held => ⟨rfl, held⟩)
  intro evaluated
  apply Contract.Triple.assume (fun _ _ held => held.1)
  rintro rfl
  apply Contract.Triple.through (fun _ => Halted base replies written) ?_
    (fun _ => Contract.Triple.pure _ (fun _ _ held => ⟨rfl, held⟩))
  rintro producer world ⟨_same, held⟩ fuel
  cases fuel with
  | zero => trivial
  | succ fuel => exact ⟨⟨configured.symm, held.1.sequence, held.1.clear⟩, held.2⟩

def managedCall (transport : Transport) (n : Nat) (apply : ProducerProcess (plain Value) Int) :
    ProducerProcess (plain Value) (Except RequiredConsumerError Int) := do
  let ready ← Producer.ensureRequiredConsumersReady
  match ready with
  | .error error => pure (.error error)
  | .ok () => Producer.publishManagedLoop transport n apply

omit inRange in
theorem managedCall_halted {error : RequiredConsumerError}
    (terminal : Terminal error base.requiredConsumerLiveness)
    (clear : base.sequenceClearOfConsumers < base.sequence - 1 + asked replies.length)
    (apply : ProducerProcess (plain Value) Int) :
    FrameTriple (sticking transport Value consumerCounters passes asked keeper)
      (Halted base replies written) (managedCall transport (asked replies.length) apply)
      (fun result producer world => result = .error error ∧
        Halted base replies written producer world) := by
  refine Contract.Triple.through (fun ready producer world => ready = .ok () ∧
    Halted base replies written producer world) ?_ (fun ready => ?_)
  · obtain ⟨state, configured, completed, _ended⟩ := terminal
    apply Contract.Triple.bind Contract.Triple.get
    intro before
    apply Contract.Triple.given (before.requiredConsumerLiveness = some state)
    · rintro producer world ⟨rfl, held⟩
      exact held.1.liveness.trans configured
    intro same
    rw [same]
    dsimp only
    rw [if_pos completed]
    exact Contract.Triple.pure _ (fun _ _ held => ⟨rfl, held.2⟩)
  · apply Contract.Triple.assume (fun _ _ held => held.1)
    rintro rfl
    refine (Contract.Triple.repeat' (fun _ => Halted base replies written)
      (fun _ => ?_) ()).strengthen (fun _ _ held => held.2)
    apply Contract.Triple.bind (nextSequences_halted called clear)
    intro reserved
    apply Contract.Triple.assume (fun _ _ held => held.1)
    rintro ⟨missing, rfl⟩
    apply Contract.Triple.bind ((checkLiveness_halted terminal).strengthen
      (fun _ _ held => held.2))
    intro checked
    apply Contract.Triple.assume (fun _ _ held => held.1)
    rintro rfl
    exact Contract.Triple.pure _ (fun _ _ held => ⟨rfl, held.2⟩)

end Call

/-! ### The replies -/

/-- The producer is ready to give the reply, after which every shutdown it has returned is
what it is at. -/
def Answers (asked : Nat → Nat) (replies : List (Nat × ProducerReply)) (reply : ProducerReply)
    (producer : Producer) (world : World (plain Value)) : Prop :=
  world.replies = replies ∧ Repeats asked replies (world.written.length, reply) ∧
  ∀ error, Stopped (replies ++ [(world.written.length, reply)]) error →
    Terminal error producer.requiredConsumerLiveness

/-- Every shutdown that was returned is what the producer is at, and nothing was written
since the reply before. -/
structure Rested (liveness : Option RequiredConsumerLivenessState)
    (replies : List (Nat × ProducerReply)) (written : List Value) : Prop where
  terminal : ∀ error, Stopped replies error → Terminal error liveness
  unwritten : replies = [] ∨ replies.getLast?.map Prod.fst = some written.length

theorem Terminal.unique {first second : RequiredConsumerError}
    (left : Terminal first liveness) (right : Terminal second liveness) : first = second := by
  obtain ⟨state, configured, _completed, ended⟩ := left
  obtain ⟨other, configuredToo, _completedToo, endedToo⟩ := right
  rw [configured] at configuredToo
  cases configuredToo
  rw [ended] at endedToo
  exact Option.some.inj endedToo

theorem not_stopped_nil (error : RequiredConsumerError) : ¬ Stopped [] error := by
  rintro ⟨_graceful, count, member⟩
  cases member

theorem stopped_snoc {entry : Nat × ProducerReply} {error : RequiredConsumerError}
    (stopped : Stopped (replies ++ [entry]) error) :
    Stopped replies error ∨ entry.2 = .managed (.error error) ∧ Stopped [entry] error := by
  obtain ⟨graceful, count, member⟩ := stopped
  rcases List.mem_append.mp member with earlier | last
  · exact .inl ⟨graceful, count, earlier⟩
  · refine .inr ⟨?_, graceful, count, last⟩
    rw [← List.mem_singleton.mp last]

def ProducerReply.conclusion : ProducerReply → Option (Except RequiredConsumerError Int)
  | .managed result => some result
  | _ => none

theorem Rested.answers {reply : ProducerReply} {producer : Producer}
    {world : World (plain Value)} (rested : Rested liveness replies written)
    (uncalled : ∀ result, reply = .managed result →
      asked replies.length = 0 ∧ ∃ sequence, result = .ok sequence)
    (held : Keeping (fun now => now = liveness) replies producer world) :
    Answers asked replies reply producer world := by
  refine ⟨held.2, fun error result _stopped managed positive => ?_, ?_⟩
  · have none := (uncalled result managed).1
    omega
  intro error stopped
  rw [held.1]
  rcases stopped_snoc stopped with earlier | ⟨managed, _stopped⟩
  · exact rested.terminal error earlier
  · obtain ⟨_none, sequence, impossible⟩ := uncalled _ managed
    cases impossible

theorem Rested.answers_unmanaged {reply : ProducerReply} {producer : Producer}
    {world : World (plain Value)} (rested : Rested liveness replies written)
    (inconclusive : reply.conclusion = none)
    (held : Keeping (fun now => now = liveness) replies producer world) :
    Answers asked replies reply producer world := by
  refine rested.answers ?_ held
  rintro result rfl
  cases inconclusive

theorem unmanaged_answers {reply : α → ProducerReply} {routine : ProducerProcess (plain Value) α}
    (rested : Rested base.requiredConsumerLiveness replies written)
    (inconclusive : ∀ value, (reply value).conclusion = none)
    (leaves : Leaves (sticking transport Value consumerCounters passes asked keeper)
      (Keeping (fun now => now = base.requiredConsumerLiveness) replies) routine) :
    FrameTriple (sticking transport Value consumerCounters passes asked keeper)
      (Halted base replies written) (reply <$> routine) (Answers asked replies) :=
  Contract.Triple.map (leaves.conseq (fun _ _ held => ⟨held.1.liveness, held.2.1⟩)
    (fun value _ _ held => rested.answers_unmanaged (inconclusive value) held))

theorem managed_answers {n : Nat} {apply : ProducerProcess (plain Value) Int}
    (rested : Rested base.requiredConsumerLiveness replies written) (positive : 1 ≤ n)
    (asks : asked replies.length = n)
    (clear : StoppedCall asked replies →
      base.sequenceClearOfConsumers < base.sequence - 1 + n)
    (applies : ¬ StoppedCall asked replies →
      Leaves (sticking transport Value consumerCounters passes asked keeper)
        (Keeping Started replies) apply) :
    FrameTriple (sticking transport Value consumerCounters passes asked keeper)
      (Halted base replies written) (managedCall transport n apply)
      (fun result => Answers asked replies (.managed result)) := by
  subst asks
  by_cases stopped : ∃ error, Stopped replies error
  · have called : StoppedCall asked replies := ⟨stopped, positive⟩
    obtain ⟨error, stopped⟩ := stopped
    have terminal := rested.terminal error stopped
    apply (managedCall_halted called terminal (clear called) apply).weaken
    rintro _ producer world ⟨rfl, unmoved, answered, wrote⟩
    refine ⟨answered, ?_, ?_⟩
    · rintro other result stoppedToo ⟨⟩ _positive
      rw [wrote, (rested.terminal other stoppedToo).unique terminal]
      refine ⟨rfl, rested.unwritten.resolve_left ?_⟩
      rintro rfl
      exact not_stopped_nil error stopped
    · intro other stoppedToo
      rw [unmoved.liveness]
      rcases stopped_snoc stoppedToo with earlier | ⟨same, _stopped⟩
      · exact rested.terminal other earlier
      · cases same
        exact terminal
  · apply Contract.Triple.through (fun ready => Awaited replies ready)
    · exact ensureReady_keeping.strengthen (fun _ _ held => ⟨trivial, held.2.1⟩)
    intro ready
    have answers : ∀ {result producer} {world : World (plain Value)},
        Keeping (fun _ => True) replies producer world →
        (∀ consumerId lastSequence stalledFor,
          result = .error (.gracefulShutdownTriggered consumerId lastSequence stalledFor) →
          Terminal (.gracefulShutdownTriggered consumerId lastSequence stalledFor)
            producer.requiredConsumerLiveness) →
        Answers asked replies (.managed result) producer world := by
      intro result producer world held terminal
      refine ⟨held.2, fun error _ earlier => absurd ⟨error, earlier⟩ stopped, ?_⟩
      intro error stoppedNow
      rcases stopped_snoc stoppedNow with earlier | ⟨same, ⟨_, _, _, rfl⟩, _member⟩
      · exact absurd ⟨error, earlier⟩ stopped
      · cases same
        exact terminal _ _ _ rfl
    cases ready with
    | error error =>
        refine Contract.Triple.pure _ ?_
        rintro producer world ⟨⟨missing, rfl⟩, held⟩
        exact answers held (fun _ _ _ impossible => by cases impossible)
    | ok =>
        apply (publishManagedLoop_keeping (asked replies.length)
          (applies (fun called => stopped called.1))).weaken
        rintro result producer world ⟨held, terminal⟩
        exact answers ⟨trivial, held.2⟩ (fun _ _ _ same => terminal _ same)

theorem uncalled (none : asked replies.length = 0) : ¬ StoppedCall asked replies :=
  fun called => absurd called.2 (by omega)

theorem serveProducer_answers (request : ProducerRequest Value)
    (rested : Rested base.requiredConsumerLiveness replies written)
    (asks : asked replies.length = request.managedEvents)
    (clear : StoppedCall asked replies →
      base.sequenceClearOfConsumers < base.sequence - 1 + request.managedEvents) :
    FrameTriple (sticking transport Value consumerCounters passes asked keeper)
      (Halted base replies written) (serveProducer transport request)
      (Answers asked replies) := by
  cases request with
  | tryPublish update =>
      exact unmanaged_answers rested (fun _ => rfl)
        ((keeping_publishing (uncalled asks)).tryPublish update)
  | publish update =>
      apply Contract.Triple.through (fun _ => Keeping
        (fun now => now = base.requiredConsumerLiveness) replies)
      · exact ((keeping_publishing (uncalled asks)).publish update).strengthen
          (fun _ _ held => ⟨held.1.liveness, held.2.1⟩)
      · intro _
        exact Contract.Triple.pure _ (fun _ _ held => rested.answers_unmanaged rfl held)
  | tryBatchPublish n updateFn =>
      exact unmanaged_answers rested (fun _ => rfl)
        ((keeping_publishing (uncalled asks)).tryBatchPublish n updateFn)
  | publishWithTimeout timeout update =>
      simp only [serveProducer]
      split
      · exact unmanaged_answers rested (fun _ => rfl)
          ((keeping_publishing (uncalled asks)).publishWithTimeout timeout update)
      · exact Contract.Triple.pure _ (fun _ _ held =>
          rested.answers_unmanaged rfl ⟨held.1.liveness, held.2.1⟩)
  | publishManaged update =>
      exact Contract.Triple.map (managed_answers rested (Nat.le_refl 1) asks clear
        (fun calm => (keeping_publishing calm).applyUpdate update))
  | publishBatchManaged n updateFn =>
      apply Contract.Triple.map
      unfold Producer.publishBatchManaged
      split
      · rename_i none
        apply Contract.Triple.bind (Leaves.get)
        intro producer
        apply Contract.Triple.bind (halted_looking.lasting.computed _)
        intro last
        refine Contract.Triple.pure _ (fun _ _ held => rested.answers ?_
          ⟨held.1.liveness, held.2.1⟩)
        rintro _ ⟨⟩
        exact ⟨asks.trans none, last, rfl⟩
      · rename_i some
        exact managed_answers rested (Nat.one_le_iff_ne_zero.mpr some) asks clear
          (fun calm => (keeping_publishing calm).applyBatchUpdates n updateFn)
  | lastPublishedSequence =>
      exact unmanaged_answers rested (fun _ => rfl) (keeping_looking.act rfl)
  | minGatingSequence =>
      exact unmanaged_answers rested (fun _ => rfl) keeping_looking.gatingSequence
  | isConsumed sequence =>
      exact unmanaged_answers rested (fun _ => rfl) (keeping_looking.isConsumed sequence)
  | waitUntilConsumedWithStrategy sequence timeout =>
      exact unmanaged_answers rested (fun _ => rfl)
        (keeping_looking.waitUntilConsumed sequence timeout)
  | discoverConsumerId consumerId =>
      exact unmanaged_answers rested (fun _ => rfl)
        (keeping_looking.discoverConsumerId consumerId)
  | waitForConsumerId consumerId timeout =>
      exact unmanaged_answers rested (fun _ => rfl)
        (keeping_looking.waitForConsumerId consumerId timeout)
  | consumerSequence consumerId =>
      exact unmanaged_answers rested (fun _ => rfl)
        (keeping_looking.consumerSequence consumerId)
  | getConsumerCount =>
      exact unmanaged_answers rested (fun _ => rfl) keeping_looking.bestEffortConsumerCount

/-! ### Rounds of the producer -/

def Between (producer : Producer) (world : World (plain Value)) : Prop :=
  Rested producer.requiredConsumerLiveness world.replies world.written

structure Requested (asked : Nat → Nat) (base : Producer) (replies : List (Nat × ProducerReply))
    (written : List Value) (request : ProducerRequest Value) : Prop where
  rested : Rested base.requiredConsumerLiveness replies written
  asks : asked replies.length = request.managedEvents
  clear : StoppedCall asked replies →
    base.sequenceClearOfConsumers < base.sequence - 1 + request.managedEvents

theorem nextRequest_between :
    FrameTriple (sticking transport Value consumerCounters passes asked keeper)
      Between (act .nextProducerRequest)
      (fun (request : ProducerRequest Value) producer world => ∃ base replies written,
        Requested asked base replies written request ∧
          Halted base replies written producer world) := by
  have lasting : Lasting (sticking transport Value consumerCounters passes asked keeper) Between :=
    sticking_lasting (fun producer replies written =>
      Rested producer.requiredConsumerLiveness replies written)
  apply Contract.Triple.performAccepted
  intro producer before world held relied _holds _met
  have here := lasting.stable producer before world relied held
  refine ⟨nofun, fun oracle result after accepted performed => ?_⟩
  cases oracle
  case producerRequest request =>
    cases performed
    exact ⟨producer, world.replies, world.written, ⟨here, accepted.1, accepted.2⟩,
      ⟨rfl, rfl, rfl⟩, rfl, rfl⟩
  all_goals cases performed

theorem reply_between (reply : ProducerReply) :
    FrameTriple (sticking transport Value consumerCounters passes asked keeper)
      (fun producer world => Answers asked world.replies reply producer world)
      (act (.reply reply)) (fun _ => Between) := by
  apply Contract.Triple.perform
  rintro producer world before ⟨_same, repeats, terminal⟩ ⟨sameReplies, sameWritten⟩ _holds _met
  rw [← sameReplies, ← sameWritten] at repeats terminal
  refine ⟨repeats, fun oracle result after performed => ?_⟩
  cases performed
  refine ⟨terminal, .inr ?_⟩
  rw [List.getLast?_concat]
  rfl

theorem producerRound_between :
    FrameTriple (sticking transport Value consumerCounters passes asked keeper)
      Between (plainApplication transport Value consumerCounters).producerRound
      (fun _ => Between) := by
  apply Contract.Triple.bind nextRequest_between
  intro request
  apply Contract.Triple.exists
  intro base
  apply Contract.Triple.exists
  intro replies
  apply Contract.Triple.exists
  intro written
  apply Contract.Triple.assume (fun _ _ held => held.1)
  rintro ⟨rested, asks, clear⟩
  apply Contract.Triple.bind ((serveProducer_answers request rested asks clear).strengthen
    (fun _ _ held => held.2))
  intro reply
  apply (reply_between reply).strengthen
  rintro producer world ⟨same, answers⟩
  exact ⟨rfl, same.symm ▸ answers⟩

end Producer

/-! ### Every run -/

section Runs

variable {asked : Nat → Nat} {keeper : Nat → ConsumerId}
variable {slots : Nat → Value} {producer : Producer} {attached joining : List ConsumerId}
variable {moves : List (Move Party (Oracle (plain Value)))}
variable {after : (plainApplication transport Value consumerCounters).State}

abbrev stickingToo (transport : Transport) (Value : Type) (consumerCounters : ConsumerCounters)
    (passes : DirectoryPasses) (asked : Nat → Nat) (keeper : Nat → ConsumerId) :=
  (Policy.unobserved (plainApplication transport Value consumerCounters) passes).contract.both
    (sticking transport Value consumerCounters passes asked keeper)

theorem consumer_sticks {consumerId : ConsumerId} {self : Self} {action : Action (plain Value)}
    {world : World (plain Value)}
    (guaranteed : (Policy.unobserved (plainApplication transport Value consumerCounters)
      passes).consumerGuarantee consumerId self world action) :
    action.ofProducer = false := by
  cases action <;> first | rfl | cases guaranteed

theorem start_sticking (fresh : producer.Fresh transport)
    (known : producer.consumerBarrier.consumerCursors ⊆ attached) :
    (stickingToo transport Value consumerCounters passes asked keeper).Upheld
      ((plainApplication transport Value consumerCounters).start slots producer attached
        joining) := by
  apply (start_unobserved fresh known).both throughout_nil
  intro party
  cases party with
  | producer =>
      refine .inr (fun fuel => ?_)
      have between : Between producer ((plainApplication transport Value
          consumerCounters).start slots producer attached joining).world :=
        ⟨fun error stopped => absurd stopped (not_stopped_nil error), .inl rfl⟩
      exact Contract.Triple.forever producerRound_between between fuel _
  | consumer consumerId =>
      exact .inl (fun _ _ _ _ guaranteed => consumer_sticks guaranteed)

/-- While the managed calls after a graceful shutdown find the ring full, each of them
returns that shutdown and publishes nothing. -/
theorem shutdown_sticks (asked : Nat → Nat) (keeper : Nat → ConsumerId)
    (fresh : producer.Fresh transport)
    (known : producer.consumerBarrier.consumerCursors ⊆ attached)
    (reached : Reaches transport passes consumerCounters slots producer attached joining
      moves after)
    (asks : ((plainApplication transport Value consumerCounters).machine passes).Accepts
      (Asks asked)
      ((plainApplication transport Value consumerCounters).start slots producer attached
        joining) moves)
    (full : ((plainApplication transport Value consumerCounters).machine passes).Meets
      (StaysFull transport asked keeper)
      ((plainApplication transport Value consumerCounters).start slots producer attached
        joining) moves) :
    Throughout (Repeats asked) after.world.replies ∧
    ∀ self action, after.AboutTo .producer self action → action.publishes = true →
      ¬ StoppedCall asked after.world.replies := by
  let policy := Policy.unobserved (plainApplication transport Value consumerCounters) passes
  let contract := stickingToo transport Value consumerCounters passes asked keeper
  have boots : ∀ party world program later, contract.invariant world →
      ((plainApplication transport Value consumerCounters).machine passes).restart party world =
        some (program, later) →
      ∀ fuel, contract.Safe party fuel program (fun _ _ => True) later := by
    intro party world program later holds restarted fuel
    cases party with
    | producer => cases restarted
    | consumer consumerId =>
        exact (Policy.restart_safe (Policy.plain_servesConsumer (fun _ _ => trivial)
          (fun _ => trivial)) holds.1 restarted fuel).adopt
          (fun _ _ _ _ guaranteed => consumer_sticks guaranteed)
  have accepted : ((plainApplication transport Value consumerCounters).machine passes).Accepts
      contract.accepts
      ((plainApplication transport Value consumerCounters).start slots producer attached
        joining) moves := by
    apply asks.imp
    intro party self action oracle world answered
    refine ⟨?_, answered⟩
    cases party with
    | producer => cases self <;> trivial
    | consumer consumerId => trivial
  have upheld := Contract.Upheld.run boots (start_sticking fresh known)
    (full.imp (fun party self action world met =>
      ⟨Policy.unobserved_always party self action world, met⟩)) accepted reached
  refine ⟨upheld.invariant.2, fun self action about publishes => ?_⟩
  have allowed : contract.condition .producer self action after.world := by
    refine ⟨Policy.unobserved_always .producer self action after.world, ?_⟩
    cases action <;> first | cases publishes; done | (cases self <;> trivial)
  have guaranteed := (upheld.guaranteed about allowed).2
  cases action
  case updateSlot sequence slot update => exact guaranteed rfl
  case storeProducerSequence sequence => exact guaranteed rfl
  all_goals cases publishes

end Runs

/-! ### A consumer that stays behind, and one that catches up -/

section Stalled

def supervised : Producer :=
  { knowing oneSlot ["reader"] with
    requiredConsumerLiveness := some (RequiredConsumerLivenessState.new
      { requiredConsumerIds := ["reader"]
        startupWaitTimeout := 1
        progressTimeout := 10
        progressCheckInterval := 1
        shutdownGracePeriod := 0
        failureAction := .gracefulShutdown
        alertHook := false } 0) }

abbrev supervisedMachine := (plainApplication oneSlot Nat noCounters).machine .mayFail

abbrev supervisedStart : (plainApplication oneSlot Nat noCounters).State :=
  (plainApplication oneSlot Nat noCounters).start (fun _ => (0 : Nat)) supervised ["reader"] []

/-- The consumer does not take the first event, and the second finds the slot full. -/
def stalls : List (Move Party (Oracle (plain Nat))) :=
  byProducer [.silent, .producerRequest (.publishManaged fun _ => some 7), .elapsed 0, .silent,
    .elapsed 0, .silent, .silent, .silent, .silent, .silent, .silent] ++
  byProducer [.producerRequest (.publishManaged fun _ => some 8), .silent, .order ["reader"],
    .silent, .elapsed 10, .silent, .silent, .silent, .silent]

def triesAgain : List (Move Party (Oracle (plain Nat))) :=
  byProducer [.producerRequest (.publishManaged fun _ => some 9), .silent, .order ["reader"],
    .silent, .elapsed 0, .silent, .silent, .silent]

/-- The consumer takes the first event before the third is tried. -/
def catchesUp : List (Move Party (Oracle (plain Nat))) :=
  byConsumer "reader" [.silent, .consumerRequest .tryConsumeNext, .silent, .silent, .silent] ++
  byProducer [.producerRequest (.publishManaged fun _ => some 9), .silent, .order ["reader"],
    .silent, .silent, .silent, .silent]

theorem shutdown_sticks_stalled : ∃ after,
    Reaches oneSlot .mayFail noCounters (fun _ => (0 : Nat)) supervised ["reader"] []
      (stalls ++ triesAgain) after ∧
    after.world.replies = [(1, .managed (.ok 0)),
      (1, .managed (.error (.gracefulShutdownTriggered "reader" (-1) 10))),
      (1, .managed (.error (.gracefulShutdownTriggered "reader" (-1) 10)))] ∧
    Throughout (Repeats fun _ => 1) after.world.replies := by
  have found : (supervisedMachine.run supervisedStart (stalls ++ triesAgain)).any
      (fun after => decide (after.world.replies = [(1, .managed (.ok 0)),
        (1, .managed (.error (.gracefulShutdownTriggered "reader" (-1) 10))),
        (1, .managed (.error (.gracefulShutdownTriggered "reader" (-1) 10)))])) = true := by
    decide +kernel
  have asked : supervisedMachine.checksAnswers (Asks fun _ => 1) supervisedStart
      (stalls ++ triesAgain) = true := by
    decide +kernel
  have full : supervisedMachine.checks (StaysFull oneSlot (fun _ => 1) fun _ => "reader")
      supervisedStart (stalls ++ triesAgain) = true := by
    decide +kernel
  obtain ⟨after, reached, replied⟩ := (Option.any_eq_true _ _).mp found
  exact ⟨after, reached, of_decide_eq_true replied,
    (shutdown_sticks (fun _ => 1) (fun _ => "reader") ⟨rfl, rfl⟩
      (List.Subset.refl _) reached
      (Machine.accepts_of_checks asked)
      (Machine.meets_of_checks full)).1⟩

/-- The third is published although the second was refused for good. -/
theorem shutdown_forgotten : ∃ after,
    Reaches oneSlot .mayFail noCounters (fun _ => (0 : Nat)) supervised ["reader"] []
      (stalls ++ catchesUp) after ∧
    after.world.replies = [(1, .managed (.ok 0)),
      (1, .managed (.error (.gracefulShutdownTriggered "reader" (-1) 10))),
      (2, .managed (.ok 1))] ∧
    ¬ Throughout (Repeats fun _ => 1) after.world.replies := by
  have found : (supervisedMachine.run supervisedStart (stalls ++ catchesUp)).any
      (fun after => decide (after.world.replies = [(1, .managed (.ok 0)),
        (1, .managed (.error (.gracefulShutdownTriggered "reader" (-1) 10))),
        (2, .managed (.ok 1))])) = true := by
    decide +kernel
  obtain ⟨after, reached, replied⟩ := (Option.any_eq_true _ _).mp found
  have replies := of_decide_eq_true replied
  refine ⟨after, reached, replies, ?_⟩
  intro repeats
  have second : Stopped [(1, .managed (.ok 0)),
      (1, .managed (.error (.gracefulShutdownTriggered "reader" (-1) 10)))]
      (.gracefulShutdownTriggered "reader" (-1) 10) :=
    ⟨⟨_, _, _, rfl⟩, 1, List.mem_cons_of_mem _ List.mem_cons_self⟩
  cases (repeats _ (2, .managed (.ok 1)) [] replies _ _ second rfl (Nat.le_refl 1)).1

end Stalled

end Ring
