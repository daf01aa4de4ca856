/-
What every operation of a consumer adds to its log.

A consumer knows where it stands from its log, and that some sequence is visible.
It reads the next event only, as long as that is visible, and commits no further
than it has read.
-/

import Myelon.Ring.Contract

namespace Ring

open Interleaving Delivery

variable {transport : Transport} {application : Application transport}
variable {policy : Policy application} {consumerId : ConsumerId} {α : Type}

/-! ### Rules for a consumer -/

/-- An assertion that survives the steps of the other processes. -/
def ConsumerStable {State : Type} (consumerId : ConsumerId)
    (holds : State → World application.interface → Prop) : Prop :=
  ∀ self before after, ConsumerRely consumerId before after → holds self before →
    holds self after

def Action.freeForConsumer {interface : Interface} : Action interface → Bool
  | .nextConsumerRequest _ => false
  | .pause => false
  | .instantNow => false
  | action => action.quiet

theorem Action.freeForConsumer_quiet {interface : Interface} {action : Action interface}
    (free : action.freeForConsumer = true) : action.quiet = true := by
  cases action <;> first | exact free | cases free

namespace Policy

theorem consumer_free {self : Self} {world : World application.interface}
    {action : Action application.interface} (free : action.freeForConsumer = true) :
    policy.consumerGuarantee consumerId self world action := by
  cases action <;> first | exact free | cases free

abbrev ConsumerTriple {State : Type} (policy : Policy application) (consumerId : ConsumerId)
    (pre : State → World application.interface → Prop)
    (routine : Process application.interface State α)
    (post : α → State → World application.interface → Prop) : Prop :=
  policy.contract.Triple (.consumer consumerId) pre routine post

variable {State : Type} [Viewed State] {pre : State → World application.interface → Prop}

theorem consumer_act {action : Action application.interface}
    {post : action.Result → State → World application.interface → Prop}
    (stable : ConsumerStable consumerId pre) (free : action.freeForConsumer = true)
    (outcome : ∀ self world oracle result after, pre self after →
      policy.Holds world →
      perform policy.passes action oracle world = some (result, after) →
      world.SameRing after → post result self after) :
    policy.ConsumerTriple consumerId pre (act action) post := by
  refine Contract.Triple.perform ?_
  intro self world before holds relied invariant _met
  refine ⟨consumer_free free, fun oracle result after performed => ?_⟩
  have same := perform_quiet (Action.freeForConsumer_quiet free) performed
  have held := stable self world before relied holds
  exact outcome self before oracle result after
    (stable self before after (same.consumerRely consumerId) held) invariant performed same

theorem consumer_idle {action : Action application.interface}
    (stable : ConsumerStable consumerId pre) (free : action.freeForConsumer = true) :
    policy.ConsumerTriple consumerId pre (act action) (fun _ => pre) :=
  consumer_act stable free (fun _ _ _ _ _ held _ _ _ => held)

theorem consumer_panic {post : α → State → World application.interface → Prop}
    (stable : ConsumerStable consumerId pre) :
    policy.ConsumerTriple consumerId pre
      (panic' : Process application.interface State α) post :=
  Contract.Triple.bind (consumer_idle stable rfl) (fun impossible =>
    nomatch (impossible : Empty))

theorem consumer_expect {condition : Prop} [Decidable condition]
    (stable : ConsumerStable consumerId pre) :
    policy.ConsumerTriple consumerId pre (expect condition)
      (fun _ self world => condition ∧ pre self world) := by
  unfold expect
  split
  · exact Contract.Triple.pure () (fun _ _ held => ⟨by assumption, held⟩)
  · exact consumer_panic stable

theorem consumer_checked {value : Int} (stable : ConsumerStable consumerId pre) :
    policy.ConsumerTriple consumerId pre (checked value)
      (fun result self world => result = value ∧ pre self world) := by
  unfold checked
  split
  · exact Contract.Triple.pure value (fun _ _ held => ⟨rfl, held⟩)
  · exact consumer_panic stable

omit [Viewed State] in
theorem consumer_onlyIf {condition : Prop} [Decidable condition]
    {body : Process application.interface State Unit}
    (triple : policy.ConsumerTriple consumerId pre body (fun _ => pre)) :
    policy.ConsumerTriple consumerId pre (onlyIf condition body) (fun _ => pre) :=
  onlyIf_triple (fun _ => triple) (fun _ _ _ held => held)

/-! ### A consumer and its log -/

variable {App : Type}

structure Standing (policy : Policy application) (consumerId : ConsumerId)
    (log : List (ConsumerEvent application.interface)) (app : App) (visible : Int)
    (holder : Consumer × App) (world : World application.interface) : Prop where
  here : Consumer.At consumerId log holder.1 world
  app : holder.2 = app
  visible : visible ≤ world.producerSequence

variable {log : List (ConsumerEvent application.interface)} {app : App} {visible : Int}

theorem standing_stable :
    ConsumerStable consumerId (policy.Standing consumerId log app visible) := by
  intro self before after relied standing
  exact {
    here :=
      { named := standing.here.named
        lastProcessedSequence := standing.here.lastProcessedSequence
        attached := relied.consumers standing.here.attached
        initialised := relied.initialised standing.here.initialised
        events := relied.events.trans standing.here.events }
    app := standing.app
    visible := Int.le_trans standing.visible relied.producerSequence }

/-- A consumer pauses only where it has committed everything it has read. -/
theorem pause_consumer_triple (idle : (position log).Idle) :
    policy.ConsumerTriple consumerId (policy.Standing consumerId log app visible)
      (act .pause) (fun _ => policy.Standing consumerId log app visible) := by
  refine Contract.Triple.perform ?_
  intro self world before standing relied _holds _met
  have stands := standing_stable self world before relied standing
  refine ⟨⟨self.1, rfl, ?_⟩, fun oracle result after performed => ?_⟩
  · rw [stands.here.events]
    exact ⟨stands.here, idle⟩
  · cases performed
    exact stands

theorem current_triple {pre : Consumer × App → World application.interface → Prop} :
    policy.ConsumerTriple consumerId pre Consumer.current
      (fun consumer self world => consumer = self.1 ∧ pre self world) :=
  Contract.Triple.bind Contract.Triple.get (fun self =>
    Contract.Triple.pure self.1 (by
      rintro other world ⟨rfl, held⟩
      exact ⟨rfl, held⟩))

theorem consumerCount_triple (counter : ConsumerId → Counter)
    (attached : ConsumerCounters → Bool) (amount : Nat) :
    policy.ConsumerTriple consumerId (policy.Standing consumerId log app visible)
      (Consumer.count counter attached amount)
      (fun _ => policy.Standing consumerId log app visible) :=
  Contract.Triple.bind current_triple (fun _ =>
    (consumer_onlyIf (consumer_idle standing_stable rfl)).strengthen
      (fun _ _ held => held.2))

theorem recordLag_triple (upper lower : Int) :
    policy.ConsumerTriple consumerId (policy.Standing consumerId log app visible)
      (Consumer.recordLag upper lower)
      (fun _ => policy.Standing consumerId log app visible) := by
  refine Contract.Triple.bind current_triple (fun consumer => ?_)
  split
  · refine Contract.Triple.bind ((consumer_checked standing_stable).strengthen
      (fun _ _ held => held.2)) (fun lag => ?_)
    exact (consumer_idle standing_stable rfl).strengthen (fun _ _ held => held.2)
  · exact Contract.Triple.pure () (fun _ _ held => held.2)

theorem availableBatchBounds_triple :
    policy.ConsumerTriple consumerId (policy.Standing consumerId log app visible)
      (Consumer.availableBatchBounds transport)
      (fun bounds self world => match bounds with
        | none => policy.Standing consumerId log app visible self world ∧
            visible ≤ (position log).committed
        | some (lower, upper) => lower = (position log).committed + 1 ∧ lower ≤ upper ∧
            policy.Standing consumerId log app upper self world) := by
  refine Contract.Triple.bind current_triple (fun consumer => ?_)
  refine Contract.Triple.given (consumer.lastProcessedSequence = (position log).committed) ?_
    (fun last => ?_)
  · rintro self world ⟨rfl, standing⟩
    exact standing.here.lastProcessedSequence
  refine Contract.Triple.bind ((consumer_expect standing_stable).strengthen
    (fun _ _ held => held.2)) (fun _ => ?_)
  refine Contract.Triple.through (fun (published : Int) self world =>
    visible ≤ published ∧ policy.Standing consumerId log app visible self world ∧
      policy.Standing consumerId log app published self world) ?_ (fun published => ?_)
  · refine (consumer_act standing_stable rfl ?_).strengthen (fun _ _ held => held.2)
    intro self world oracle result after standing _holds performed _same
    cases performed
    exact ⟨standing.visible, standing, { standing with visible := Int.le_refl _ }⟩
  refine Contract.Triple.bind (consumer_checked ?_) (fun next => ?_)
  · rintro self before after relied ⟨further, standing, up⟩
    exact ⟨further, standing_stable self before after relied standing,
      standing_stable self before after relied up⟩
  refine Contract.Triple.assume (fun _ _ held => held.1) (fun same => ?_)
  refine Contract.Triple.pure _ ?_
  rintro self world ⟨_same, further, standing, up⟩
  by_cases nothing : next > published
  · rw [if_pos nothing]
    exact ⟨standing, by omega⟩
  · rw [if_neg nothing]
    exact ⟨by omega, by omega, up⟩

theorem borrow_triple (sequence : Int) (next : sequence = (position log).next)
    (shown : sequence ≤ visible)
    (permits : ∀ value, policy.permits log (.read sequence value)) :
    policy.ConsumerTriple consumerId (policy.Standing consumerId log app visible)
      (Consumer.borrow transport sequence)
      (fun event self world => event.sequence = sequence ∧
        event.slot = transport.ring.index sequence ∧
        policy.Standing consumerId (log ++ [.read sequence event.value]) app visible
          self world) := by
  refine Contract.Triple.through (fun slot self world =>
    slot = transport.ring.index sequence ∧
      policy.Standing consumerId log app visible self world) ?_ (fun slot => ?_)
  · refine Contract.Triple.bind (consumer_expect standing_stable) (fun _ => ?_)
    exact Contract.Triple.pure _ (fun _ _ held => ⟨rfl, held.2⟩)
  refine Contract.Triple.bind current_triple (fun consumer => ?_)
  refine Contract.Triple.through (fun (value : application.interface.Value) self world =>
    slot = transport.ring.index sequence ∧
      policy.Standing consumerId (log ++ [.read sequence value]) app visible self world) ?_
    (fun value => Contract.Triple.pure _ (fun _ _ held => ⟨rfl, held.1, held.2⟩))
  refine Contract.Triple.perform ?_
  rintro self world before ⟨rfl, placed, standing⟩ relied _holds _met
  have stands := standing_stable self world before relied standing
  have events := stands.here.events
  refine ⟨⟨stands.here.named, placed, Int.le_trans shown stands.visible, ?_, ?_⟩, ?_⟩
  · rw [events]
    exact next
  · rw [events]
    exact permits _
  · intro oracle result after performed
    cases performed
    refine ⟨placed, ⟨stands.here.named, ?_, stands.here.attached, stands.here.initialised, ?_⟩,
      stands.app, stands.visible⟩
    · rw [stands.here.lastProcessedSequence, position_snoc]
      rfl
    · simp only [World.record, stands.here.named, Function.update_self, events]

theorem publishConsumedSequence_triple (sequence : Int)
    (fits : (position log).committed < sequence ∧ sequence + 1 = (position log).next)
    (permits : policy.permits log (.commit sequence)) :
    policy.ConsumerTriple consumerId (policy.Standing consumerId log app visible)
      (Consumer.publishConsumedSequence sequence)
      (fun _ => policy.Standing consumerId (log ++ [.commit sequence]) app visible) := by
  refine Contract.Triple.bind current_triple (fun consumer => ?_)
  refine Contract.Triple.through (fun _ (self : Consumer × App) world =>
    policy.Standing consumerId (log ++ [.commit sequence]) app visible
      ({ self.1 with lastProcessedSequence := sequence }, self.2) world) ?_ (fun _ => ?_)
  · refine Contract.Triple.perform ?_
    rintro self world before ⟨rfl, standing⟩ relied _holds _met
    have stands := standing_stable self world before relied standing
    have events := stands.here.events
    refine ⟨⟨stands.here.named, stands.here.attached, stands.here.initialised, ?_, ?_⟩, ?_⟩
    · rw [events]
      exact fits
    · rw [events]
      exact permits
    · intro oracle result after performed
      cases performed
      refine ⟨⟨stands.here.named, ?_, stands.here.attached, stands.here.initialised, ?_⟩,
        stands.app, stands.visible⟩
      · rw [position_snoc]
        rfl
      · simp only [stands.here.named, Function.update_self, events]
  · intro self world standing fuel
    cases fuel with
    | zero => trivial
    | succ fuel => exact standing

/-! ### Single events -/

theorem position_read (idle : (position log).Idle) {sequence : Int}
    (next : sequence = (position log).committed + 1) (value : application.interface.Value) :
    sequence = (position log).next ∧
      position (log ++ [.read sequence value]) = ⟨(position log).committed, sequence + 1⟩ := by
  refine ⟨next.trans idle.symm, ?_⟩
  rw [position_snoc]
  rfl

theorem commits_at {committed sequence : Int} (placed : position log = ⟨committed, sequence + 1⟩)
    (ahead : committed < sequence) :
    (position log).committed < sequence ∧ sequence + 1 = (position log).next := by
  rw [placed]
  exact ⟨ahead, rfl⟩

theorem tryConsumeNext_triple (idle : (position log).Idle)
    (reads : ∀ sequence value, policy.permits log (.read sequence value))
    (commits : ∀ sequence value, policy.permits (log ++ [.read sequence value])
      (.commit sequence)) :
    policy.ConsumerTriple consumerId (policy.Standing consumerId log app visible)
      (Consumer.tryConsumeNext transport)
      (fun consumed self world => match consumed with
        | none => policy.Standing consumerId log app visible self world ∧
            visible ≤ (position log).committed
        | some (sequence, value) => sequence = (position log).committed + 1 ∧
            policy.Standing consumerId
              (log ++ [.read sequence value] ++ [.commit sequence]) app sequence
              self world) := by
  refine Contract.Triple.bind availableBatchBounds_triple (fun bounds => ?_)
  match bounds with
  | none =>
      refine Contract.Triple.assume (fun _ _ held => held.2) (fun nothing => ?_)
      refine Contract.Triple.bind ((consumerCount_triple _ _ _).strengthen
        (fun _ _ held => held.1)) (fun _ => ?_)
      exact Contract.Triple.pure none (fun _ _ held => ⟨held, nothing⟩)
  | some (lower, upper) =>
      refine Contract.Triple.given (lower = (position log).committed + 1 ∧ lower ≤ upper)
        (fun _ _ held => ⟨held.1, held.2.1⟩) (fun bounds => ?_)
      obtain ⟨first, shown⟩ := bounds
      refine Contract.Triple.bind ((borrow_triple lower (first.trans idle.symm) shown
        (reads lower)).strengthen (fun _ _ held => held.2.2)) (fun event => ?_)
      obtain ⟨_, after⟩ := position_read idle first event.value
      refine Contract.Triple.bind ((publishConsumedSequence_triple lower
        (commits_at after (by omega)) (commits lower event.value)).strengthen
          (fun _ _ held => held.2.2)) (fun _ => ?_)
      refine Contract.Triple.bind (consumerCount_triple _ _ _) (fun _ => ?_)
      refine Contract.Triple.bind (recordLag_triple _ _) (fun _ => ?_)
      exact Contract.Triple.pure _ (fun _ _ held =>
        ⟨first, { held with visible := Int.le_trans shown held.visible }⟩)

theorem consumeNext_triple (idle : (position log).Idle)
    (reads : ∀ sequence value, policy.permits log (.read sequence value))
    (commits : ∀ sequence value, policy.permits (log ++ [.read sequence value])
      (.commit sequence)) :
    policy.ConsumerTriple consumerId (policy.Standing consumerId log app visible)
      (Consumer.consumeNext transport)
      (fun event self world => event.1 = (position log).committed + 1 ∧
        policy.Standing consumerId (log ++ [.read event.1 event.2] ++ [.commit event.1]) app
          event.1 self world) := by
  refine Contract.Triple.repeat' (fun _ => policy.Standing consumerId log app visible) ?_ ()
  intro round
  refine Contract.Triple.bind (tryConsumeNext_triple idle reads commits) (fun consumed => ?_)
  match consumed with
  | none =>
      refine Contract.Triple.bind ((pause_consumer_triple idle).strengthen
        (fun _ _ held => held.1)) (fun _ => ?_)
      exact Contract.Triple.pure _ (fun _ _ held => held)
  | some (sequence, value) => exact Contract.Triple.pure _ (fun _ _ held => held)

def Used (policy : Policy application) (consumerId : ConsumerId)
    (log : List (ConsumerEvent application.interface)) (sequence : Int)
    (outcome : α → List (ConsumerEvent application.interface) → App → Prop)
    (result : α) (self : Consumer × App) (world : World application.interface) : Prop :=
  ∃ used app, policy.Standing consumerId used app sequence self world ∧
    position used = ⟨(position log).committed, sequence + 1⟩ ∧
    policy.permits used (.commit sequence) ∧ outcome result used app

/-- The slot is given back: its event is committed. -/
def GivenBack (policy : Policy application) (consumerId : ConsumerId) (sequence : Int)
    (outcome : α → List (ConsumerEvent application.interface) → App → Prop)
    (result : α) (self : Consumer × App) (world : World application.interface) : Prop :=
  ∃ used app, policy.Standing consumerId (used ++ [.commit sequence]) app sequence self world ∧
    (position used).next = sequence + 1 ∧ outcome result used app

variable {useLease : EventRef application.interface →
  ConsumerProcess application.interface App α}
variable {outcome : α → List (ConsumerEvent application.interface) → App → Prop}

theorem lease_triple (idle : (position log).Idle) (sequence : Int)
    (next : sequence = (position log).committed + 1) (shown : sequence ≤ visible)
    (reads : ∀ value, policy.permits log (.read sequence value))
    (uses : ∀ event, event.sequence = sequence →
      event.slot = transport.ring.index sequence →
      policy.ConsumerTriple consumerId
        (policy.Standing consumerId (log ++ [.read sequence event.value]) app sequence)
        (useLease event) (policy.Used consumerId log sequence outcome)) :
    policy.ConsumerTriple consumerId (policy.Standing consumerId log app visible)
      (Consumer.lease transport sequence useLease)
      (policy.GivenBack consumerId sequence outcome) := by
  refine Contract.Triple.bind (borrow_triple sequence (next.trans idle.symm) shown reads)
    (fun event => ?_)
  refine Contract.Triple.given (event.sequence = sequence ∧
    event.slot = transport.ring.index sequence) (fun _ _ held => ⟨held.1, held.2.1⟩)
    (fun handed => ?_)
  refine Contract.Triple.bind ((uses event handed.1 handed.2).strengthen
    (fun _ _ held => { held.2.2 with visible := Int.le_trans shown held.2.2.visible }))
    (fun result => ?_)
  refine Contract.Triple.exists (fun used => Contract.Triple.exists (fun after => ?_))
  refine Contract.Triple.given (position used = ⟨(position log).committed, sequence + 1⟩ ∧
    policy.permits used (.commit sequence) ∧ outcome result used after)
    (fun _ _ held => held.2) (fun facts => ?_)
  obtain ⟨placed, permits, done⟩ := facts
  refine Contract.Triple.bind ((publishConsumedSequence_triple sequence
    (commits_at placed (by omega)) permits).strengthen (fun _ _ held => held.1)) (fun _ => ?_)
  refine Contract.Triple.bind (consumerCount_triple _ _ _) (fun _ => ?_)
  refine Contract.Triple.pure _ (fun _ _ held => ⟨used, after, held, ?_, done⟩)
  rw [placed]

theorem tryConsumeNextLeased_triple (idle : (position log).Idle)
    (reads : ∀ sequence value, policy.permits log (.read sequence value))
    (uses : ∀ sequence event, sequence = (position log).committed + 1 →
      event.sequence = sequence → event.slot = transport.ring.index sequence →
      policy.ConsumerTriple consumerId
        (policy.Standing consumerId (log ++ [.read sequence event.value]) app sequence)
        (useLease event) (policy.Used consumerId log sequence outcome)) :
    policy.ConsumerTriple consumerId (policy.Standing consumerId log app visible)
      (Consumer.tryConsumeNextLeased transport useLease)
      (fun leased self world => match leased with
        | none => policy.Standing consumerId log app visible self world ∧
            visible ≤ (position log).committed
        | some result => policy.GivenBack consumerId ((position log).committed + 1) outcome
            result self world) := by
  refine Contract.Triple.bind availableBatchBounds_triple (fun bounds => ?_)
  match bounds with
  | none =>
      refine Contract.Triple.assume (fun _ _ held => held.2) (fun nothing => ?_)
      refine Contract.Triple.bind ((consumerCount_triple _ _ _).strengthen
        (fun _ _ held => held.1)) (fun _ => ?_)
      exact Contract.Triple.pure none (fun _ _ held => ⟨held, nothing⟩)
  | some (lower, upper) =>
      refine Contract.Triple.given (lower = (position log).committed + 1 ∧ lower ≤ upper)
        (fun _ _ held => ⟨held.1, held.2.1⟩) (fun bounds => ?_)
      obtain ⟨rfl, shown⟩ := bounds
      refine Contract.Triple.bind ((recordLag_triple _ _).strengthen
        (fun _ _ held => held.2.2)) (fun _ => ?_)
      refine Contract.Triple.bind (lease_triple idle _ rfl shown (reads _)
        (fun event => uses _ event rfl)) (fun result => ?_)
      exact Contract.Triple.pure _ (fun _ _ held => held)

theorem consumeNextLeased_triple (idle : (position log).Idle)
    (reads : ∀ sequence value, policy.permits log (.read sequence value))
    (uses : ∀ sequence event, sequence = (position log).committed + 1 →
      event.sequence = sequence → event.slot = transport.ring.index sequence →
      policy.ConsumerTriple consumerId
        (policy.Standing consumerId (log ++ [.read sequence event.value]) app sequence)
        (useLease event) (policy.Used consumerId log sequence outcome)) :
    policy.ConsumerTriple consumerId (policy.Standing consumerId log app visible)
      (Consumer.consumeNextLeased transport useLease)
      (policy.GivenBack consumerId ((position log).committed + 1) outcome) := by
  refine Contract.Triple.repeat' (fun _ => policy.Standing consumerId log app visible) ?_ ()
  intro round
  refine Contract.Triple.bind availableBatchBounds_triple (fun bounds => ?_)
  match bounds with
  | none =>
      refine Contract.Triple.bind ((pause_consumer_triple idle).strengthen
        (fun _ _ held => held.1)) (fun _ => ?_)
      exact Contract.Triple.pure _ (fun _ _ held => held)
  | some (lower, upper) =>
      refine Contract.Triple.given (lower = (position log).committed + 1 ∧ lower ≤ upper)
        (fun _ _ held => ⟨held.1, held.2.1⟩) (fun bounds => ?_)
      obtain ⟨rfl, shown⟩ := bounds
      refine Contract.Triple.bind ((lease_triple idle _ rfl shown (reads _)
        (fun event => uses _ event rfl)).strengthen (fun _ _ held => held.2.2))
        (fun result => ?_)
      exact Contract.Triple.pure _ (fun _ _ held => held)

theorem isEndOfBatch_triple :
    policy.ConsumerTriple consumerId (policy.Standing consumerId log app visible)
      Consumer.isEndOfBatch (fun _ => policy.Standing consumerId log app visible) :=
  Contract.Triple.bind current_triple (fun _ =>
    Contract.Triple.bind ((consumer_idle standing_stable rfl).strengthen
      (fun _ _ held => held.2)) (fun _ => Contract.Triple.pure _ (fun _ _ held => held)))

theorem processNextBlocking_triple (idle : (position log).Idle)
    (reads : ∀ sequence value, policy.permits log (.read sequence value))
    (commits : ∀ sequence value, policy.permits (log ++ [.read sequence value])
      (.commit sequence))
    {processor : application.interface.Value → Int → Bool →
      ConsumerProcess application.interface App Unit} {after : Int → Bool →
      application.interface.Value → App}
    (processed : ∀ sequence value endOfBatch, sequence = (position log).committed + 1 →
      policy.ConsumerTriple consumerId (policy.Standing consumerId
        (log ++ [.read sequence value] ++ [.commit sequence]) app sequence)
        (processor value sequence endOfBatch)
        (fun _ => policy.Standing consumerId
          (log ++ [.read sequence value] ++ [.commit sequence]) (after sequence endOfBatch value)
          sequence)) :
    policy.ConsumerTriple consumerId (policy.Standing consumerId log app visible)
      (Consumer.processNextBlocking transport processor)
      (fun result self world => ∃ value, result.1 = (position log).committed + 1 ∧
        policy.Standing consumerId (log ++ [.read result.1 value] ++ [.commit result.1])
          (after result.1 result.2 value) result.1 self world) := by
  refine Contract.Triple.bind (consumeNext_triple idle reads commits) (fun event => ?_)
  refine Contract.Triple.assume (fun _ _ held => held.1) (fun next => ?_)
  refine Contract.Triple.bind (isEndOfBatch_triple.strengthen (fun _ _ held => held.2))
    (fun endOfBatch => ?_)
  refine Contract.Triple.bind (processed event.1 event.2 endOfBatch next) (fun _ => ?_)
  exact Contract.Triple.pure _ (fun _ _ held => ⟨event.2, next, held⟩)

/-! ### Holding a slot -/

/-- Every look at a slot that is held finds the event that was read there. -/
theorem hold_triple (kept : List (ConsumerEvent application.interface) → Prop)
    (event : EventRef application.interface)
    (placed : event.slot = transport.ring.index event.sequence)
    (ahead : (position log).committed < event.sequence)
    (held : event.sequence < (position log).next)
    (rereads : ∀ log value, kept log → policy.permits log (.reread event.sequence value) ∧
      kept (log ++ [.reread event.sequence value])) (keeps : kept log) :
    policy.ConsumerTriple consumerId (policy.Standing consumerId log app visible)
      (Consumer.hold event)
      (fun _ self world => ∃ used, (kept used ∧ position used = position log) ∧
        policy.Standing consumerId used app visible self world) := by
  refine (Contract.Triple.repeat' (fun _ self world => ∃ used,
    (kept used ∧ position used = position log) ∧
      policy.Standing consumerId used app visible self world) ?_ ()).strengthen
    (fun _ _ standing => ⟨log, ⟨keeps, rfl⟩, standing⟩)
  intro round
  refine Contract.Triple.exists (fun used => ?_)
  refine Contract.Triple.given (kept used ∧ position used = position log)
    (fun _ _ held => held.1) (fun facts => ?_)
  obtain ⟨keeps, same⟩ := facts
  refine Contract.Triple.bind (current_triple.strengthen (fun _ _ held => held.2))
    (fun consumer => ?_)
  refine Contract.Triple.given (consumer.consumerId = consumerId) ?_ (fun named => ?_)
  · rintro self world ⟨rfl, standing⟩
    exact standing.here.named
  refine Contract.Triple.bind ((consumer_idle standing_stable rfl).strengthen
    (fun _ _ held => held.2)) (fun again => ?_)
  cases again with
  | false => exact Contract.Triple.pure _ (fun _ _ standing => ⟨used, ⟨keeps, same⟩, standing⟩)
  | true =>
      refine Contract.Triple.through (fun (_ : application.interface.Value) self world =>
        ∃ used, (kept used ∧ position used = position log) ∧
          policy.Standing consumerId used app visible self world) ?_
        (fun _ => Contract.Triple.pure _ (fun _ _ held => held))
      refine Contract.Triple.perform ?_
      intro self world before standing relied holds _met
      have stands := standing_stable self world before relied standing
      have events := stands.here.events
      have committed := (holds.positions consumerId).1
      rw [events, same] at committed
      refine ⟨⟨named, placed, ?_, ?_, ?_⟩, ?_⟩
      · rw [← committed]
        exact ahead
      · rw [events, same]
        exact held
      · rw [events]
        exact (rereads used _ keeps).1
      · intro oracle result after performed
        cases performed
        refine ⟨used ++ [.reread event.sequence (before.slots event.slot)],
          ⟨(rereads used _ keeps).2, ?_⟩,
          ⟨stands.here.named, ?_, stands.here.attached, stands.here.initialised, ?_⟩,
          stands.app, stands.visible⟩
        · rw [position_snoc]
          exact same
        · rw [stands.here.lastProcessedSequence, position_snoc]
          rfl
        · simp only [World.record, named, Function.update_self, events]

/-! ### Batches -/

/-- What a callback and the application around it keep: between the batches, with the number
of the events that were processed, and within a batch, with the last event of it too. -/
structure Batches (policy : Policy application) (consumerId : ConsumerId)
    (rests : Nat → List (ConsumerEvent application.interface) → App → Prop)
    (inside : Nat → Int → List (ConsumerEvent application.interface) → App → Prop)
    (processor : EventRef application.interface → Bool →
      ConsumerProcess application.interface App Unit) : Prop where
  opens : ∀ count log app upper, rests count log app → (position log).Idle →
    inside count upper log app
  reads : ∀ count upper log app sequence value, inside count upper log app →
    policy.permits log (.read sequence value)
  processed : ∀ count upper log app visible event, inside count upper log app →
    (position log).committed < event.sequence → (position log).next = event.sequence →
    event.sequence ≤ upper → event.slot = transport.ring.index event.sequence →
    policy.ConsumerTriple consumerId
      (policy.Standing consumerId (log ++ [.read event.sequence event.value]) app visible)
      (processor event (decide (event.sequence = upper)))
      (fun _ self world => ∃ used after, inside (count + 1) upper used after ∧
        position used = ⟨(position log).committed, event.sequence + 1⟩ ∧
        policy.Standing consumerId used after visible self world)
  commits : ∀ count log app upper, inside count upper log app →
    (position log).committed < upper → (position log).next = upper + 1 →
    policy.permits log (.commit upper) ∧ rests count (log ++ [.commit upper]) app

/-- What a callback and the application around it keep, from event to event. -/
structure Processes (policy : Policy application) (consumerId : ConsumerId)
    (kept : List (ConsumerEvent application.interface) → App → Prop)
    (processor : EventRef application.interface → Bool →
      ConsumerProcess application.interface App Unit) : Prop where
  reads : ∀ log app sequence value, kept log app →
    policy.permits log (.read sequence value)
  processed : ∀ log app visible event endOfBatch, kept log app →
    (position log).committed < event.sequence →
    event.slot = transport.ring.index event.sequence →
    policy.ConsumerTriple consumerId
      (policy.Standing consumerId (log ++ [.read event.sequence event.value]) app visible)
      (processor event endOfBatch)
      (fun _ self world => ∃ used after, kept used after ∧
        position used = ⟨(position log).committed, event.sequence + 1⟩ ∧
        policy.Standing consumerId used after visible self world)
  commits : ∀ log app sequence, kept log app → (position log).next = sequence + 1 →
    policy.permits log (.commit sequence) ∧ kept (log ++ [.commit sequence]) app

variable {kept : List (ConsumerEvent application.interface) → App → Prop}
variable {rests : Nat → List (ConsumerEvent application.interface) → App → Prop}
variable {inside : Nat → Int → List (ConsumerEvent application.interface) → App → Prop}
variable {processor : EventRef application.interface → Bool →
  ConsumerProcess application.interface App Unit}

theorem Processes.batches (processes : policy.Processes consumerId kept processor) :
    policy.Batches consumerId (fun _ => kept) (fun _ _ => kept) processor where
  opens := fun _ _ _ _ keeps _ => keeps
  reads := fun _ _ log app sequence value keeps => processes.reads log app sequence value keeps
  processed := fun _ _ log app visible event keeps ahead _ _ placed =>
    processes.processed log app visible event _ keeps ahead placed
  commits := fun _ log app upper keeps _ read => processes.commits log app upper keeps read

def Rested (policy : Policy application) (consumerId : ConsumerId)
    (kept : List (ConsumerEvent application.interface) → App → Prop)
    (self : Consumer × App) (world : World application.interface) : Prop :=
  ∃ log app visible, kept log app ∧ (position log).Idle ∧
    policy.Standing consumerId log app visible self world

theorem sequences_cons {lower upper : Int} (nonempty : lower ≤ upper) :
    Consumer.sequences lower upper = lower :: Consumer.sequences (lower + 1) upper := by
  have count : (upper - lower + 1).toNat = (upper - (lower + 1) + 1).toNat + 1 := by omega
  unfold Consumer.sequences
  rw [count, List.range_succ_eq_map, List.map_cons, List.map_map]
  refine congr_arg₂ List.cons (by omega) (List.map_congr_left (fun offset _ => ?_))
  simp only [Function.comp_apply, Nat.succ_eq_add_one, Int.natCast_add, Int.cast_ofNat_Int]
  omega

theorem sequences_nil {lower upper : Int} (empty : upper < lower) :
    Consumer.sequences lower upper = [] := by
  unfold Consumer.sequences
  rw [show (upper - lower + 1).toNat = 0 by omega]
  rfl

theorem rested_stable : ConsumerStable consumerId (policy.Rested consumerId kept) := by
  rintro self before after relied ⟨log, app, visible, keeps, idle, standing⟩
  exact ⟨log, app, visible, keeps, idle, standing_stable self before after relied standing⟩

theorem pause_rested_triple :
    policy.ConsumerTriple consumerId (policy.Rested consumerId kept) (act .pause)
      (fun _ => policy.Rested consumerId kept) := by
  refine Contract.Triple.exists (fun log => Contract.Triple.exists (fun app =>
    Contract.Triple.exists (fun visible => ?_)))
  refine Contract.Triple.given (kept log app ∧ (position log).Idle)
    (fun _ _ held => ⟨held.1, held.2.1⟩) (fun facts => ?_)
  exact ((pause_consumer_triple facts.2).strengthen (fun _ _ held => held.2.2)).weaken
    (fun _ _ _ standing => ⟨log, app, visible, facts.1, facts.2, standing⟩)

theorem count_rested_triple (counter : ConsumerId → Counter)
    (attached : ConsumerCounters → Bool) (amount : Nat) :
    policy.ConsumerTriple consumerId (policy.Rested consumerId kept)
      (Consumer.count counter attached amount) (fun _ => policy.Rested consumerId kept) := by
  refine Contract.Triple.exists (fun log => Contract.Triple.exists (fun app =>
    Contract.Triple.exists (fun visible => ?_)))
  refine Contract.Triple.given (kept log app ∧ (position log).Idle)
    (fun _ _ held => ⟨held.1, held.2.1⟩) (fun facts => ?_)
  exact ((consumerCount_triple _ _ _).strengthen (fun _ _ held => held.2.2)).weaken
    (fun _ _ _ held => ⟨log, app, visible, facts.1, facts.2, held⟩)

theorem batch_triple (batches : policy.Batches consumerId rests inside processor)
    {count : Nat} {committed lower upper : Int} (after : committed < lower)
    (within : lower ≤ upper + 1) :
    policy.ConsumerTriple consumerId
      (fun self world => ∃ log app, inside count upper log app ∧
        position log = ⟨committed, lower⟩ ∧
        policy.Standing consumerId log app upper self world)
      (Routine.each (fun sequence : Int => do
        let event ← Consumer.borrow transport sequence
        processor event (decide (sequence = upper))) (Consumer.sequences lower upper))
      (fun _ self world => ∃ log app,
        inside (count + (Consumer.sequences lower upper).length) upper log app ∧
        position log = ⟨committed, upper + 1⟩ ∧
        policy.Standing consumerId log app upper self world) := by
  by_cases more : lower ≤ upper
  · rw [sequences_cons more, List.length_cons, Nat.add_comm _ 1, ← Nat.add_assoc]
    refine Contract.Triple.bind ?_ (fun _ =>
      batch_triple batches (by omega) (show lower + 1 ≤ upper + 1 by omega))
    refine Contract.Triple.exists (fun log => Contract.Triple.exists (fun app => ?_))
    refine Contract.Triple.given (inside count upper log app ∧ position log = ⟨committed, lower⟩)
      (fun _ _ held => ⟨held.1, held.2.1⟩) (fun facts => ?_)
    obtain ⟨keeps, placed⟩ := facts
    refine Contract.Triple.bind ((borrow_triple lower (by rw [placed]) more
      (fun value => batches.reads count upper log app lower value keeps)).strengthen
      (fun _ _ held => held.2.2)) (fun event => ?_)
    refine Contract.Triple.given (event.sequence = lower ∧
      event.slot = transport.ring.index lower) (fun _ _ held => ⟨held.1, held.2.1⟩)
      (fun handed => ?_)
    obtain ⟨rfl, slot⟩ := handed
    refine ((batches.processed count upper log app upper event keeps
      (by rw [placed]; exact after) (by rw [placed]) more slot).strengthen
      (fun _ _ held => held.2.2)).weaken ?_
    rintro _ self world ⟨used, later, keeps, moved, standing⟩
    exact ⟨used, later, keeps, by rw [moved, placed], standing⟩
  · have done : lower = upper + 1 := by omega
    rw [sequences_nil (by omega)]
    subst done
    exact Contract.Triple.pure () (fun _ _ held => held)
termination_by (upper + 1 - lower).toNat

def Facing (policy : Policy application) (consumerId : ConsumerId)
    (kept : List (ConsumerEvent application.interface) → App → Prop) (lower upper : Int)
    (self : Consumer × App) (world : World application.interface) : Prop :=
  ∃ log app, (kept log app ∧ position log = ⟨lower - 1, lower⟩ ∧ lower ≤ upper) ∧
    policy.Standing consumerId log app upper self world

theorem bounds_triple :
    policy.ConsumerTriple consumerId (policy.Rested consumerId kept)
      (Consumer.availableBatchBounds transport)
      (fun bounds => match bounds with
        | none => policy.Rested consumerId kept
        | some (lower, upper) => policy.Facing consumerId kept lower upper) := by
  refine Contract.Triple.exists (fun log => Contract.Triple.exists (fun app =>
    Contract.Triple.exists (fun visible => ?_)))
  refine Contract.Triple.given (kept log app ∧ (position log).Idle)
    (fun _ _ held => ⟨held.1, held.2.1⟩) (fun facts => ?_)
  obtain ⟨keeps, idle⟩ := facts
  refine (availableBatchBounds_triple.strengthen (fun _ _ held => held.2.2)).weaken ?_
  intro bounds self world held
  match bounds with
  | none => exact ⟨log, app, visible, keeps, idle, held.1⟩
  | some (lower, upper) =>
      obtain ⟨rfl, shown, standing⟩ := held
      refine ⟨log, app, ⟨keeps, ?_, shown⟩, standing⟩
      rw [show (position log).committed + 1 - 1 = (position log).committed by omega, ← idle]

theorem countedSnapshot_triple (batches : policy.Batches consumerId rests inside processor)
    (count : Nat) (lower upper : Int) :
    policy.ConsumerTriple consumerId (policy.Facing consumerId (rests count) lower upper)
      (Consumer.processSnapshotBatchWithEob transport lower upper processor)
      (fun more => policy.Rested consumerId (rests (count + more))) := by
  refine Contract.Triple.exists (fun log => Contract.Triple.exists (fun app => ?_))
  refine Contract.Triple.given
    (rests count log app ∧ position log = ⟨lower - 1, lower⟩ ∧ lower ≤ upper)
    (fun _ _ held => held.1) (fun facts => ?_)
  obtain ⟨keeps, placed, nonempty⟩ := facts
  have opened : inside count upper log app := by
    apply batches.opens count log app upper keeps
    rw [placed]
    exact (Int.sub_add_cancel lower 1).symm
  refine Contract.Triple.bind ((recordLag_triple _ _).strengthen (fun _ _ held => held.2))
    (fun _ => ?_)
  refine Contract.Triple.bind ((batch_triple batches (show lower - 1 < lower by omega)
    (by omega)).strengthen (fun _ _ held => ⟨log, app, opened, placed, held⟩)) (fun _ => ?_)
  refine Contract.Triple.exists (fun log => Contract.Triple.exists (fun app => ?_))
  refine Contract.Triple.given
    (inside (count + (Consumer.sequences lower upper).length) upper log app ∧
      position log = ⟨lower - 1, upper + 1⟩)
    (fun _ _ held => ⟨held.1, held.2.1⟩) (fun facts => ?_)
  obtain ⟨keeps, placed⟩ := facts
  obtain ⟨permits, keeps⟩ := batches.commits _ log app upper keeps
    (by rw [placed]; change lower - 1 < upper; omega) (by rw [placed])
  refine Contract.Triple.bind ((publishConsumedSequence_triple upper
    (commits_at placed (by omega)) permits).strengthen (fun _ _ held => held.2.2))
    (fun _ => ?_)
  refine Contract.Triple.bind (consumerCount_triple _ _ _) (fun _ => ?_)
  refine Contract.Triple.pure _ (fun _ _ held => ⟨_, app, upper, keeps, ?_, held⟩)
  rw [position_snoc, placed]
  rfl

/-- What a call returns is the number of the events that it has processed by then. -/
theorem countedBatches_triple (batches : policy.Batches consumerId rests inside processor)
    (count : Nat) :
    policy.ConsumerTriple consumerId (policy.Rested consumerId (rests count))
      (Consumer.processBatches transport count processor)
      (fun total => policy.Rested consumerId (rests total)) := by
  refine Contract.Triple.repeat' (fun processed => policy.Rested consumerId (rests processed))
    ?_ count
  intro processed
  refine Contract.Triple.bind bounds_triple (fun bounds => ?_)
  match bounds with
  | none => exact Contract.Triple.pure _ (fun _ _ held => held)
  | some (lower, upper) =>
      exact Contract.Triple.bind (countedSnapshot_triple batches processed lower upper)
        (fun _ => Contract.Triple.pure _ (fun _ _ held => held))

theorem countedBlocking_triple (batches : policy.Batches consumerId rests inside processor) :
    policy.ConsumerTriple consumerId (policy.Rested consumerId (rests 0))
      (Consumer.processAvailableBlocking transport processor)
      (fun total => policy.Rested consumerId (rests total)) := by
  refine Contract.Triple.through (fun first => policy.Rested consumerId (rests first)) ?_
    (fun first => countedBatches_triple batches first)
  refine Contract.Triple.repeat' (fun _ => policy.Rested consumerId (rests 0)) ?_ ()
  intro round
  refine Contract.Triple.bind bounds_triple (fun bounds => ?_)
  match bounds with
  | none =>
      refine Contract.Triple.bind pause_rested_triple (fun _ => ?_)
      exact Contract.Triple.pure _ (fun _ _ held => held)
  | some (lower, upper) =>
      refine Contract.Triple.bind (countedSnapshot_triple batches 0 lower upper)
        (fun more => ?_)
      rw [Nat.zero_add]
      exact Contract.Triple.pure _ (fun _ _ held => held)

theorem countedAvailable_triple
    {processor : EventRef application.interface →
      ConsumerProcess application.interface App Unit}
    (batches : policy.Batches consumerId rests inside (fun event _ => processor event)) :
    policy.ConsumerTriple consumerId (policy.Rested consumerId (rests 0))
      (Consumer.processAvailable transport processor)
      (fun total => policy.Rested consumerId (rests total)) := by
  unfold Consumer.processAvailable
  split
  · refine Contract.Triple.bind (countedBatches_triple batches 0) (fun processed => ?_)
    refine Contract.Triple.through (fun _ => policy.Rested consumerId (rests processed)) ?_
      (fun _ => Contract.Triple.pure _ (fun _ _ held => held))
    exact consumer_onlyIf (count_rested_triple _ _ _)
  · refine Contract.Triple.bind bounds_triple (fun bounds => ?_)
    match bounds with
    | none => exact Contract.Triple.pure _ (fun _ _ held => held)
    | some (lower, upper) =>
        refine (countedSnapshot_triple batches 0 lower upper).weaken ?_
        intro more self world held
        rw [Nat.zero_add] at held
        exact held

/-! ### Batches whose events are all alike -/

theorem processSnapshotBatchWithEob_triple
    (processes : policy.Processes consumerId kept processor) (lower upper : Int) :
    policy.ConsumerTriple consumerId (policy.Facing consumerId kept lower upper)
      (Consumer.processSnapshotBatchWithEob transport lower upper processor)
      (fun _ => policy.Rested consumerId kept) :=
  countedSnapshot_triple processes.batches 0 lower upper

theorem processAvailableBlocking_triple
    (processes : policy.Processes consumerId kept processor) :
    policy.ConsumerTriple consumerId (policy.Rested consumerId kept)
      (Consumer.processAvailableBlocking transport processor)
      (fun _ => policy.Rested consumerId kept) :=
  countedBlocking_triple processes.batches

theorem processAvailable_triple
    {processor : EventRef application.interface →
      ConsumerProcess application.interface App Unit}
    (processes : policy.Processes consumerId kept (fun event _ => processor event)) :
    policy.ConsumerTriple consumerId (policy.Rested consumerId kept)
      (Consumer.processAvailable transport processor)
      (fun _ => policy.Rested consumerId kept) :=
  countedAvailable_triple processes.batches

end Policy
end Ring
