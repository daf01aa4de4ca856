/-
The producer and the consumers of a ring never wait for each other.

The capacity check of the producer fails only where the slowest consumer is a round
of the ring behind what was published, so that consumer has events to consume. The
check and the poll of a consumer are launched as probes in a state of a run.
-/

import Myelon.Ring.LateJoin

namespace Ring

open Interleaving Delivery

/-! ### Probes -/

/-- The capacity check for one event, as `publish` makes it in each of its rounds. -/
def Producer.probe {interface : Interface} (transport : Transport) :
    ProducerProcess interface Unit := do
  let reserved ← Producer.nextSequences transport 1
  match reserved with
  | .ok _ => pure ()
  | .error _ => act .refused

def Consumer.probe {interface : Interface} (transport : Transport) :
    ConsumerProcess interface Unit Unit := do
  let consumed ← Consumer.tryConsumeNext transport
  match consumed with
  | some _ => pure ()
  | none => act .refused

variable {transport : Transport}

def probing {interface : Interface} {State : Type} (probe : Process interface State Unit)
    (self : State) : Program (signature interface) Self Unit :=
  (probe self).bind fun _ => .done ()

/-! ### The contract of consumers that make the producer wait -/

/-- Nobody counts for what is written; only the given consumers ever attach. -/
def Policy.waiting (application : Application transport) (passes : DirectoryPasses)
    (consumerIds : List ConsumerId) : Policy application :=
  { Policy.unobserved application passes with
    joins := fun consumerId => consumerId ∈ consumerIds }

namespace Policy

variable {application : Application transport} {policy : Policy application}

theorem producerProbe_safe {written : List application.interface.Value}
    {replies : List (Nat × application.interface.ProducerReply)} {low : Int}
    {producer : Producer} {world : World application.interface}
    (resting : policy.Resting written replies low producer world)
    (room : (written.length : Int) ≤ low + transport.ring.size) (fuel : Nat) :
    policy.contract.Safe .producer fuel (probing (Producer.probe transport) producer)
      (fun _ _ => True) world := by
  have triple : policy.ProducerTriple (policy.Resting written replies low)
      (Producer.probe transport) (fun _ _ _ => True) := by
    refine Contract.Triple.bind (nextSequences_triple 1) (fun reserved => ?_)
    cases reserved with
    | ok nNext => exact Contract.Triple.pure _ (fun _ _ _ => trivial)
    | error missing =>
        refine Contract.Triple.given (Refused transport written.length low 1 ∧
          (written.length : Int) < 2 ^ 63) ?_ (fun refused => ?_)
        · intro self world held
          have bound := held.1.settled.inRange
          rw [held.1.written] at bound
          exact ⟨held.2, by omega⟩
        · exfalso
          obtain ⟨refused, bound⟩ := refused
          simp only [Refused, InRange] at refused
          omega
  refine (triple producer world resting fuel).bind _ ?_
  intro out after _held remaining _fewer
  cases remaining <;> trivial

theorem consumerProbe_safe {consumerId : ConsumerId} {consumer : Consumer}
    {world : World application.interface} (free : ∀ log event, policy.permits log event)
    (here : Consumer.At consumerId (world.events consumerId) consumer world)
    (idle : (position (world.events consumerId)).Idle)
    (ahead : (position (world.events consumerId)).committed < world.producerSequence)
    (fuel : Nat) :
    policy.contract.Safe (.consumer consumerId) fuel
      (probing (Consumer.probe transport) (consumer, ())) (fun _ _ => True) world := by
  have triple : policy.ConsumerTriple consumerId
      (policy.Standing consumerId (world.events consumerId) () world.producerSequence)
      (Consumer.probe transport) (fun _ _ _ => True) := by
    refine Contract.Triple.bind (tryConsumeNext_triple idle (fun _ _ => free _ _)
      (fun _ _ => free _ _)) (fun consumed => ?_)
    match consumed with
    | some event => exact Contract.Triple.pure _ (fun _ _ _ => trivial)
    | none =>
        refine Contract.Triple.assume (fun _ _ held => held.2) (fun nothing => ?_)
        omega
  refine (triple (consumer, ()) world ⟨here, rfl, Int.le_refl _⟩ fuel).bind _ ?_
  intro out after _held remaining _fewer
  cases remaining <;> trivial

end Policy

/-! ### No deadlock -/

variable {application : Application transport}

/-- Wherever the consumer rests, it has events to consume, and its next poll is not
refused whatever the others do meanwhile. -/
def Pollable (application : Application transport) (passes : DirectoryPasses)
    (state : application.State) (consumerId : ConsumerId) : Prop :=
  ∀ consumer action, state.AboutTo (.consumer consumerId) (.consumer consumer) action →
    action = .pause ∨ action = .nextConsumerRequest consumerId →
    consumer.lastProcessedSequence < state.world.producerSequence ∧
    ∀ (moves : List (Move Party (application.machine passes).Oracle)) polled,
      (application.machine passes).run (state.launch (.consumer consumerId)
        (probing (Consumer.probe transport) (consumer, ()))) moves = some polled →
      ∀ self, ¬ polled.AboutTo (.consumer consumerId) self .refused

variable {passes : DirectoryPasses} {consumerIds : List ConsumerId}
variable {kept : List (ConsumerEvent application.interface) → application.App → Prop}

theorem waiting_met (state : application.State)
    (moves : List (Move Party (application.machine passes).Oracle)) :
    (application.machine passes).Meets
      (Policy.waiting application passes consumerIds).contract.condition state moves := by
  refine Machine.meets_always ?_ _ _
  intro party self action world
  cases party with
  | producer => cases self <;> trivial
  | consumer consumerId => trivial

theorem waiting_accepts (state : application.State)
    (moves : List (Move Party (application.machine passes).Oracle)) :
    (application.machine passes).Accepts
      (Policy.waiting application passes consumerIds).contract.accepts state moves :=
  (Policy.waiting application passes consumerIds).accepts_always (fun _ _ _ _ => trivial) state
    moves

theorem pollable_of_behind {state : application.State}
    (servesConsumer : (Policy.waiting application passes consumerIds).ServesConsumer kept)
    (upheld : (Policy.waiting application passes consumerIds).contract.Upheld state)
    {consumerId : ConsumerId}
    (behind : state.world.consumerSequence consumerId < state.world.producerSequence) :
    Pollable application passes state consumerId := by
  intro consumer action about resting
  have atRest : Consumer.AtRest consumerId (.consumer consumer) state.world := by
    have guaranteed := upheld.guaranteed about trivial
    rcases resting with rfl | rfl
    · exact guaranteed
    · exact guaranteed.2.1
  obtain ⟨owner, same, here, idle⟩ := atRest
  cases same
  have committed := (upheld.invariant.positions consumerId).1
  refine ⟨by rw [here.lastProcessedSequence, committed]; exact behind, ?_⟩
  intro moves polled ran self refused
  have launched := upheld.launch (Policy.consumerProbe_safe (fun _ _ => trivial) here idle
    (by rw [committed]; exact behind))
  have after := Contract.Upheld.run (fun _ _ _ _ holds restarted =>
    Policy.restart_safe servesConsumer holds restarted) launched (waiting_met _ _)
    (waiting_accepts _ _) ran
  exact Bool.false_ne_true (after.guaranteed refused trivial)

theorem waiting_settled {state : application.State}
    (upheld : (Policy.waiting application passes consumerIds).contract.Upheld state)
    {owner : Producer} {action : Action application.interface}
    (about : state.AboutTo .producer (.producer owner) action)
    (resting : action = .pause ∨ action = .nextProducerRequest) :
    (Policy.waiting application passes consumerIds).Settled owner state.world := by
  have guaranteed := upheld.guaranteed about trivial
  rcases resting with rfl | rfl
  · obtain ⟨same, equal, settled⟩ := guaranteed
    cases equal
    exact settled
  · obtain ⟨same, equal, settled, _rested⟩ := guaranteed
    cases equal
    exact settled

/-- A refused capacity check, started where the producer rests, leaves a consumer
that was a round of the ring behind at that time. -/
theorem refused_leaves_pollable
    (servesProducer : (Policy.waiting application passes consumerIds).ServesProducer)
    (servesConsumer : (Policy.waiting application passes consumerIds).ServesConsumer kept)
    {slots : Nat → application.interface.Value} {producer : Producer}
    (fresh : producer.Fresh transport) (nonempty : consumerIds ≠ [])
    (known : producer.consumerBarrier.consumerCursors = consumerIds)
    {moves probes : List (Move Party (application.machine passes).Oracle)}
    {state after : application.State}
    (reached : (application.machine passes).run
      (application.start slots producer consumerIds []) moves = some state)
    {owner : Producer} {action : Action application.interface}
    (about : state.AboutTo .producer (.producer owner) action)
    (resting : action = .pause ∨ action = .nextProducerRequest)
    (probed : (application.machine passes).run
      (state.launch .producer (probing (Producer.probe transport) owner)) probes = some after)
    {self : Self} (refused : after.AboutTo .producer self .refused) :
    ∃ consumerId ∈ consumerIds, state.world.consumerSequence consumerId +
        transport.ring.size ≤ state.world.producerSequence ∧
      Pollable application passes state consumerId := by
  have upheld : (Policy.waiting application passes consumerIds).contract.Upheld state :=
    Policy.run_upheld servesProducer servesConsumer slots fresh
      (fun _ impossible => impossible.elim) (known ▸ List.Subset.refl _)
      (fun consumerId member => by rwa [List.append_nil] at member) (fun _ _ _ => trivial)
      (waiting_met _ _) (waiting_accepts _ _) reached
  have holds := upheld.invariant
  have settled := waiting_settled upheld about resting
  have size := transport.ring.size_pos
  by_cases behind : ∃ consumerId ∈ consumerIds, state.world.consumerSequence consumerId +
      transport.ring.size ≤ state.world.producerSequence
  · obtain ⟨consumerId, member, round⟩ := behind
    exact ⟨consumerId, member, round, pollable_of_behind servesConsumer upheld (by omega)⟩
  · exfalso
    have length := settled.published
    have rests : (Policy.waiting application passes consumerIds).Resting state.world.written
        state.world.replies (state.world.producerSequence + 1 - transport.ring.size) owner
        state.world :=
      { settled
        written := rfl
        replies := rfl
        floor := fun consumerId => (holds.cursor_bounds consumerId).1
        lowJoined := by
          intro consumerId member
          have near : ¬ state.world.consumerSequence consumerId + transport.ring.size ≤
              state.world.producerSequence := fun round => behind ⟨consumerId, member, round⟩
          omega
        lowPublished := by omega
        lowKnown := by
          refine .inr (fun none => nonempty ?_)
          have found := List.Subset.trans (run_discovered reached) settled.discovered
          rw [none] at found
          exact known ▸ List.subset_nil.mp found }
    have launched := upheld.launch (Policy.producerProbe_safe rests (by omega))
    have probedUpheld := Contract.Upheld.run (fun _ _ _ _ holds restarted =>
      Policy.restart_safe servesConsumer holds restarted) launched (waiting_met _ _)
      (waiting_accepts _ _) probed
    exact Bool.false_ne_true (probedUpheld.guaranteed refused (by cases self <;> trivial))

end Ring
