/-
The plain application keeps every contract that leaves its answers free.

Its producer and its consumers pass each request on to one operation of the
transport, so what they keep is what the operations keep.
-/

import Myelon.Ring.Runs

namespace Ring

open Interleaving Delivery

variable {transport : Transport} {application : Application transport}

namespace Policy

variable {policy : Policy application}

/-! ### Requests to a producer whose replies are free -/

variable {written : List application.interface.Value}
variable {replies : List (Nat × application.interface.ProducerReply)}

variable (free : ∀ written replies reply, policy.answers written replies reply)
variable (rested : ∀ written replies, policy.rested written replies)

include free rested

theorem replied_resting {producer : Producer} {world : World application.interface}
    (reply : application.interface.ProducerReply)
    (resting : policy.Resting written replies (-1) producer world) :
    policy.Replied written replies reply producer world :=
  ⟨[], by rw [List.append_nil]; exact resting, free _ _ _, rested _ _⟩

theorem replied_extended {producer : Producer} {world : World application.interface}
    {updateFn : Nat → application.interface.Value → Option application.interface.Value} {n : Nat}
    (reply : application.interface.ProducerReply)
    (extended : policy.Extended written replies (-1) updateFn n producer world) :
    policy.Replied written replies reply producer world := by
  obtain ⟨values, _filled, resting⟩ := extended
  exact ⟨values, resting, free _ _ _, rested _ _⟩

theorem replied_map {α : Type} {reply : α → application.interface.ProducerReply}
    {routine : ProducerProcess application.interface α}
    (triple : policy.ProducerTriple (policy.Resting written replies (-1)) routine
      (fun _ => policy.Resting written replies (-1))) :
    policy.ProducerTriple (policy.Resting written replies (-1)) (reply <$> routine)
      (policy.Replied written replies) :=
  Contract.Triple.map (triple.weaken (fun result _ _ held =>
    replied_resting free rested (reply result) held))

theorem replied_result {ε α : Type} {reply : Except ε α → application.interface.ProducerReply}
    {routine : ProducerProcess application.interface (Except ε α)}
    {post : Except ε α → Producer → World application.interface → Prop}
    {updateFn : Nat → application.interface.Value → Option application.interface.Value} {n : Nat}
    (triple : policy.ProducerTriple (policy.Resting written replies (-1)) routine post)
    (failed : ∀ error producer world, post (.error error) producer world →
      policy.Resting written replies (-1) producer world)
    (succeeded : ∀ value producer world, post (.ok value) producer world →
      policy.Extended written replies (-1) updateFn n producer world) :
    policy.ProducerTriple (policy.Resting written replies (-1)) (reply <$> routine)
      (policy.Replied written replies) := by
  refine Contract.Triple.map (triple.weaken ?_)
  intro result producer world held
  cases result with
  | error error => exact replied_resting free rested _ (failed error producer world held)
  | ok value => exact replied_extended free rested _ (succeeded value producer world held)

omit free rested

/-! ### The plain producer -/

variable {Value Output App : Type} {fresh : App} {consumerCounters : ConsumerCounters}
variable {serveConsumer : ConsumerRequest → ConsumerProcess (handing Value Output) App Output}

theorem plain_servesProducer
    {policy : Policy (passingOn transport fresh serveConsumer consumerCounters)}
    (free : ∀ written replies reply, policy.answers written replies reply)
    (rested : ∀ written replies, policy.rested written replies) : policy.ServesProducer := by
  intro request written replies _
  cases request with
  | tryPublish update =>
      exact replied_result free rested tryPublish_triple (fun _ _ _ held => held.1)
        (fun _ _ _ held => held.2)
  | publish update =>
      refine Contract.Triple.bind publish_triple (fun _ => ?_)
      exact Contract.Triple.pure _ (fun _ _ held => replied_extended free rested _ held)
  | tryBatchPublish n updateFn =>
      exact replied_result free rested (tryBatchPublish_triple n) (fun _ _ _ held => held.1)
        (fun _ _ _ held => held)
  | publishWithTimeout timeout update =>
      change policy.ProducerTriple _
        (serveProducer transport (.publishWithTimeout timeout update)) _
      simp only [serveProducer]
      split
      · exact replied_result free rested (publishWithTimeout_triple timeout)
          (fun _ _ _ held => held) (fun _ _ _ held => held)
      · exact Contract.Triple.pure _ (fun _ _ held => replied_resting free rested _ held)
  | publishManaged update =>
      exact replied_result free rested publishManaged_triple (fun _ _ _ held => held)
        (fun _ _ _ held => held)
  | publishBatchManaged n updateFn =>
      exact replied_result free rested (publishBatchManaged_triple n) (fun _ _ _ held => held)
        (fun _ _ _ held => held)
  | lastPublishedSequence => exact replied_map free rested lastPublishedSequence_triple
  | minGatingSequence =>
      exact replied_map free rested (gatingSequence_triple.weaken (fun _ _ _ held => held.1))
  | isConsumed sequence => exact replied_map free rested (isConsumed_triple sequence)
  | waitUntilConsumedWithStrategy sequence timeout =>
      exact replied_map free rested (waitUntilConsumed_triple sequence timeout)
  | discoverConsumerId consumerId =>
      exact replied_map free rested ((discoverConsumerId_triple consumerId).weaken
        (fun _ _ _ held => held.1))
  | waitForConsumerId consumerId timeout =>
      exact replied_map free rested (waitForConsumerId_triple consumerId timeout)
  | consumerSequence consumerId =>
      exact replied_map free rested (consumerSequence_triple consumerId)
  | getConsumerCount => exact replied_map free rested bestEffortConsumerCount_triple

/-! ### The plain consumers -/

def Anything (_log : List (ConsumerEvent application.interface)) (_app : application.App) :
    Prop := True

variable {consumerId : ConsumerId} (allowed : ∀ log event, policy.permits log event)

include allowed

theorem hold_processes :
    policy.Processes consumerId Anything (fun event _ => Consumer.hold event) where
  reads := fun _ _ _ _ _ => allowed _ _
  processed := by
    intro log app visible event _endOfBatch _keeps ahead placed
    have moved : position (log ++ [.read event.sequence event.value]) =
        ⟨(position log).committed, event.sequence + 1⟩ := position_snoc _ _
    refine (hold_triple (fun _ => True) event placed ?_ ?_
      (fun _ _ _ => ⟨allowed _ _, trivial⟩) trivial).weaken ?_
    · rw [moved]
      exact ahead
    · rw [moved]
      exact Int.lt_succ _
    · rintro _ self world ⟨used, ⟨_, same⟩, standing⟩
      exact ⟨used, app, trivial, same.trans moved, standing⟩
  commits := fun _ _ _ _ _ => ⟨allowed _ _, trivial⟩

omit allowed in
theorem rested_triple {α : Type} {kept : List (ConsumerEvent application.interface) →
      application.App → Prop}
    {routine : ConsumerProcess application.interface application.App α}
    {post : α → Consumer × application.App → World application.interface → Prop}
    (triple : ∀ log app visible, kept log app → (position log).Idle →
      policy.ConsumerTriple consumerId (policy.Standing consumerId log app visible)
        routine post) :
    policy.ConsumerTriple consumerId (policy.Rested consumerId kept) routine post := by
  refine Contract.Triple.exists (fun log => Contract.Triple.exists (fun app =>
    Contract.Triple.exists (fun visible => ?_)))
  refine Contract.Triple.given (kept log app ∧ (position log).Idle)
    (fun _ _ held => ⟨held.1, held.2.1⟩) (fun facts => ?_)
  exact (triple log app visible facts.1 facts.2).strengthen (fun _ _ held => held.2.2)

omit allowed in
theorem idle_committed (log : List (ConsumerEvent application.interface)) (sequence : Int)
    (read : (position log).next = sequence + 1) :
    (position (log ++ [.commit sequence])).Idle := by
  rw [position_snoc]
  exact read

omit allowed in
theorem idle_consumed (log : List (ConsumerEvent application.interface)) (sequence : Int)
    (value : application.interface.Value) :
    (position (log ++ [.read sequence value] ++ [.commit sequence])).Idle :=
  idle_committed _ sequence (by rw [position_snoc]; rfl)

theorem holdLease_triple {log : List (ConsumerEvent application.interface)}
    {app : application.App} {sequence : Int} {event : EventRef application.interface}
    (next : sequence = (position log).committed + 1) (same : event.sequence = sequence)
    (placed : event.slot = transport.ring.index sequence) :
    policy.ConsumerTriple consumerId
      (policy.Standing consumerId (log ++ [.read sequence event.value]) app sequence)
      (Consumer.hold event >>= fun _ => pure event.sequence)
      (policy.Used consumerId log sequence (fun _ _ _ => True)) := by
  subst same
  have moved : position (log ++ [.read event.sequence event.value]) =
      ⟨(position log).committed, event.sequence + 1⟩ := position_snoc _ _
  refine Contract.Triple.bind (hold_triple (fun _ => True) event placed ?_ ?_
    (fun _ _ _ => ⟨allowed _ _, trivial⟩) trivial) (fun _ => ?_)
  · rw [moved]
    change (position log).committed < event.sequence
    omega
  · rw [moved]
    exact Int.lt_succ _
  · refine Contract.Triple.pure _ ?_
    rintro self world ⟨used, ⟨_, same⟩, standing⟩
    exact ⟨used, app, standing, same.trans moved, allowed _ _, trivial⟩

omit allowed in
theorem rested_standing {log : List (ConsumerEvent application.interface)}
    {app : application.App} {visible : Int} {self : Consumer × application.App}
    {world : World application.interface} (idle : (position log).Idle)
    (standing : policy.Standing consumerId log app visible self world) :
    policy.Rested consumerId Anything self world :=
  ⟨log, app, visible, trivial, idle, standing⟩

omit allowed in
theorem rested_givenBack {α : Type} {sequence : Int} {result : α}
    {self : Consumer × application.App} {world : World application.interface}
    {outcome : α → List (ConsumerEvent application.interface) → application.App → Prop}
    (given : policy.GivenBack consumerId sequence outcome result self world) :
    policy.Rested consumerId Anything self world := by
  obtain ⟨used, app, standing, read, _done⟩ := given
  exact rested_standing (idle_committed used sequence read) standing

end Policy

theorem Policy.plain_servesConsumer {Value : Type} {consumerCounters : ConsumerCounters}
    {policy : Policy (plainApplication transport Value consumerCounters)}
    (allowed : ∀ log event, policy.permits log event)
    (returned : ∀ log, policy.returned log) : policy.ServesConsumer Policy.Anything := by
  refine ⟨fun _ _ _ => trivial, fun log _ _ => returned log, fun consumerId request => ?_⟩
  have rests : ∀ {α : Type} {output : α → ConsumerOutput Value}
      {routine : ConsumerProcess (plain Value) Unit α},
      policy.ConsumerTriple consumerId (policy.Rested consumerId Policy.Anything) routine
        (fun _ => policy.Rested consumerId Policy.Anything) →
      policy.ConsumerTriple consumerId (policy.Rested consumerId Policy.Anything)
        (output <$> routine) (fun output => policy.Rested consumerId (fun log app =>
          policy.permits log (.handOver output) ∧
            Policy.Anything (log ++ [.handOver output]) app)) := by
    intro α output routine triple
    refine Contract.Triple.map (triple.weaken ?_)
    rintro result self world ⟨log, app, visible, _, idle, standing⟩
    exact ⟨log, app, visible, ⟨allowed _ _, trivial⟩, idle, standing⟩
  have unavailable : policy.ConsumerTriple consumerId
      (policy.Rested consumerId Policy.Anything)
      (pure ConsumerOutput.unavailable : ConsumerProcess (plain Value) Unit _)
      (fun output => policy.Rested consumerId (fun log app =>
        policy.permits log (.handOver output) ∧
          Policy.Anything (log ++ [.handOver output]) app)) := by
    refine Contract.Triple.pure _ ?_
    rintro self world ⟨log, app, visible, _, idle, standing⟩
    exact ⟨log, app, visible, ⟨allowed _ _, trivial⟩, idle, standing⟩
  cases request with
  | tryConsumeNext =>
      refine rests (Policy.rested_triple (fun log app visible _ idle => ?_))
      refine (Policy.tryConsumeNext_triple idle (fun _ _ => allowed _ _)
        (fun _ _ => allowed _ _)).weaken ?_
      intro consumed self world held
      match consumed with
      | none => exact Policy.rested_standing idle held.1
      | some (sequence, value) =>
          exact Policy.rested_standing (Policy.idle_consumed log sequence value) held.2
  | tryConsumeNextLeased =>
      refine rests (Policy.rested_triple (fun log app visible _ idle => ?_))
      refine (Policy.tryConsumeNextLeased_triple idle (fun _ _ => allowed _ _)
        (fun sequence event => Policy.holdLease_triple allowed)).weaken ?_
      intro leased self world held
      match leased with
      | none => exact Policy.rested_standing idle held.1
      | some result => exact Policy.rested_givenBack held
  | consumeNext =>
      refine rests (Policy.rested_triple (fun log app visible _ idle => ?_))
      refine (Policy.consumeNext_triple idle (fun _ _ => allowed _ _)
        (fun _ _ => allowed _ _)).weaken ?_
      intro event self world held
      exact Policy.rested_standing (Policy.idle_consumed log event.1 event.2) held.2
  | consumeNextLeased =>
      refine rests (Policy.rested_triple (fun log app visible _ idle => ?_))
      exact (Policy.consumeNextLeased_triple idle (fun _ _ => allowed _ _)
        (fun sequence event => Policy.holdLease_triple allowed)).weaken
        (fun _ _ _ held => Policy.rested_givenBack held)
  | processNextBlocking =>
      change policy.ConsumerTriple consumerId _
        (serveConsumer transport .processNextBlocking) _
      simp only [serveConsumer]
      split
      · refine rests (Policy.rested_triple (fun log app visible _ idle => ?_))
        refine (Policy.processNextBlocking_triple idle (fun _ _ => allowed _ _)
          (fun _ _ => allowed _ _) (fun _ _ _ _ => Contract.Triple.pure ()
            (fun _ _ held => held))).weaken ?_
        rintro result self world ⟨value, _next, standing⟩
        exact Policy.rested_standing (Policy.idle_consumed log result.1 value) standing
      · exact unavailable
  | processAvailable =>
      exact rests (Policy.processAvailable_triple (Policy.hold_processes allowed))
  | processAvailableBlocking =>
      change policy.ConsumerTriple consumerId _
        (serveConsumer transport .processAvailableBlocking) _
      simp only [serveConsumer]
      split
      · exact rests (Policy.processAvailableBlocking_triple (Policy.hold_processes allowed))
      · exact unavailable

end Ring
