/-
A consumer that attaches when the producer has already wrapped around.

Its cursor starts before the first event whatever is left of that event, and the
producer looks at no cursor that it does not know. Where no event is overwritten that
the consumer has still to consume, it reads what was published.
-/

import Myelon.Ring.Discovery

namespace Ring

open Interleaving Delivery

variable {transport : Transport}

/-! ### Runs in which no consumer counts -/

/-- Nothing is said about the consumers, whatever the directory passes do. -/
def Policy.unobserved (application : Application transport) (passes : DirectoryPasses) :
    Policy application where
  passes
  joins := fun _ => True
  creates := fun _ => True
  observed := fun _ => False
  gated := fun _ _ => False
  condition := fun _ _ _ => True
  permits := fun _ _ => True
  answers := fun _ _ _ => True
  grows := fun _more _mode gated => gated
  covers := fun gated _met => gated.elim
  readable := fun _met gated _creates => gated.elim
  mmap := fun _ gated => gated.elim
  harmless := fun _ _ _ _ => .inl (fun _ _ gated => gated.elim)
  admits := fun _met _present _observes gated => gated.elim

theorem Policy.unobserved_always {application : Application transport} {passes : DirectoryPasses}
    (party : Party) (self : Self) (action : Action application.interface)
    (world : World application.interface) :
    (Policy.unobserved application passes).contract.condition party self action world := by
  cases party with
  | producer => cases self <;> trivial
  | consumer consumerId => trivial

variable {Value : Type} {passes : DirectoryPasses}
variable {consumerCounters : ConsumerCounters} {slots : Nat → Value} {producer : Producer}
variable {attached joining : List ConsumerId}
variable {moves : List (Move Party (Oracle (plain Value)))}
variable {after : (plainApplication transport Value consumerCounters).State}

theorem start_unobserved (fresh : producer.Fresh transport)
    (known : producer.consumerBarrier.consumerCursors ⊆ attached) :
    (Policy.unobserved (plainApplication transport Value consumerCounters)
      passes).contract.Upheld
      ((plainApplication transport Value consumerCounters).start slots producer attached
        joining) :=
  Policy.start_upheld (Policy.plain_servesProducer (fun _ _ _ => trivial)
      (fun _ _ => trivial))
    (Policy.plain_servesConsumer (fun _ _ => trivial) (fun _ => trivial)) slots fresh
    (fun _ impossible => impossible.elim) known (fun _ _ => trivial)
    (fun _ _ _ => trivial)

/-! ### The events that one consumer has still to consume -/

/-- The producer writes no slot whose event the consumer has still to consume. Before
the consumer attaches its cursor counts as -1. -/
def Spares {interface : Interface} (transport : Transport) (consumerId : ConsumerId) :
    Party → Self → Action interface → World interface → Prop
  | .producer, _, .updateSlot sequence _ _, world =>
      sequence ≤ world.consumerSequence consumerId + transport.ring.size
  | _, _, _, _ => True

instance {interface : Interface} (transport : Transport) (consumerId : ConsumerId)
    (party : Party) (self : Self) (action : Action interface) (world : World interface) :
    Decidable (Spares transport consumerId party self action world) := by
  match party with
  | .consumer _ => exact .isTrue trivial
  | .producer =>
      apply Action.casesOn (motive := fun action =>
        Decidable (Spares transport consumerId .producer self action world)) action
      case updateSlot => exact fun sequence _ _ => (inferInstance : Decidable (sequence ≤ _))
      all_goals
        intros
        exact .isTrue trivial

/-- The producer is no more than a round ahead of the consumer, which has read what was
written. -/
structure Spared (transport : Transport) {interface : Interface} (consumerId : ConsumerId)
    (world : World interface) : Prop where
  room : (world.written.length : Int) ≤
    world.consumerSequence consumerId + 1 + transport.ring.size
  faithful : Faithful world.written (world.events consumerId)

theorem Spared.sameRing {interface : Interface} {consumerId : ConsumerId}
    {before after : World interface} (spared : Spared transport consumerId before)
    (same : before.SameRing after) : Spared transport consumerId after where
  room := by
    rw [same.written, same.consumerSequence]
    exact spared.room
  faithful := by
    rw [same.written, same.events]
    exact spared.faithful

theorem Spared.recorded {interface : Interface} {consumerId : ConsumerId}
    {world : World interface} (spared : Spared transport consumerId world)
    (reader : ConsumerId) (event : ConsumerEvent interface)
    (genuine : reader = consumerId → event.Genuine world.written) :
    Spared transport consumerId (world.record reader event) where
  room := spared.room
  faithful := by
    by_cases same : consumerId = reader
    · subst same
      simp only [World.record, Function.update_self]
      exact faithful_snoc.mpr ⟨spared.faithful, genuine rfl⟩
    · simp only [World.record, Function.update_of_ne same]
      exact spared.faithful

section Steps

variable {application : Application transport} {policy : Policy application}
variable {before after : World application.interface} {consumerId : ConsumerId}

theorem Spared.genuine (spared : Spared transport consumerId before)
    (holds : policy.Holds before) {reader : ConsumerId} {sequence : Int}
    (ahead : before.consumerSequence reader < sequence)
    (visible : sequence ≤ before.producerSequence) (same : reader = consumerId) :
    0 ≤ sequence ∧ before.written[sequence.toNat]? =
      some (before.slots (transport.ring.index sequence)) := by
  subst same
  exact holds.slot_of_room spared.room ahead visible

theorem Spared.producer_performed (spared : Spared transport consumerId before)
    {self : Self} {action : Action application.interface}
    {oracle : Oracle application.interface} {result : action.Result}
    (guaranteed : policy.producerGuarantee self before action)
    (spares : Spares transport consumerId .producer self action before)
    (performed : perform policy.passes action oracle before = some (result, after)) :
    Spared transport consumerId after := by
  by_cases quiet : action.quiet = true
  · exact spared.sameRing (perform_quiet quiet performed)
  · cases action
    case updateSlot sequence slot update =>
      obtain ⟨rfl, rfl, _room, _gated⟩ := guaranteed
      simp only [perform] at performed
      split at performed
      · cases performed
      · rename_i value _filled
        cases performed
        have free : (before.written.length : Int) ≤
            before.consumerSequence consumerId + transport.ring.size := spares
        constructor
        · simp only [List.length_append, List.length_singleton]
          omega
        · exact spared.faithful.append [value]
    case storeProducerSequence sequence =>
      cases performed
      exact ⟨spared.room, spared.faithful⟩
    case attachConsumerSequence other =>
      simp only [perform] at performed
      split at performed
      all_goals
        cases performed
        exact ⟨spared.room, spared.faithful⟩
    case reply reply =>
      cases performed
      exact ⟨spared.room, spared.faithful⟩
    all_goals first
      | exact absurd rfl quiet
      | exact absurd guaranteed Bool.false_ne_true

theorem Spared.consumer_performed (spared : Spared transport consumerId before)
    (holds : policy.Holds before) {other : ConsumerId} {self : Self}
    {action : Action application.interface} {oracle : Oracle application.interface}
    {result : action.Result}
    (guaranteed : policy.consumerGuarantee other self before action)
    (performed : perform policy.passes action oracle before = some (result, after)) :
    Spared transport consumerId after := by
  have committed := (holds.positions other).1
  by_cases quiet : action.quiet = true
  · exact spared.sameRing (perform_quiet quiet performed)
  · cases action
    case newOrAttachConsumerSequence attached =>
      simp only [perform] at performed
      split at performed
      all_goals
        cases performed
        exact ⟨spared.room, spared.faithful⟩
    case initialiseConsumerSequence attached =>
      cases performed
      exact ⟨spared.room, spared.faithful⟩
    case readSlot reader sequence slot =>
      obtain ⟨rfl, rfl, visible, next, _permits⟩ := guaranteed
      cases performed
      apply spared.recorded
      intro same
      have position := (holds.ordered reader).start_le.2
      exact spared.genuine holds (by omega) visible same
    case rereadSlot reader sequence slot =>
      obtain ⟨rfl, rfl, ahead, held, _permits⟩ := guaranteed
      cases performed
      apply spared.recorded
      intro same
      have behind := (holds.positions reader).2
      exact spared.genuine holds ahead (by omega) same
    case storeConsumerSequence writer sequence =>
      obtain ⟨rfl, _attached, _initialised, fits, _permits⟩ := guaranteed
      have further := fits.1
      cases performed
      have kept := spared.recorded writer (.commit sequence) (fun _ => trivial)
      refine ⟨?_, kept.faithful⟩
      have room := spared.room
      by_cases same : consumerId = writer
      · subst same
        simp only [Function.update_self]
        omega
      · simp only [Function.update_of_ne same]
        exact room
    case handOver reader output =>
      cases performed
      exact spared.recorded reader (.handOver output) (fun _ => trivial)
    all_goals first
      | exact absurd rfl quiet
      | exact absurd guaranteed Bool.false_ne_true

theorem Spared.run {kept : List (ConsumerEvent application.interface) → application.App → Prop}
    (servesConsumer : policy.ServesConsumer kept) {before after : application.State}
    {moves : List (Move Party (application.machine policy.passes).Oracle)}
    (upheld : policy.contract.Upheld before)
    (met : (application.machine policy.passes).Meets policy.contract.condition before moves)
    (accepted : (application.machine policy.passes).Accepts policy.contract.accepts before moves)
    (spares : (application.machine policy.passes).Meets (Spares transport consumerId) before
      moves) (ran : (application.machine policy.passes).run before moves = some after)
    (spared : Spared transport consumerId before.world) :
    Spared transport consumerId after.world := by
  refine Contract.Upheld.keeps (fun _ _ _ _ holds restarted =>
    Policy.restart_safe servesConsumer holds restarted) ?_ ?_ upheld met accepted spares ran
    spared
  · intro party self action oracle world result later held guaranteed spares performed kept
    cases party with
    | producer => exact kept.producer_performed guaranteed spares performed
    | consumer other => exact kept.consumer_performed held guaranteed performed
  · intro party world program later _held restarted kept
    cases party with
    | producer => cases restarted
    | consumer other =>
        simp only [Application.machine] at restarted
        split at restarted
        · cases restarted
          exact kept.recorded other .crash (fun _ => trivial)
        · cases restarted

theorem start_spared (application : Application transport)
    (slots : Nat → application.interface.Value) (producer : Producer)
    (attached joining : List ConsumerId) (consumerId : ConsumerId) :
    Spared transport consumerId
      (application.start slots producer attached joining).world := by
  constructor
  · have size := transport.ring.size_pos
    simp only [Application.start, World.initial, List.length_nil]
    omega
  · exact fun event member => absurd member List.not_mem_nil

end Steps

/-! ### Late joiners -/

/-- Where no slot is written whose event the consumer has still to consume, whenever it
attaches, it reads what was published, in order. -/
theorem late_joiner_reads (fresh : producer.Fresh transport)
    (known : producer.consumerBarrier.consumerCursors ⊆ attached)
    (reached : Reaches transport passes consumerCounters slots producer attached joining
      moves after) (consumerId : ConsumerId)
    (met : ((plainApplication transport Value consumerCounters).machine passes).Meets
      (Spares transport consumerId)
      ((plainApplication transport Value consumerCounters).start slots producer attached
        joining) moves) :
    Faithful after.world.written (after.world.events consumerId) ∧
    (Move.crash (.consumer consumerId) ∉ moves →
      reads (after.world.events consumerId) <+: numbered after.world.published) := by
  let policy := Policy.unobserved (plainApplication transport Value consumerCounters) passes
  have started : policy.contract.Upheld
      ((plainApplication transport Value consumerCounters).start slots producer attached
        joining) := start_unobserved fresh known
  have always : ∀ party self action world, policy.contract.condition party self action world :=
    Policy.unobserved_always
  have served : policy.ServesConsumer Policy.Anything :=
    Policy.plain_servesConsumer (fun _ _ => trivial) (fun _ => trivial)
  have accepted := policy.accepts_always (fun _ _ _ _ => trivial)
    ((plainApplication transport Value consumerCounters).start slots producer attached joining)
    moves
  have holds := (Contract.Upheld.run (fun _ _ _ _ holds restarted =>
    Policy.restart_safe served holds restarted) started (Machine.meets_always always _ _) accepted
    reached).invariant
  have spared : Spared transport consumerId after.world :=
    Spared.run served started (Machine.meets_always always _ _) accepted met reached
      (start_spared (plainApplication transport Value consumerCounters) slots producer attached
        joining consumerId)
  refine ⟨spared.faithful, fun uninterrupted => ?_⟩
  have visible := (holds.positions consumerId).2
  rw [reads_eq_take (holds.ordered consumerId) spared.faithful
    ((run_events reached consumerId).2 uninterrupted List.not_mem_nil), numbered_take]
  exact numbered_mono (List.take_prefix_take_left (by omega))

/-! ### A consumer that joins in time, and one that joins after the ring has wrapped -/

section Joining

def joinsInTime : List (Move Party (Oracle (plain Nat))) :=
  byProducer [.silent, .producerRequest (.publish fun _ => some 7), .silent, .silent, .silent,
    .silent] ++
  byConsumer "late" [.silent, .silent, .silent, .silent, .silent,
    .consumerRequest .tryConsumeNext, .silent, .silent]

/-- Three events are published into two slots before it attaches. -/
def joinsLate : List (Move Party (Oracle (plain Nat))) :=
  byProducer [.silent, .producerRequest (.publish fun _ => some 7), .silent, .silent, .silent,
    .silent] ++
  byProducer [.silent, .producerRequest (.publish fun _ => some 8), .silent, .silent, .silent,
    .silent] ++
  byProducer [.silent, .producerRequest (.publish fun _ => some 9), .silent, .order [],
    .silent, .silent, .silent, .silent] ++
  byConsumer "late" [.silent, .silent, .silent, .silent, .silent,
    .consumerRequest .tryConsumeNext, .silent, .silent]

theorem late_joiner_reads_inTime : ∃ after,
    Reaches twoSlots .mayFail noCounters (fun _ => (0 : Nat)) undiscovering [] ["late"]
      joinsInTime after ∧
    reads (after.world.events "late") = [(0, 7)] ∧
    Faithful after.world.written (after.world.events "late") := by
  have found : (undiscoveringMachine.run undiscoveringStart joinsInTime).any
      (fun after => decide (reads (after.world.events "late") = [(0, 7)])) = true := by
    decide +kernel
  have checked : undiscoveringMachine.checks (Spares twoSlots "late") undiscoveringStart
      joinsInTime = true := by
    decide +kernel
  obtain ⟨after, reached, read⟩ := (Option.any_eq_true _ _).mp found
  exact ⟨after, reached, of_decide_eq_true read,
    (late_joiner_reads ⟨rfl, rfl⟩ (List.Subset.refl _) reached "late"
      (Machine.meets_of_checks checked)).1⟩

/-- The first value it delivers is the third that was published. -/
theorem late_joiner_misled :
    ∃ after : (plainApplication twoSlots Nat noCounters).State,
      undiscoveringMachine.run undiscoveringStart joinsLate = some after ∧
      reads (after.world.events "late") = [(0, 9)] ∧ after.world.published = [7, 8, 9] := by
  have found : (undiscoveringMachine.run undiscoveringStart joinsLate).any
      (fun after => decide (reads (after.world.events "late") = [(0, 9)]) &&
        decide (after.world.published = [7, 8, 9])) = true := by
    decide +kernel
  obtain ⟨after, reached, both⟩ := (Option.any_eq_true _ _).mp found
  obtain ⟨read, published⟩ := Bool.and_eq_true_iff.mp both
  exact ⟨after, reached, of_decide_eq_true read, of_decide_eq_true published⟩

end Joining

end Ring
