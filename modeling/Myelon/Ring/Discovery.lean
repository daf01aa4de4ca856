/-
Consumers that the producer discovers while it runs.

A barrier gates the producer only with the consumers it has found by then, and the
clearance that was computed before a discovery stays in force after it. Both are
safe under a condition on the moment: that a clearance is computed from no
consumer or from all that were declared, and that a consumer is found when the
clearance does not reach beyond it.
-/

import Myelon.Ring.Known

namespace Ring

open Interleaving Delivery

variable {transport : Transport} {Value : Type} {passes : DirectoryPasses}
variable {consumerCounters : ConsumerCounters} {slots : Nat → Value} {producer : Producer}
variable {attached joining : List ConsumerId}
variable {moves more : List (Move Party (Oracle (plain Value)))}
variable {middle after : (plainApplication transport Value consumerCounters).State}

/-! ### A declared number of consumers -/

/-- The cursors of the barrier are read while it knows no consumer, or all of them, and none of
them before it has its initial value. -/
def FoundAllOrNone {interface : Interface} (consumerIds : List ConsumerId) :
    Party → Self → Action interface → World interface → Prop
  | .producer, _, .iterate keys, _ => keys = [] ∨ consumerIds ⊆ keys
  | .producer, _, .loadConsumerSequence consumerId, world => consumerId ∉ world.uninitialised
  | _, _, _, _ => True

instance {interface : Interface} (consumerIds : List ConsumerId) (party : Party) (self : Self)
    (action : Action interface) (world : World interface) :
    Decidable (FoundAllOrNone consumerIds party self action world) := by
  unfold FoundAllOrNone
  split <;> infer_instance

/-- The declared consumers count, also while the barrier does not know them. -/
def Policy.declared (application : Application transport) (passes : DirectoryPasses)
    (sharedMemory : transport.backend = .sharedMemory) (consumerIds : List ConsumerId) :
    Policy application where
  passes
  joins := fun _ => True
  creates := fun _ => True
  observed := fun consumerId => consumerId ∈ consumerIds
  gated := fun barrier consumerId =>
    consumerId ∈ consumerIds ∧ barrier.discoveryMode ≠ .disabled
  condition := fun producer action world =>
    FoundAllOrNone consumerIds .producer (.producer producer) action world
  permits := fun _ _ => True
  answers := fun _ _ _ => True
  grows := fun _more mode gated => ⟨gated.1, mode ▸ gated.2⟩
  covers := fun gated met => met.elim (fun none => .inr ⟨none, gated.2⟩)
    (fun all => .inl (all gated.1))
  readable := fun met _gated _creates => met
  mmap := fun mmap _ => absurd (sharedMemory.symm.trans mmap) (by decide)
  harmless := fun mmap => absurd (sharedMemory.symm.trans mmap) (by decide)
  admits := fun _met _present _observes gated => .inl gated

/-- No declared consumer loses an event where every clearance was computed from
none of them or from all. -/
theorem declared_consumers_lose_nothing (sharedMemory : transport.backend = .sharedMemory)
    {maxConsumers scanInterval : Nat} {consumerPrefix : Option String}
    (mode : producer.consumerBarrier.discoveryMode =
      .enabled maxConsumers consumerPrefix scanInterval)
    (fresh : producer.Fresh transport)
    (known : producer.consumerBarrier.consumerCursors ⊆ attached)
    (consumerIds : List ConsumerId)
    (met : ((plainApplication transport Value consumerCounters).machine passes).Meets
      (FoundAllOrNone consumerIds)
      ((plainApplication transport Value consumerCounters).start slots producer attached
        joining) moves)
    (reached : Reaches transport passes consumerCounters slots producer attached joining
      moves after) {consumerId : ConsumerId} (declared : consumerId ∈ consumerIds)
    (uninterrupted : Move.crash (.consumer consumerId) ∉ moves) :
    reads (after.world.events consumerId) <+: numbered after.world.published ∧
    ∀ self sequence slot update,
      after.AboutTo .producer self (.updateSlot sequence slot update) →
      slot = transport.ring.index sequence ∧
        sequence - transport.ring.size ≤ after.world.consumerSequence consumerId := by
  let policy := Policy.declared (plainApplication transport Value consumerCounters) passes
    sharedMemory consumerIds
  have upheld : policy.contract.Upheld after := by
    refine Policy.run_upheld (Policy.plain_servesProducer (fun _ _ _ => trivial)
      (fun _ _ => trivial))
      (Policy.plain_servesConsumer (fun _ _ => trivial) (fun _ => trivial)) slots fresh
      (fun other member => ⟨member, by rw [mode]; nofun⟩) known (fun _ _ => trivial)
      (fun _ _ _ => trivial) ?_
      (Policy.accepts_always _ (fun _ _ _ _ => trivial) _ _) reached
    refine met.imp ?_
    intro party self action world held
    cases party with
    | producer => cases self <;> first | exact held | trivial
    | consumer other => trivial
  have holds := upheld.invariant
  refine ⟨?_, ?_⟩
  · exact reads_published holds declared
      ((run_events reached consumerId).2 uninterrupted List.not_mem_nil)
  · intro self sequence slot update about
    obtain ⟨_last, placed, room, _producer⟩ := upheld.guaranteed about (by cases self <;> trivial)
    have free := room consumerId declared
    exact ⟨placed, by omega⟩

/-! ### A run that reads, and one that loses an event -/

section Overrun

def discovering : Producer :=
  Producer.new oneSlot
    { consumerCursors := []
      lastScan := 0
      discoveryMode := .enabled 2 (some "cp") 1000
      discoveryCompleted := false }
    { eventsPublished := false, producerFullEvents := false }

abbrev discoveringStart : (plainApplication oneSlot Nat noCounters).State :=
  (plainApplication oneSlot Nat noCounters).start (fun _ => (0 : Nat)) discovering []
    ["cp_0", "cp_1"]

abbrev discoveringMachine := (plainApplication oneSlot Nat noCounters).machine .mayFail

def bothRead : List (Move Party (Oracle (plain Nat))) :=
  byConsumer "cp_0" [.silent, .silent, .silent, .silent] ++
  byConsumer "cp_1" [.silent, .silent, .silent, .silent] ++
  byProducer [.silent, .producerRequest .getConsumerCount, .elapsed 1, .silent, .silent,
    .silent] ++
  byProducer [.silent, .producerRequest (.publish fun _ => some 7), .silent, .silent, .silent,
    .silent] ++
  byConsumer "cp_0" [.silent, .consumerRequest .tryConsumeNext, .silent, .silent, .silent] ++
  byConsumer "cp_1" [.silent, .consumerRequest .tryConsumeNext, .silent, .silent, .silent] ++
  byProducer [.silent, .producerRequest (.publish fun _ => some 8), .silent,
    .order ["cp_0", "cp_1"], .silent, .silent]

theorem declared_consumers_read : ∃ after,
    Reaches oneSlot .mayFail noCounters (fun _ => (0 : Nat)) discovering []
      ["cp_0", "cp_1"] bothRead after ∧
    reads (after.world.events "cp_1") = [(0, 7)] ∧
    reads (after.world.events "cp_1") <+: numbered after.world.published := by
  have found : (discoveringMachine.run discoveringStart bothRead).any
      (fun after => decide (reads (after.world.events "cp_1") = [(0, 7)])) = true := by
    decide +kernel
  have checked : discoveringMachine.checks (FoundAllOrNone ["cp_0", "cp_1"])
      discoveringStart bothRead = true := by
    decide +kernel
  obtain ⟨after, reached, read⟩ := (Option.any_eq_true _ _).mp found
  refine ⟨after, reached, of_decide_eq_true read, ?_⟩
  exact (declared_consumers_lose_nothing rfl rfl ⟨rfl, rfl⟩ (List.Subset.refl _)
    ["cp_0", "cp_1"] (Machine.meets_of_checks checked) reached (by decide) (by simp [bothRead])).1

def bothAttach : List (Move Party (Oracle (plain Nat))) :=
  byConsumer "cp_0" [.silent, .silent, .silent, .silent] ++
  byProducer [.silent, .producerRequest .getConsumerCount, .elapsed 1, .silent, .silent,
    .silent] ++
  byConsumer "cp_1" [.silent, .silent, .silent, .silent]

def secondPublished : List (Move Party (Oracle (plain Nat))) :=
  byProducer [.silent, .producerRequest (.publish fun _ => some 7), .silent, .silent, .silent,
    .silent] ++
  byConsumer "cp_0" [.silent, .consumerRequest .tryConsumeNext, .silent, .silent, .silent,
    .silent] ++
  byProducer [.silent, .producerRequest (.publish fun _ => some 8), .silent, .elapsed 1,
    .order ["cp_0"], .silent]

def bothWait (state : (plainApplication oneSlot Nat noCounters).State) : Bool :=
  decide (state.world.consumers = ["cp_1", "cp_0"]) &&
    decide (state.world.producerSequence = -1)

/-- The slot of the first event is about to be written again, with an event that one
of the consumers has not consumed in it. -/
def overwrites (state : (plainApplication oneSlot Nat noCounters).State) : Bool :=
  match state.program .producer with
  | .act _ (.updateSlot sequence slot _) _ =>
      decide (sequence = 1) && decide (slot = oneSlot.ring.index 0) &&
        decide (state.world.consumerSequence "cp_1" = -1)
  | _ => false

/-- The scan interval hides a declared consumer, and its first event is overwritten. -/
theorem declared_consumer_overrun :
    ∃ (middle after : (plainApplication oneSlot Nat noCounters).State),
      discoveringMachine.run discoveringStart bothAttach = some middle ∧
      discoveringMachine.run middle secondPublished = some after ∧
      (SharedConsumerBarrier.prefixedNames "cp" 2 = ["cp_0", "cp_1"] ∧
        middle.world.consumers = ["cp_1", "cp_0"] ∧ middle.world.producerSequence = -1) ∧
      ∃ self update, after.AboutTo .producer self
        (.updateSlot (0 + oneSlot.ring.size) (oneSlot.ring.index 0) update) ∧
        after.world.consumerSequence "cp_1" < 0 := by
  have found : ((discoveringMachine.run discoveringStart bothAttach).any fun middle =>
      bothWait middle &&
        (discoveringMachine.run middle secondPublished).any overwrites) = true := by
    decide +kernel
  obtain ⟨middle, reached, both⟩ := (Option.any_eq_true _ _).mp found
  obtain ⟨wait, rest⟩ := (Bool.and_eq_true_iff).mp both
  obtain ⟨after, further, lost⟩ := (Option.any_eq_true _ _).mp rest
  refine ⟨middle, after, reached, further, ?_, ?_⟩
  · refine ⟨by decide, ?_⟩
    simpa only [bothWait, Bool.and_eq_true, decide_eq_true_eq] using wait
  · unfold overwrites at lost
    split at lost
    · rename_i self sequence slot update next placed
      simp only [Bool.and_eq_true, decide_eq_true_eq] at lost
      obtain ⟨⟨rfl, rfl⟩, behind⟩ := lost
      exact ⟨self, update, ⟨next, placed⟩, by rw [behind]; decide⟩
    · cases lost

end Overrun

/-! ### A consumer that joins the gate -/

/-- A consumer is found while the clearance is used up, or does not reach beyond it, and its
cursor is not read before it has its initial value. -/
def FoundInTime {interface : Interface} (transport : Transport) :
    Party → Self → Action interface → World interface → Prop
  | .producer, .producer producer, .attachConsumerSequence consumerId, world =>
      consumerId ∈ world.consumers →
        Cleared transport producer (world.consumerSequence consumerId)
  | .producer, _, .loadConsumerSequence consumerId, world => consumerId ∉ world.uninitialised
  | _, _, _, _ => True

instance (transport : Transport) (producer : Producer) (sequence : Int) :
    Decidable (Cleared transport producer sequence) :=
  inferInstanceAs (Decidable (_ < _ ∨ _ ≤ _))

instance {interface : Interface} (transport : Transport) (party : Party) (self : Self)
    (action : Action interface) (world : World interface) :
    Decidable (FoundInTime transport party self action world) := by
  unfold FoundInTime
  split <;> infer_instance

/-- Whoever is in the barrier gates the producer. -/
def Policy.joinable (application : Application transport) (passes : DirectoryPasses)
    (reliable : transport.backend = .mmap → passes = .reliable) : Policy application where
  passes
  joins := fun _ => True
  creates := fun _ => True
  observed := fun _ => False
  gated := fun barrier consumerId => consumerId ∈ barrier.consumerCursors
  condition := fun producer action world =>
    FoundInTime transport .producer (.producer producer) action world
  permits := fun _ _ => True
  answers := fun _ _ _ => True
  grows := fun more _mode gated => more gated
  covers := fun gated _met => .inl gated
  readable := fun met _gated _creates => met
  mmap := fun _backend gated => gated
  harmless := fun backend allowed _accepted failing =>
    absurd failing (allowed.succeeds (reliable backend))
  admits := fun met present _observes gated => by
    rcases List.mem_cons.mp gated with rfl | earlier
    · exact .inr (met present)
    · exact .inl earlier

/-- Where every consumer was found in time, no event that a found consumer has still
to consume is ever overwritten. -/
theorem joined_consumers_gate (reliable : transport.backend = .mmap → passes = .reliable)
    (fresh : producer.Fresh transport)
    (known : producer.consumerBarrier.consumerCursors ⊆ attached)
    (reached : Reaches transport passes consumerCounters slots producer attached joining
      moves middle)
    (further : ((plainApplication transport Value consumerCounters).machine passes).run middle
      more = some after)
    (met : ((plainApplication transport Value consumerCounters).machine passes).Meets
      (FoundInTime transport)
      ((plainApplication transport Value consumerCounters).start slots producer attached
        joining) (moves ++ more))
    {consumerId : ConsumerId} (found : consumerId ∈ middle.world.discovered)
    {self : Self} {sequence : Int} {slot : Nat} {update : Value → Option Value}
    (about : after.AboutTo .producer self (.updateSlot sequence slot update)) :
    slot = transport.ring.index sequence ∧
      sequence - transport.ring.size ≤ after.world.consumerSequence consumerId := by
  let policy := Policy.joinable (plainApplication transport Value consumerCounters) passes
    reliable
  have upheld : policy.contract.Upheld after := by
    refine Policy.run_upheld (Policy.plain_servesProducer (fun _ _ _ => trivial)
      (fun _ _ => trivial))
      (Policy.plain_servesConsumer (fun _ _ => trivial) (fun _ => trivial)) slots fresh
      (fun _ impossible => impossible.elim) known (fun _ _ => trivial) (fun _ _ _ => trivial) ?_
      (Policy.accepts_always _ (fun _ _ _ _ => trivial) _ _) (Machine.run_through reached further)
    refine met.imp ?_
    intro party self action world held
    cases party with
    | producer => cases self <;> first | exact held | trivial
    | consumer other => trivial
  obtain ⟨_last, placed, _room, owner, _same, discovered, free⟩ :=
    upheld.guaranteed about (by cases self <;> trivial)
  have room := free consumerId (discovered (run_discovered further found))
  exact ⟨placed, by omega⟩

/-! ### A consumer that joins too late to gate -/

section Overtaken

def twoSlots : Transport :=
  { backend := .sharedMemory, ring := ⟨2, rfl, by decide⟩, processId := 0 }

def undiscovering : Producer :=
  Producer.new twoSlots
    { consumerCursors := []
      lastScan := 0
      discoveryMode := .disabled
      discoveryCompleted := false }
    { eventsPublished := false, producerFullEvents := false }

def lateDiscovered : List (Move Party (Oracle (plain Nat))) :=
  byProducer [.silent, .producerRequest (.publish fun _ => some 7), .silent, .silent, .silent,
    .silent] ++
  byProducer [.silent, .producerRequest (.publish fun _ => some 8), .silent, .silent, .silent,
    .silent] ++
  byProducer [.silent, .producerRequest (.publish fun _ => some 9), .silent, .order [],
    .silent, .silent, .silent, .silent] ++
  byConsumer "late" [.silent, .silent, .silent, .silent] ++
  byProducer [.silent, .producerRequest (.discoverConsumerId "late"), .silent, .silent]

def oneMore : List (Move Party (Oracle (plain Nat))) :=
  byProducer [.silent, .producerRequest (.publish fun _ => some 10), .silent]

abbrev undiscoveringStart : (plainApplication twoSlots Nat noCounters).State :=
  (plainApplication twoSlots Nat noCounters).start (fun _ => (0 : Nat)) undiscovering []
    ["late"]

abbrev undiscoveringMachine := (plainApplication twoSlots Nat noCounters).machine .mayFail

/-- The consumer is found while its next event but one is still in its slot. -/
def foundLate (state : (plainApplication twoSlots Nat noCounters).State) : Bool :=
  decide ("late" ∈ state.world.discovered) && decide (state.world.written = [7, 8, 9]) &&
    decide (state.world.slots (twoSlots.ring.index 1) = 8)

def overtakes (state : (plainApplication twoSlots Nat noCounters).State) : Bool :=
  match state.program .producer with
  | .act _ (.updateSlot sequence slot _) _ =>
      decide (sequence = 3) && decide (slot = twoSlots.ring.index 1) &&
        decide (state.world.consumerSequence "late" = -1)
  | _ => false

def earlyDiscovered : List (Move Party (Oracle (plain Nat))) :=
  byConsumer "late" [.silent, .silent, .silent, .silent] ++
  byProducer [.silent, .producerRequest (.discoverConsumerId "late"), .silent, .silent]

def twoPublished : List (Move Party (Oracle (plain Nat))) :=
  byProducer [.silent, .producerRequest (.publish fun _ => some 7), .silent, .silent, .silent,
    .silent] ++
  byProducer [.silent, .producerRequest (.publish fun _ => some 8), .silent]

theorem joined_consumer_gates : ∃ middle after,
    Reaches twoSlots .mayFail noCounters (fun _ => (0 : Nat)) undiscovering [] ["late"]
      earlyDiscovered middle ∧
    undiscoveringMachine.run middle twoPublished = some after ∧
    ∃ self update, after.AboutTo .producer self
        (.updateSlot 1 (twoSlots.ring.index 1) update) ∧
      1 - twoSlots.ring.size ≤ after.world.consumerSequence "late" := by
  have found : ((undiscoveringMachine.run undiscoveringStart earlyDiscovered).any
      fun middle => decide ("late" ∈ middle.world.discovered) &&
        (undiscoveringMachine.run middle twoPublished).any fun after =>
          match after.program .producer with
          | .act _ (.updateSlot sequence slot _) _ =>
              decide (sequence = 1) && decide (slot = twoSlots.ring.index 1)
          | _ => false) = true := by
    decide +kernel
  have checked : undiscoveringMachine.checks (FoundInTime twoSlots) undiscoveringStart
      (earlyDiscovered ++ twoPublished) = true := by
    decide +kernel
  obtain ⟨middle, reached, both⟩ := (Option.any_eq_true _ _).mp found
  obtain ⟨known, rest⟩ := (Bool.and_eq_true_iff).mp both
  obtain ⟨after, further, writes⟩ := (Option.any_eq_true _ _).mp rest
  refine ⟨middle, after, reached, further, ?_⟩
  split at writes
  · rename_i self sequence slot update next placed
    simp only [Bool.and_eq_true, decide_eq_true_eq] at writes
    obtain ⟨rfl, rfl⟩ := writes
    exact ⟨self, update, ⟨next, placed⟩,
      (joined_consumers_gate (fun mmap => absurd mmap (by decide)) ⟨rfl, rfl⟩
        (List.Subset.refl _) reached further (Machine.meets_of_checks checked)
        (of_decide_eq_true known)
        ⟨next, placed⟩).2⟩
  · cases writes

/-- The clearance from the time without a consumer lets the producer overwrite an
event that was in its slot when the consumer was discovered. -/
theorem joined_consumer_overtaken :
    ∃ (middle after : (plainApplication twoSlots Nat noCounters).State),
      undiscoveringMachine.run undiscoveringStart lateDiscovered = some middle ∧
      undiscoveringMachine.run middle oneMore = some after ∧
      ("late" ∈ middle.world.discovered ∧ middle.world.written = [7, 8, 9] ∧
        middle.world.slots (twoSlots.ring.index 1) = 8) ∧
      ∃ self update, after.AboutTo .producer self
        (.updateSlot (1 + twoSlots.ring.size) (twoSlots.ring.index 1) update) ∧
        after.world.consumerSequence "late" < 1 := by
  have found : ((undiscoveringMachine.run undiscoveringStart lateDiscovered).any fun middle =>
      foundLate middle && (undiscoveringMachine.run middle oneMore).any overtakes) = true := by
    decide +kernel
  obtain ⟨middle, reached, both⟩ := (Option.any_eq_true _ _).mp found
  obtain ⟨late, rest⟩ := (Bool.and_eq_true_iff).mp both
  obtain ⟨after, further, lost⟩ := (Option.any_eq_true _ _).mp rest
  refine ⟨middle, after, reached, further, ?_, ?_⟩
  · simpa only [foundLate, Bool.and_eq_true, decide_eq_true_eq, and_assoc] using late
  · unfold overtakes at lost
    split at lost
    · rename_i self sequence slot update next placed
      simp only [Bool.and_eq_true, decide_eq_true_eq] at lost
      obtain ⟨⟨rfl, rfl⟩, behind⟩ := lost
      exact ⟨self, update, ⟨next, placed⟩, by rw [behind]; decide⟩
    · cases lost

end Overtaken

end Ring
