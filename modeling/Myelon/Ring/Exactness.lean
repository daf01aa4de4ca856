/-
How many events fit, exactly.

A producer with a fixed set of consumers that is asked for the next operation has a cached
clearance that no consumer lags behind, whatever the interleaving was. So an attempt that is
answered from the cache gets the answer that the cursors would give.
-/

import Myelon.Ring.Publication

namespace Ring

open Interleaving Delivery

variable {interface : Interface} {passes : DirectoryPasses} {transport : Transport}
  {producer : Producer} {view : View interface} {least : Int}

/-- As many events are published as fit, or else what is missing is told and all else is
as it was. -/
def Exact {ε : Type} (ring : RingSize) (producer : Producer) (view : View interface)
    (least : Int) (n : Nat) (error : MissingFreeSlots → ε) (result : Except ε Int)
    (now : Producer) (seen : View interface) : Prop :=
  if n ≤ free ring view least then
    result = .ok (view.producerSequence + n) ∧
      Published producer view n (clearance ring producer view least n) now seen
  else
    result = .error (error (n - free ring view least).toNat) ∧ Steady producer view now seen

/-! ### An attempt by itself -/

theorem Gated.cached_free (gated : Gated transport.ring producer view least)
    (cleared : Cleared transport producer least) {n : Nat} (positive : 0 < n)
    (granted : view.producerSequence + n ≤ producer.sequenceClearOfConsumers ∨
      n ≤ free transport.ring view least) : n ≤ free transport.ring view least := by
  have placed := gated.placed
  rcases granted with cached | room
  · rcases cleared with used | clear
    · omega
    · unfold free
      omega
  · exact room

section Attempts

variable (readable : Readable transport passes)
  (gated : Gated transport.ring producer view least)
  (cleared : Cleared transport producer least)

include readable gated cleared

theorem tryBatchPublish_exact {n : Nat}
    {updateFn : Nat → interface.Value → Option interface.Value} (positive : 0 < n)
    (near : n < 2 ^ 63 ∧ view.producerSequence + n < 2 ^ 63)
    (returns : ∀ index, Returns (updateFn index))
    (inRange : ¬ Overflows transport.ring producer view least n) :
    Settles passes (Steady producer view) (Producer.tryBatchPublish transport n updateFn)
      (Exact transport.ring producer view least n id) := by
  by_cases room : n ≤ free transport.ring view least
  · have sums := not_or.mp fun beyond => inRange ⟨positive, near.1, near.2, .inr room, beyond⟩
    have counted : InRange n := by
      unfold InRange
      omega
    apply (tryBatchPublish_succeeds readable gated positive counted (.of_fits gated near.2)
      returns (gated.grantable (.inr room) sums.2) (by omega)).conseq (fun _ _ held => held)
    intro result now world held
    unfold Exact
    rw [if_pos room]
    exact held
  · have refused : ¬ (view.producerSequence + n ≤ producer.sequenceClearOfConsumers ∨
        n ≤ free transport.ring view least) :=
      fun granted => room (gated.cached_free cleared positive granted)
    have fails := nextSequences_fails readable gated positive (.inr refused)
    rw [if_pos near] at fails
    apply (tryBatchPublish_fails positive fails).conseq (fun _ _ held => held)
    intro result now world held
    unfold Exact
    rw [if_neg room]
    exact held

theorem tryPublish_exact {update : interface.Value → Option interface.Value}
    (returns : Returns update) (inRange : ¬ Overflows transport.ring producer view least 1) :
    Settles passes (Steady producer view) (Producer.tryPublish transport update)
      (Exact transport.ring producer view least 1 fun _ => .ringBufferFull) := by
  have bounds := gated.last_bounds
  by_cases room : ((1 : Nat) : Int) ≤ free transport.ring view least
  · have sums := not_or.mp fun beyond =>
      inRange ⟨Nat.one_pos, by decide, by omega, .inr room, beyond⟩
    apply (tryPublish_succeeds readable gated returns (gated.grantable (.inr room) sums.2)
      (by omega)).conseq (fun _ _ held => held)
    intro result now world held
    unfold Exact
    rw [if_pos room]
    exact held
  · have refused : ¬ (view.producerSequence + (1 : Nat) ≤ producer.sequenceClearOfConsumers ∨
        ((1 : Nat) : Int) ≤ free transport.ring view least) :=
      fun granted => room (gated.cached_free cleared Nat.one_pos granted)
    apply (tryPublish_fails (nextSequences_fails readable gated Nat.one_pos
      (.inr refused))).conseq (fun _ _ held => held)
    intro result now world held
    unfold Exact
    rw [if_neg room]
    exact held

theorem tryBatchPublish_counts {n : Nat}
    {updateFn : Nat → interface.Value → Option interface.Value} (positive : 0 < n)
    (near : n < 2 ^ 63 ∧ view.producerSequence + n < 2 ^ 63)
    (returns : ∀ index, Returns (updateFn index))
    (inRange : ¬ Overflows transport.ring producer view least n) :
    Terminates passes (Exactly producer view) (Producer.tryBatchPublish transport n updateFn)
      (Exact transport.ring producer view least n id) := by
  apply (Straight.tryBatchPublish n updateFn).terminates
  exact (tryBatchPublish_exact readable gated cleared positive near returns
    inRange).strengthen (fun self world => gated.exactly self world.view)

theorem tryPublish_counts {update : interface.Value → Option interface.Value}
    (returns : Returns update) (inRange : ¬ Overflows transport.ring producer view least 1) :
    Terminates passes (Exactly producer view) (Producer.tryPublish transport update)
      (Exact transport.ring producer view least 1 fun _ => .ringBufferFull) := by
  apply (Straight.tryPublish update).terminates
  exact (tryPublish_exact readable gated cleared returns inRange).strengthen
    (fun self world => gated.exactly self world.view)

end Attempts

theorem tryBatchPublish_uncountable {n : Nat}
    {updateFn : Nat → interface.Value → Option interface.Value}
    (gated : Gated transport.ring producer view least) (large : 2 ^ 63 ≤ n) :
    Terminates passes (Exactly producer view) (Producer.tryBatchPublish transport n updateFn)
      (fun result now seen => result = .error (2 ^ 64 - 1) ∧ Steady producer view now seen) := by
  have positive : 0 < n := by omega
  have far : ¬ InRange n ∨ ¬ InRange (view.producerSequence + n) := by
    apply Or.inl
    unfold InRange
    omega
  apply (Straight.tryBatchPublish n updateFn).terminates
  exact (tryBatchPublish_fails positive (nextSequences_rejects gated positive far)).strengthen
    (fun self world => gated.exactly self world.view)

/-! ### Every run with a fixed set of consumers -/

theorem lowest_exists {consumerIds : List ConsumerId} (nonempty : consumerIds ≠ [])
    (view : View interface) : ∃ least, Lowest consumerIds view least := by
  induction consumerIds with
  | nil => exact absurd rfl nonempty
  | cons head tail ih =>
      by_cases single : tail = []
      · subst single
        refine ⟨view.consumerSequence head, ?_, head, List.mem_singleton_self head, rfl⟩
        intro consumerId member
        exact Int.le_of_eq (congrArg _ (List.mem_singleton.mp member).symm)
      · obtain ⟨least, lowest⟩ := ih single
        by_cases below : view.consumerSequence head ≤ least
        · refine ⟨view.consumerSequence head, ?_, head, List.mem_cons_self, rfl⟩
          intro consumerId member
          rcases List.mem_cons.mp member with same | later
          · exact Int.le_of_eq (congrArg _ same.symm)
          · exact Int.le_trans below (lowest.least consumerId later)
        · obtain ⟨reached, member, same⟩ := lowest.reached
          refine ⟨least, ?_, reached, List.mem_cons_of_mem head member, same⟩
          intro consumerId member
          rcases List.mem_cons.mp member with same | later
          · rw [same]
            exact Int.le_of_not_le below
          · exact lowest.least consumerId later

variable {Value : Type} {consumerCounters : ConsumerCounters} {slots : Nat → Value}
  {fresh : Producer} {attached : List ConsumerId}
  {moves : List (Move Party (Oracle (plain Value)))}
  {after : (plainApplication transport Value consumerCounters).State}

def Policy.fixed (transport : Transport) (Value : Type) (consumerCounters : ConsumerCounters)
    (passes : DirectoryPasses) (reliable : transport.backend = .mmap → passes = .reliable)
    (producer : Producer) (attached : List ConsumerId) :
    Policy (plainApplication transport Value consumerCounters) :=
  { plainPolicy transport Value consumerCounters passes reliable producer with
    joins := fun consumerId => consumerId ∈ attached }

theorem fixed_upheld (reliable : transport.backend = .mmap → passes = .reliable)
    (new : fresh.Fresh transport) (known : fresh.consumerBarrier.consumerCursors ⊆ attached)
    (reached : Reaches transport passes consumerCounters slots fresh attached [] moves after) :
    (Policy.fixed transport Value consumerCounters passes reliable fresh
      attached).contract.Upheld after := by
  refine Policy.run_upheld (Policy.plain_servesProducer (fun _ _ _ => trivial)
      (fun _ _ => trivial))
    (Policy.plain_servesConsumer (fun _ _ => trivial) (fun _ => trivial)) slots new
    (fun consumerId member => ⟨member, member⟩) known ?_
    (fun _ impossible => absurd impossible List.not_mem_nil) ?_
    (Policy.accepts_always _ (fun _ _ _ _ => trivial) _ _) reached
  · intro consumerId member
    rw [List.append_nil] at member
    exact member
  · refine Machine.meets_always ?_ _ _
    intro party self action world
    cases party with
    | producer => cases self <;> trivial
    | consumer consumerId => trivial

/-- Where the producer is asked for the next operation, every consumer is known and none
of them is passed, by what is published or by what is cached. -/
theorem reached_gated (reliable : transport.backend = .mmap → passes = .reliable)
    (new : fresh.Fresh transport)
    (known : ∀ consumerId, consumerId ∈ fresh.consumerBarrier.consumerCursors ↔
      consumerId ∈ attached)
    (reached : Reaches transport passes consumerCounters slots fresh attached [] moves after)
    (asked : after.AboutTo .producer (.producer producer) .nextProducerRequest)
    (lowest : Lowest attached after.world.view least) :
    Gated transport.ring producer after.world.view least ∧
      Cleared transport producer least := by
  have upheld := fixed_upheld reliable new (fun consumerId => (known consumerId).mp) reached
  have holds := upheld.invariant
  obtain ⟨_, same, settled, _⟩ := upheld.guaranteed asked trivial
  cases same
  have within : ∀ consumerId ∈ attached,
      consumerId ∈ producer.consumerBarrier.consumerCursors :=
    fun consumerId member => (settled.observes consumerId ((known consumerId).mpr member)).2
  have everyone : ∀ consumerId, consumerId ∈ after.world.consumers ↔
      consumerId ∈ producer.consumerBarrier.consumerCursors :=
    fun consumerId => ⟨fun member => within consumerId (holds.joined consumerId member),
      settled.known consumerId⟩
  obtain ⟨slowest, member, stands⟩ := lowest.reached
  have gating : slowest ∈ fresh.consumerBarrier.consumerCursors := (known slowest).mpr member
  have bounds := holds.cursor_bounds slowest
  have room := holds.room slowest gating
  have published := settled.published
  have sequence := settled.sequence
  have inRange := settled.inRange
  have reads : after.world.cursor slowest = least := stands
  have stood : after.world.consumerSequence slowest = least :=
    (holds.cursor_eq (fun created => created gating)).symm.trans reads
  rw [stood] at bounds room
  constructor
  · exact
      { everyone
        lowest :=
          { least := fun consumerId member => lowest.least consumerId
              (holds.joined consumerId ((everyone consumerId).mpr member))
            reached := ⟨slowest, within slowest member, stands⟩ }
        floor := bounds.1
        behind := bounds.2
        within := by
          change after.world.producerSequence ≤ least + transport.ring.size
          omega
        placed := by
          change _ = after.world.producerSequence + 1
          omega
        inRange := by
          unfold InRange
          omega }
  · have cleared := settled.cleared slowest ⟨gating, within slowest member⟩
    rw [stood] at cleared
    exact cleared

/-- Whenever the producer is asked for it, an attempt succeeds exactly where its events fit,
and else tells how many slots are missing. -/
theorem capacity_exact (reliable : transport.backend = .mmap → passes = .reliable)
    (new : fresh.Fresh transport) (nonempty : attached ≠ [])
    (known : ∀ consumerId, consumerId ∈ fresh.consumerBarrier.consumerCursors ↔
      consumerId ∈ attached)
    (reached : Reaches transport passes consumerCounters slots fresh attached [] moves after)
    (asked : after.AboutTo .producer (.producer producer) .nextProducerRequest) :
    ∃ least, Lowest attached after.world.view least ∧
      (∀ (n : Nat) (updateFn : Nat → Value → Option Value), 0 < n →
        after.world.producerSequence + n < 2 ^ 63 →
        (∀ index, @Returns (plain Value) (updateFn index)) →
        (n < 2 ^ 63 → ¬ Overflows transport.ring producer after.world.view least n →
          Terminates passes (Exactly producer after.world.view)
            (Producer.tryBatchPublish transport n updateFn)
            (Exact transport.ring producer after.world.view least n id)) ∧
        (2 ^ 63 ≤ n → Terminates passes (Exactly producer after.world.view)
          (Producer.tryBatchPublish transport n updateFn)
          (fun result now seen => result = .error (2 ^ 64 - 1) ∧
            Steady producer after.world.view now seen))) ∧
      (∀ update : Value → Option Value, @Returns (plain Value) update →
        ¬ Overflows transport.ring producer after.world.view least 1 →
        Terminates passes (Exactly producer after.world.view)
          (Producer.tryPublish transport update)
          (Exact transport.ring producer after.world.view least 1
            fun _ => .ringBufferFull)) := by
  obtain ⟨least, lowest⟩ := lowest_exists nonempty after.world.view
  obtain ⟨gated, cleared⟩ := reached_gated reliable new known reached asked lowest
  have readable : Readable transport passes := reliable
  refine ⟨least, lowest, ?_, ?_⟩
  · intro n updateFn positive fits returns
    constructor
    · intro counted inRange
      exact tryBatchPublish_counts readable gated cleared positive ⟨counted, fits⟩ returns
        inRange
    · intro large
      exact tryBatchPublish_uncountable gated large
  · intro update returns inRange
    exact tryPublish_counts readable gated cleared returns inRange

/-! ### One event and one free slot -/

section Example

def asked (after : (plainApplication oneSlot Nat noCounters).State) : Option Producer :=
  match after.program .producer with
  | .act (.producer producer) .nextProducerRequest _ => some producer
  | _ => none

theorem asked_aboutTo {after : (plainApplication oneSlot Nat noCounters).State}
    (found : asked after = some producer) :
    after.AboutTo .producer (.producer producer) .nextProducerRequest := by
  unfold asked at found
  split at found
  · rename_i producer' next placed
    cases found
    exact ⟨next, placed⟩
  · cases found

abbrev findsAsked (moves : List (Move Party (Oracle (plain Nat))))
    (check : World (plain Nat) → Producer → Bool) : Bool :=
  (((plainApplication oneSlot Nat noCounters).machine .reliable).run
    ((plainApplication oneSlot Nat noCounters).start (fun _ => (0 : Nat))
      (knowing oneSlot ["reader"]) ["reader"] []) moves).any
    fun after => (asked after).any (check after.world)

theorem asked_reached {moves : List (Move Party (Oracle (plain Nat)))}
    {check : World (plain Nat) → Producer → Bool} (found : findsAsked moves check = true) :
    ∃ after producer,
      Reaches oneSlot .reliable noCounters (fun _ => (0 : Nat)) (knowing oneSlot ["reader"])
        ["reader"] [] moves after ∧
      after.AboutTo .producer (.producer producer) .nextProducerRequest ∧
      check after.world producer = true := by
  obtain ⟨after, reached, found⟩ := (Option.any_eq_true _ _).mp found
  obtain ⟨producer, about, checked⟩ := (Option.any_eq_true _ _).mp found
  exact ⟨after, producer, reached, asked_aboutTo about, checked⟩

/-- An event has been published and read, and not committed yet: there is no free slot. -/
theorem capacity_exact_full : ∃ after producer least,
    Reaches oneSlot .reliable noCounters (fun _ => (0 : Nat)) (knowing oneSlot ["reader"])
      ["reader"] [] (oneRead ++ byProducer [.silent]) after ∧
    free oneSlot.ring after.world.view least = 0 ∧
    Terminates .reliable (Exactly producer after.world.view)
      (Producer.tryBatchPublish oneSlot 3 fun _ => some)
      (Exact oneSlot.ring producer after.world.view least 3 id) := by
  have found : findsAsked (oneRead ++ byProducer [.silent]) (fun world producer =>
      decide (world.producerSequence = 0 ∧ world.cursor "reader" = -1)) = true := by
    decide +kernel
  obtain ⟨after, producer, reached, about, checked⟩ := asked_reached found
  obtain ⟨published, read⟩ := of_decide_eq_true checked
  obtain ⟨least, lowest, counts, _⟩ := capacity_exact (fun _ => rfl) ⟨rfl, rfl⟩
    (List.cons_ne_nil _ _) (fun _ => Iff.rfl) reached about
  obtain ⟨reader, member, stands⟩ := lowest.reached
  rw [List.mem_singleton.mp member] at stands
  have stands : after.world.cursor "reader" = least := stands
  have room : free oneSlot.ring after.world.view least = 0 := by
    unfold free
    change least + 1 - after.world.producerSequence = 0
    omega
  refine ⟨after, producer, least, reached, room, ?_⟩
  apply (counts 3 (fun _ => some) (by decide) (by omega) (fun _ _ => rfl)).1 (by decide)
  intro overflows
  have beyond : after.world.producerSequence + (3 : Nat) = 2 ^ 63 - 1 ∨
      (producer.sequenceClearOfConsumers < after.world.producerSequence + (3 : Nat) ∧
        2 ^ 63 ≤ least + 1) := overflows.beyond
  omega

/-- A new producer is asked for as many events as an `i64` has sequences, and tells another
number than that of the missing slots. -/
theorem capacity_uncountable : ∃ after producer least,
    Reaches oneSlot .reliable noCounters (fun _ => (0 : Nat)) (knowing oneSlot ["reader"])
      ["reader"] [] (byProducer [.silent]) after ∧
    after.AboutTo .producer (.producer producer) .nextProducerRequest ∧
    Lowest ["reader"] after.world.view least ∧
    after.world.producerSequence + (2 ^ 63 : Nat) < 2 ^ 63 ∧
    ¬ Terminates .reliable (Exactly producer after.world.view)
      (Producer.tryBatchPublish oneSlot (2 ^ 63) fun _ => some)
      (Exact oneSlot.ring producer after.world.view least (2 ^ 63) id) := by
  have found : findsAsked (byProducer [.silent]) (fun world producer =>
      decide (world.producerSequence = -1 ∧ world.cursor "reader" = -1)) = true := by
    decide +kernel
  obtain ⟨after, producer, reached, about, checked⟩ := asked_reached found
  obtain ⟨published, read⟩ := of_decide_eq_true checked
  obtain ⟨least, lowest⟩ := lowest_exists (List.cons_ne_nil "reader" []) after.world.view
  obtain ⟨reader, member, stands⟩ := lowest.reached
  rw [List.mem_singleton.mp member] at stands
  have stands : after.world.cursor "reader" = least := stands
  obtain ⟨gated, _cleared⟩ := reached_gated (fun _ => rfl) ⟨rfl, rfl⟩ (fun _ => Iff.rfl)
    reached about lowest
  refine ⟨after, producer, least, reached, about, lowest, by omega, ?_⟩
  intro exactly
  have room : free oneSlot.ring after.world.view least = 1 := by
    unfold free
    change least + 1 - after.world.producerSequence = 1
    omega
  obtain ⟨halts, told⟩ := exactly producer after.world ⟨rfl, rfl⟩
  obtain ⟨out, later, ended⟩ := halts.ends Oracle.silent
  have refused : Terminates .reliable (Exactly producer after.world.view)
      (Producer.tryBatchPublish oneSlot (2 ^ 63) fun _ => some)
      (fun result now seen => result = .error (2 ^ 64 - 1) ∧
        Steady producer after.world.view now seen) :=
    tryBatchPublish_uncountable gated (Nat.le_refl _)
  have answer := ((refused producer after.world ⟨rfl, rfl⟩).2 out later ended).1
  have claimed : Exact oneSlot.ring producer after.world.view least (2 ^ 63) id out.1 out.2
      later.view := told out later ended
  unfold Exact at claimed
  rw [room, if_neg (by decide), answer] at claimed
  exact absurd claimed.1 (by decide)

end Example

end Ring
