/-
The two backends give the same answers.

Operations that run one after the other, on a shared-memory ring and on a mapped one of
the same size whose barriers know the same consumers, return the same results, give the
consumers the same events and leave the same cursors.
-/

import Myelon.Ring.Known
import Myelon.Ring.Taking

namespace Ring

open Interleaving Delivery

abbrev sharedMemoryOf (ring : RingSize) (processId : Nat) : Transport :=
  { backend := .sharedMemory, ring, processId }

abbrev mappedOf (ring : RingSize) (processId : Nat) : Transport :=
  { backend := .mmap, ring, processId }

variable {interface : Interface} {passes : DirectoryPasses} {frame : View interface} {α : Type}

/-! ### Twin producers -/

/-- Two producers on rings that look the same, where everyone attached is known to both.
The cursors are those of the frame, which a producer leaves alone. The cursor of the
producer may be ahead of its next sequence while it publishes. -/
structure Twins (frame : View interface) (due : Int) (producer : Producer)
    (view : View interface) (twin : Producer) (seen : View interface) : Prop where
  seen : seen = view
  framed : view.consumers = frame.consumers ∧ view.consumerSequence = frame.consumerSequence
  sequence : twin.sequence = producer.sequence
  clear : twin.sequenceClearOfConsumers = producer.sequenceClearOfConsumers
  everyone : ∀ consumerId, consumerId ∈ view.consumers ↔
    consumerId ∈ producer.consumerBarrier.consumerCursors
  everyoneElse : ∀ consumerId, consumerId ∈ view.consumers ↔
    consumerId ∈ twin.consumerBarrier.consumerCursors
  attached : view.consumers ≠ []
  initialised : view.uninitialised = []
  placed : view.producerSequence + 1 = producer.sequence + due
  inRange : InRange producer.sequence
  behind : ∀ consumerId ∈ view.consumers, -1 ≤ view.consumerSequence consumerId ∧
    view.consumerSequence consumerId ≤ view.producerSequence

namespace Twins

variable {due : Int} {producer twin : Producer} {view seen : View interface}

theorem steady (twins : Twins frame due producer view twin seen) :
    Steady producer view producer view :=
  ⟨rfl, rfl, rfl, rfl, rfl, twins.everyone⟩

theorem steadyElse (twins : Twins frame due producer view twin seen) : Steady twin seen twin seen :=
  ⟨rfl, rfl, rfl, rfl, rfl, by rw [twins.seen]; exact twins.everyoneElse⟩

theorem still (twins : Twins frame due producer view twin seen) {now now' : Producer}
    {later later' : View interface} (steady : Steady producer view now later)
    (steady' : Steady twin seen now' later') : Twins frame due now later now' later' := by
  have same := steady.seen
  subst same
  exact {
    seen := steady'.seen.trans twins.seen
    sequence := by rw [steady'.sequence, steady.sequence, twins.sequence]
    clear := by rw [steady'.clear, steady.clear, twins.clear]
    everyone := fun consumerId => by rw [steady.cursors]; exact twins.everyone consumerId
    everyoneElse := fun consumerId => by
      rw [steady'.cursors]
      exact twins.everyoneElse consumerId
    framed := twins.framed
    attached := twins.attached
    initialised := twins.initialised
    placed := by rw [steady.sequence]; exact twins.placed
    inRange := by rw [steady.sequence]; exact twins.inRange
    behind := twins.behind }

theorem bounds (twins : Twins frame 0 producer view twin seen) : InBounds view := by
  intro consumerId member
  have placed := twins.placed
  have inRange := twins.inRange
  have behind := twins.behind consumerId member
  simp only [InRange] at inRange
  omega

theorem known (twins : Twins frame due producer view twin seen) :
    producer.consumerBarrier.consumerCursors ≠ [] ∧
      twin.consumerBarrier.consumerCursors ≠ [] := by
  obtain ⟨consumerId, member⟩ := List.exists_mem_of_ne_nil _ twins.attached
  exact ⟨List.ne_nil_of_mem ((twins.everyone consumerId).mp member),
    List.ne_nil_of_mem ((twins.everyoneElse consumerId).mp member)⟩

end Twins

abbrev Agree (passes : DirectoryPasses)
    (pre : Producer → View interface → Producer → View interface → Prop)
    (first second : ProducerProcess interface α)
    (post : α → Producer → View interface → Producer → View interface → Prop) : Prop :=
  (solitary interface passes).Agrees (solitary interface .reliable)
    (fun self world other beyond => pre self world.view other beyond.view) first second
    (fun value self world other beyond => post value self world.view other beyond.view)

namespace Agree

variable {β : Type} {pre stronger : Producer → View interface → Producer → View interface → Prop}

theorem pure (value : α) {post : α → Producer → View interface → Producer → View interface → Prop}
    (holds : ∀ producer view twin seen, pre producer view twin seen →
      post value producer view twin seen) :
    Agree passes pre (Pure.pure value) (Pure.pure value) post :=
  Machine.Agrees.pure value (fun producer world twin beyond =>
    holds producer world.view twin beyond.view)

theorem bind {first second : ProducerProcess interface α}
    {rest further : α → ProducerProcess interface β}
    {middle : α → Producer → View interface → Producer → View interface → Prop}
    {post : β → Producer → View interface → Producer → View interface → Prop}
    (begins : Agree passes pre first second middle)
    (goesOn : ∀ value, Agree passes (middle value) (rest value) (further value) post) :
    Agree passes pre (first >>= rest) (second >>= further) post :=
  Machine.Agrees.bind begins goesOn

theorem map {first second : ProducerProcess interface α} (change : α → β)
    {post : Producer → View interface → Producer → View interface → Prop}
    (agree : Agree passes pre first second (fun _ => post)) :
    Agree passes pre (change <$> first) (change <$> second) (fun _ => post) :=
  bind agree (fun value => pure (change value) (fun _ _ _ _ held => held))

theorem strengthen {first second : ProducerProcess interface α}
    {post : α → Producer → View interface → Producer → View interface → Prop}
    (agree : Agree passes pre first second post)
    (implied : ∀ producer view twin seen, stronger producer view twin seen →
      pre producer view twin seen) : Agree passes stronger first second post :=
  Machine.Agrees.strengthen agree (fun producer world twin beyond =>
    implied producer world.view twin beyond.view)

theorem given (fact : Prop) {first second : ProducerProcess interface α}
    {post : α → Producer → View interface → Producer → View interface → Prop}
    (implied : ∀ producer view twin seen, pre producer view twin seen → fact)
    (agree : fact → Agree passes pre first second post) : Agree passes pre first second post :=
  Machine.Agrees.given fact (fun producer world twin beyond =>
    implied producer world.view twin beyond.view) agree

end Agree

/-- Both sides settle, in the same value, and leave everything as it is. -/
theorem agree_settled {due : Int} {first second : ProducerProcess interface α}
    {ends ends' : Producer → View interface → α → Prop}
    (settles : ∀ {producer view twin seen}, Twins frame due producer view twin seen →
      Settles passes (Steady producer view) first
        (fun value now later => ends producer view value ∧ Steady producer view now later))
    (settles' : ∀ {producer view twin seen}, Twins frame due producer view twin seen →
      Settles .reliable (Steady twin seen) second
        (fun value now later => ends' twin seen value ∧ Steady twin seen now later))
    (same : ∀ {producer view twin seen value value'}, Twins frame due producer view twin seen →
      ends producer view value → ends' twin seen value' → value = value') :
    Agree passes (Twins frame due) first second (fun _ => Twins frame due) := by
  apply Machine.Agrees.settled
  intro producer world twin beyond twins
  refine ⟨_, _, (settles twins).strengthen ?_, (settles' twins).strengthen ?_, ?_⟩
  · rintro self world ⟨rfl, rfl⟩
    exact twins.steady
  · rintro self world ⟨rfl, rfl⟩
    exact twins.steadyElse
  · rintro value later after value' later' after' ⟨ended, steady⟩ ⟨ended', steady'⟩
    exact ⟨same twins ended ended', twins.still steady steady'⟩

variable {pre : Producer → View interface → Producer → View interface → Prop}

theorem agree_withStates {rest further : Producer → ProducerProcess interface α}
    {post : α → Producer → View interface → Producer → View interface → Prop}
    (alike : ∀ producer view twin seen, pre producer view twin seen →
      twin.sequence = producer.sequence ∧
        twin.sequenceClearOfConsumers = producer.sequenceClearOfConsumers)
    (goesOn : ∀ self twin : Producer, twin.sequence = self.sequence →
      twin.sequenceClearOfConsumers = self.sequenceClearOfConsumers →
      Agree passes (fun producer view other seen => producer = self ∧
        pre producer view other seen) (rest self) (further twin) post) :
    Agree passes pre (get >>= rest) (get >>= further) post := by
  apply Machine.Agrees.withStates
  intro self twin
  apply Machine.Agrees.given (twin.sequence = self.sequence ∧
    twin.sequenceClearOfConsumers = self.sequenceClearOfConsumers)
  · rintro producer world other beyond ⟨rfl, rfl, related⟩
    exact alike producer world.view other beyond.view related
  rintro ⟨sequence, clear⟩
  apply Machine.Agrees.strengthen (goesOn self twin sequence clear)
  rintro producer world other beyond ⟨same, _same, related⟩
  exact ⟨same, related⟩

theorem Twins.alike {due : Int} (producer : Producer) (view : View interface) (twin : Producer)
    (seen : View interface) (twins : Twins frame due producer view twin seen) :
    twin.sequence = producer.sequence ∧
      twin.sequenceClearOfConsumers = producer.sequenceClearOfConsumers :=
  ⟨twins.sequence, twins.clear⟩

theorem checked_agree (value : Int) :
    Agree passes pre (checked value) (checked value)
      (fun result producer view twin seen => (result = value ∧ InRange value) ∧
        pre producer view twin seen) := by
  unfold checked
  split
  · rename_i inRange
    exact Agree.pure value (fun _ _ _ _ held => ⟨⟨rfl, inRange⟩, held⟩)
  · apply Machine.Agrees.stuck
    · intro oracle world
      cases oracle <;> rfl
    · intro oracle world
      cases oracle <;> rfl

theorem expect_agree {condition : Prop} [Decidable condition] :
    Agree passes pre (expect condition) (expect condition)
      (fun _ producer view twin seen => condition ∧ pre producer view twin seen) := by
  unfold expect
  split
  · rename_i holds
    exact Agree.pure () (fun _ _ _ _ held => ⟨holds, held⟩)
  · apply Machine.Agrees.stuck
    · intro oracle world
      cases oracle <;> rfl
    · intro oracle world
      cases oracle <;> rfl

theorem count_settles_producer {producer : Producer} {view : View interface} (attached : Bool)
    (counter : Counter) :
    Settles passes (Steady producer view) (Producer.count attached counter)
      (fun _ now later => True ∧ Steady producer view now later) :=
  (settles_onlyIf (settles_addCounter counter 1)).conseq (fun _ _ held => held)
    (fun _ _ _ held => ⟨trivial, held⟩)

theorem count_agree {due : Int} (attached attached' : Bool) (counter : Counter) :
    Agree passes (Twins frame due) (Producer.count attached counter)
      (Producer.count attached' counter) (fun _ => Twins frame due) :=
  agree_settled (fun _ => count_settles_producer attached counter)
    (fun _ => count_settles_producer attached' counter) (fun _ _ _ => rfl)

/-! ### The gating sequence -/

theorem gatingSequence_agree (ring : RingSize) (processId otherId : Nat) :
    Agree passes (Twins frame 0)
      (ConsumerBarrier.gatingSequence (sharedMemoryOf ring processId))
      (ConsumerBarrier.gatingSequence (mappedOf ring otherId)) (fun _ => Twins frame 0) := by
  refine agree_settled
    (fun twins => getMinConsumerSequence_settles (sharedMemoryOf ring processId)
      (twins.bounds.countable (fun consumerId => (twins.everyone consumerId).mpr)
        twins.known.1))
    (fun twins => bestEffortMinConsumerSequence_settles ?_) ?_
  · rw [twins.seen]
    exact twins.bounds.countable (fun consumerId => (twins.everyoneElse consumerId).mpr)
      twins.known.2
  · intro producer view twin seen value value' twins lowest lowest'
    rw [twins.seen] at lowest'
    exact lowest.unique lowest' (fun consumerId =>
      (twins.everyone consumerId).symm.trans (twins.everyoneElse consumerId))

theorem consumerSequence_agree (consumerId : ConsumerId) :
    Agree passes (Twins frame 0)
      (ConsumerBarrier.consumerSequence consumerId)
      (ConsumerBarrier.consumerSequence consumerId) (fun _ => Twins frame 0) := by
  refine agree_settled (fun _ => consumerSequence_settles consumerId)
    (fun _ => consumerSequence_settles consumerId) ?_
  intro producer view twin seen value value' twins ended ended'
  rw [ended, ended', twins.seen]
  congr 1
  exact propext ((twins.everyone consumerId).symm.trans (twins.everyoneElse consumerId))

theorem lastPublishedSequence_agree :
    Agree passes (Twins frame 0) Producer.lastPublishedSequence
      Producer.lastPublishedSequence (fun _ => Twins frame 0) := by
  have loads : ∀ {passes : DirectoryPasses} {producer : Producer} {view : View interface},
      Settles passes (Steady producer view) Producer.lastPublishedSequence
        (fun value now later => value = view.producerSequence ∧
          Steady producer view now later) := by
    intro passes producer view
    apply settles_loadProducerSequence.conseq (fun _ _ held => held)
    rintro value now world ⟨rfl, steady⟩
    exact ⟨by rw [steady.seen], steady⟩
  refine agree_settled (fun _ => loads) (fun _ => loads) ?_
  intro producer view twin seen value value' twins ended ended'
  rw [ended, ended', twins.seen]

/-! ### Reservation -/

variable {ring : RingSize} {processId otherId : Nat}

theorem freeSlots_agree {due : Int} (lastPublished rearSequenceRead : Int) :
    Agree passes (Twins frame due)
      (Producer.freeSlots (sharedMemoryOf ring processId) lastPublished rearSequenceRead)
      (Producer.freeSlots (mappedOf ring otherId) lastPublished rearSequenceRead)
      (fun _ => Twins frame due) := by
  apply Agree.bind (checked_agree _)
  intro wrapPoint
  exact (checked_agree _).conseq (fun _ _ _ _ held => held.2) (fun _ _ _ _ _ held => held.2)

theorem Twins.cleared {due : Int} {producer twin : Producer} {view seen : View interface}
    (twins : Twins frame due producer view twin seen) (cleared : Int) :
    Twins frame due { producer with sequenceClearOfConsumers := cleared } view
      { twin with sequenceClearOfConsumers := cleared } seen :=
  { twins with clear := rfl }

theorem refreshClearanceWindow_agree (n : Int) :
    Agree passes (Twins frame 0)
      (Producer.refreshClearanceWindow (sharedMemoryOf ring processId) n)
      (Producer.refreshClearanceWindow (mappedOf ring otherId) n) (fun _ => Twins frame 0) := by
  refine agree_withStates Twins.alike (fun producer twin sequence _clear => ?_)
  rw [sequence]
  apply Agree.bind (checked_agree _)
  intro lastPublished
  apply Agree.bind ((gatingSequence_agree ring processId otherId).strengthen
    (fun _ _ _ _ held => held.2.2))
  intro rearSequenceRead
  apply Agree.bind (freeSlots_agree lastPublished rearSequenceRead)
  intro freeSlots
  split
  · apply Agree.bind (checked_agree _)
    intro missing
    exact Agree.pure _ (fun _ _ _ _ held => held.2)
  · apply Agree.bind (checked_agree _)
    intro cleared
    apply Machine.Agrees.modifyGet
    intro self world other beyond held
    exact ⟨rfl, held.2.cleared cleared⟩

theorem updateMinConsumerClearanceWindow_agree (n nNext : Int) :
    Agree passes (Twins frame 0)
      (Producer.updateMinConsumerClearanceWindow (sharedMemoryOf ring processId) n nNext)
      (Producer.updateMinConsumerClearanceWindow (mappedOf ring otherId) n nNext)
      (fun _ => Twins frame 0) := by
  refine agree_withStates Twins.alike (fun producer twin _sequence clear => ?_)
  rw [clear]
  split
  · exact Agree.pure _ (fun _ _ _ _ held => held.2)
  · exact (refreshClearanceWindow_agree n).strengthen (fun _ _ _ _ held => held.2)

theorem nextSequences_agree (n : Nat) :
    Agree passes (Twins frame 0)
      (Producer.nextSequences (sharedMemoryOf ring processId) n)
      (Producer.nextSequences (mappedOf ring otherId) n) (fun _ => Twins frame 0) := by
  unfold Producer.nextSequences
  split
  · apply Agree.bind expect_agree
    intro _
    refine agree_withStates (fun _ _ _ _ held => Twins.alike _ _ _ _ held.2)
      (fun producer twin sequence _clear => ?_)
    have reserved : twin.lastReservedSequence n = producer.lastReservedSequence n := by
      rw [Producer.lastReservedSequence, Producer.lastReservedSequence, sequence]
    rw [reserved]
    split
    · exact Agree.pure _ (fun _ _ _ _ held => held.2.2)
    · rename_i nNext _next
      apply Agree.bind ((updateMinConsumerClearanceWindow_agree n nNext).strengthen
        (fun _ _ _ _ held => held.2.2))
      intro cleared
      split
      · exact Agree.pure _ (fun _ _ _ _ held => held)
      · exact Agree.pure _ (fun _ _ _ _ held => held)
  · exact Agree.pure _ (fun _ _ _ _ held => held)

/-! ### Publication -/

theorem Twins.wrote {due : Int} {producer twin : Producer} {view seen : View interface}
    (twins : Twins frame due producer view twin seen) (slot : Nat) (value : interface.Value) :
    Twins frame due producer { view with slots := Function.update view.slots slot value } twin
      { seen with slots := Function.update seen.slots slot value } := by
  have same := twins.seen
  subst same
  exact { twins with seen := rfl }

def Publishes (frame : View interface) (sequence : Int) (producer : Producer)
    (view : View interface) (twin : Producer) (seen : View interface) : Prop :=
  Twins frame 0 producer view twin seen ∧ producer.sequence = sequence

theorem writeSlot_agree {first : Int} (sequence : Int)
    (update : interface.Value → Option interface.Value) :
    Agree passes (Publishes frame first)
      (Producer.writeSlot (sharedMemoryOf ring processId) sequence update)
      (Producer.writeSlot (mappedOf ring otherId) sequence update)
      (fun _ => Publishes frame first) := by
  have pointer : Agree passes (Publishes frame first)
      (ring.get sequence) (ring.get sequence) (fun _ => Publishes frame first) := by
    apply Agree.bind expect_agree
    intro _
    exact Agree.pure _ (fun _ _ _ _ held => held.2)
  apply Agree.bind pointer
  intro slot
  have same : ∀ {producer twin : Producer} {world beyond : World interface},
      Publishes frame first producer world.view twin beyond.view →
      beyond.slots = world.slots := fun publishes => congrArg View.slots publishes.1.seen
  apply Machine.Agrees.perform
  · intro producer world twin beyond publishes
    simp only [perform, same publishes]
    cases update (world.slots slot) with
    | none =>
        constructor
        · rintro ⟨_, _, _, performed⟩
          cases performed
        · rintro ⟨_, _, _, performed⟩
          cases performed
    | some value => exact ⟨fun _ => ⟨.silent, _, _, rfl⟩, fun _ => ⟨.silent, _, _, rfl⟩⟩
  · intro producer world twin beyond oracle result after oracle' result' after' publishes
      performed performed'
    simp only [perform, same publishes] at performed performed'
    split at performed
    · cases performed
    · rename_i value filled
      rw [filled] at performed'
      cases performed
      cases performed'
      have written : Twins frame 0 producer
          { world.view with slots := Function.update world.slots slot value } twin
          { beyond.view with slots := Function.update beyond.slots slot value } :=
        publishes.1.wrote slot value
      rw [same publishes] at written
      exact ⟨rfl, written, publishes.2⟩

theorem storeSequence_agree {first : Int} (sequence n : Int) (next : sequence + 1 = first + n)
    (positive : 0 < n) :
    Agree passes (Publishes frame first)
      (Producer.storeSequence sequence n) (Producer.storeSequence sequence n)
      (fun _ => Twins frame 0) := by
  have stored : Agree passes (Publishes frame first)
      (act (.storeProducerSequence sequence)) (act (.storeProducerSequence sequence))
      (fun _ producer view twin seen => Twins frame n producer view twin seen ∧
        producer.sequence = first) := by
    apply Machine.Agrees.perform
    · exact fun _ _ _ _ _ => ⟨fun _ => ⟨.silent, _, _, rfl⟩, fun _ => ⟨.silent, _, _, rfl⟩⟩
    · rintro producer world twin beyond oracle result after oracle' result' after'
        ⟨twins, same⟩ performed performed'
      cases performed
      cases performed'
      have placed := twins.placed
      refine ⟨rfl, { twins with
        seen := ?_
        placed := ?_
        behind := fun consumerId member => ?_ }, same⟩
      · exact congrArg (fun view : View interface => { view with producerSequence := sequence })
          twins.seen
      · change sequence + 1 = producer.sequence + n
        omega
      · obtain ⟨low, high⟩ := twins.behind consumerId member
        refine ⟨low, ?_⟩
        change world.view.consumerSequence consumerId ≤ sequence
        omega
  apply Agree.bind stored
  intro _
  refine agree_withStates (fun _ _ _ _ held => Twins.alike _ _ _ _ held.1)
    (fun producer twin sequence _clear => ?_)
  rw [sequence]
  apply Agree.bind (checked_agree _)
  intro next
  apply Machine.Agrees.modifyGet
  rintro self world other beyond ⟨⟨rfl, inRange⟩, rfl, twins, _first⟩
  have placed := twins.placed
  refine ⟨rfl, { twins with
    sequence := rfl
    placed := ?_
    inRange := inRange }⟩
  change world.view.producerSequence + 1 = self.sequence + n + 0
  omega

theorem applyUpdate_agree (update : interface.Value → Option interface.Value) :
    Agree passes (Twins frame 0) (Producer.applyUpdate (sharedMemoryOf ring processId) update)
      (Producer.applyUpdate (mappedOf ring otherId) update) (fun _ => Twins frame 0) := by
  refine agree_withStates Twins.alike (fun producer twin sequence _clear => ?_)
  rw [sequence]
  apply Agree.bind expect_agree
  intro _
  have written : Agree passes (Publishes frame producer.sequence)
      (Producer.writeSlot (sharedMemoryOf ring processId) producer.sequence update)
      (Producer.writeSlot (mappedOf ring otherId) producer.sequence update)
      (fun _ => Publishes frame producer.sequence) := writeSlot_agree producer.sequence update
  apply Agree.bind (written.strengthen ?_)
  · intro _
    apply Agree.bind (storeSequence_agree producer.sequence 1 rfl (by decide))
    intro _
    exact Agree.pure _ (fun _ _ _ _ held => held)
  · rintro self world other beyond ⟨_positive, rfl, twins⟩
    exact ⟨twins, rfl⟩

theorem applyBatchUpdates_agree (n : Nat)
    (updateFn : Nat → interface.Value → Option interface.Value) :
    Agree passes (Twins frame 0)
      (Producer.applyBatchUpdates (sharedMemoryOf ring processId) n updateFn)
      (Producer.applyBatchUpdates (mappedOf ring otherId) n updateFn) (fun _ => Twins frame 0) := by
  apply Agree.bind expect_agree
  intro _
  apply Agree.bind expect_agree
  intro _
  refine agree_withStates (fun _ _ _ _ held => Twins.alike _ _ _ _ held.2.2)
    (fun producer twin sequence _clear => ?_)
  rw [sequence]
  apply Agree.bind (checked_agree _)
  intro upper
  apply Agree.given (upper = producer.sequence + (n - 1) ∧ 0 < n)
    (fun _ _ _ _ held => ⟨held.1.1, held.2.2.2.1⟩)
  rintro ⟨rfl, positive⟩
  have written : Agree passes (Publishes frame producer.sequence)
      (Routine.each (fun i : Nat => Producer.writeSlot (sharedMemoryOf ring processId)
        (producer.sequence + i) (updateFn i)) (List.range n))
      (Routine.each (fun i : Nat => Producer.writeSlot (mappedOf ring otherId)
        (producer.sequence + i) (updateFn i)) (List.range n))
      (fun _ => Publishes frame producer.sequence) :=
    Machine.Agrees.each (fun i _ => writeSlot_agree _ (updateFn i))
  apply Agree.bind (written.strengthen ?_)
  · intro _
    apply Agree.bind (storeSequence_agree _ n (by omega) (by omega))
    intro _
    exact Agree.pure _ (fun _ _ _ _ held => held)
  · rintro self world other beyond ⟨_upper, rfl, _inRange, _positive, twins⟩
    exact ⟨twins, rfl⟩

theorem tryPublish_agree (update : interface.Value → Option interface.Value) :
    Agree passes (Twins frame 0) (Producer.tryPublish (sharedMemoryOf ring processId) update)
      (Producer.tryPublish (mappedOf ring otherId) update) (fun _ => Twins frame 0) := by
  refine agree_withStates Twins.alike (fun producer twin _sequence _clear => ?_)
  apply Agree.bind ((nextSequences_agree 1).strengthen (fun _ _ _ _ held => held.2))
  intro reserved
  split
  · apply Agree.bind (count_agree _ _ _)
    intro _
    exact Agree.pure _ (fun _ _ _ _ held => held)
  · apply Agree.bind (applyUpdate_agree update)
    intro sequence
    apply Agree.bind (count_agree _ _ _)
    intro _
    exact Agree.pure _ (fun _ _ _ _ held => held)

theorem tryBatchPublish_agree (n : Nat)
    (updateFn : Nat → interface.Value → Option interface.Value) :
    Agree passes (Twins frame 0)
      (Producer.tryBatchPublish (sharedMemoryOf ring processId) n updateFn)
      (Producer.tryBatchPublish (mappedOf ring otherId) n updateFn) (fun _ => Twins frame 0) := by
  unfold Producer.tryBatchPublish
  split
  · refine agree_withStates Twins.alike (fun producer twin sequence _clear => ?_)
    rw [sequence]
    apply Agree.bind (checked_agree _)
    intro last
    exact Agree.pure _ (fun _ _ _ _ held => held.2.2)
  · apply Agree.bind (nextSequences_agree n)
    intro reserved
    split
    · exact Agree.pure _ (fun _ _ _ _ held => held)
    · apply Agree.bind (applyBatchUpdates_agree n updateFn)
      intro sequence
      exact Agree.pure _ (fun _ _ _ _ held => held)

theorem isConsumed_agree (sequence : Int) :
    Agree passes (Twins frame 0) (Producer.isConsumed (sharedMemoryOf ring processId) sequence)
      (Producer.isConsumed (mappedOf ring otherId) sequence) (fun _ => Twins frame 0) := by
  apply Agree.bind (gatingSequence_agree ring processId otherId)
  intro minSequence
  exact Agree.pure _ (fun _ _ _ _ held => held)

/-! ### Operations one after the other -/

inductive Operation (interface : Interface) where
  | tryPublish (update : interface.Value → Option interface.Value)
  | tryBatchPublish (n : Nat) (updateFn : Nat → interface.Value → Option interface.Value)
  | minGatingSequence
  | isConsumed (sequence : Int)
  | consumerSequence (consumerId : ConsumerId)
  | lastPublishedSequence
  | tryConsumeNext (consumerId : ConsumerId)
  /-- The lease is dropped when its holder has read it. -/
  | tryConsumeNextLeased (consumerId : ConsumerId)
  | processAvailable (consumerId : ConsumerId)
  | currentSequence (consumerId : ConsumerId)

inductive Outcome (interface : Interface) where
  | tried (result : Except RingBufferFull Int)
  | reserved (result : Except MissingFreeSlots Int)
  | sequence (sequence : Int)
  | found (sequence : Option Int)
  | decided (decision : Bool)
  | polled (event : Option (Int × interface.Value))
  | processed (count : Nat)

inductive Work (interface : Interface) where
  | ofProducer (process : ProducerProcess interface (Outcome interface))
  | ofConsumer (consumerId : ConsumerId)
      (process : ConsumerProcess interface Unit (Outcome interface))

def Operation.work (transport : Transport) : Operation interface → Work interface
  | .tryPublish update => .ofProducer (.tried <$> Producer.tryPublish transport update)
  | .tryBatchPublish n updateFn =>
      .ofProducer (.reserved <$> Producer.tryBatchPublish transport n updateFn)
  | .minGatingSequence => .ofProducer (.sequence <$> Producer.minGatingSequence transport)
  | .isConsumed sequence => .ofProducer (.decided <$> Producer.isConsumed transport sequence)
  | .consumerSequence consumerId =>
      .ofProducer (.found <$> ConsumerBarrier.consumerSequence consumerId)
  | .lastPublishedSequence => .ofProducer (.sequence <$> Producer.lastPublishedSequence)
  | .tryConsumeNext consumerId =>
      .ofConsumer consumerId (.polled <$> Consumer.tryConsumeNext transport)
  | .tryConsumeNextLeased consumerId =>
      .ofConsumer consumerId (.polled <$> Consumer.tryConsumeNextLeased transport useLease)
  | .processAvailable consumerId =>
      .ofConsumer consumerId (.processed <$> Consumer.processAvailable transport Consumer.hold)
  | .currentSequence consumerId =>
      .ofConsumer consumerId (.sequence <$> Consumer.currentSequence)

structure Session (interface : Interface) where
  producer : Producer
  consumer : ConsumerId → Consumer
  world : World interface

/-- The work of one operation runs to its end. Only consumers that have attached work. -/
def Work.Runs (passes : DirectoryPasses) (session : Session interface)
    (outcome : Outcome interface) (after : Session interface) : Work interface → Prop
  | .ofProducer process => ∃ producer world,
      (solitary interface passes).Ends (process session.producer) session.world
        (outcome, producer) world ∧
      after = { session with
        producer
        world }
  | .ofConsumer consumerId process => consumerId ∈ session.world.consumers ∧
      ∃ consumer world,
        (solitary interface passes).Ends (process (session.consumer consumerId, ()))
          session.world (outcome, (consumer, ())) world ∧
        after = { session with
          consumer := Function.update session.consumer consumerId consumer
          world }

def Performs (transport : Transport) (passes : DirectoryPasses) (session : Session interface)
    (operation : Operation interface) (outcome : Outcome interface)
    (after : Session interface) : Prop :=
  (operation.work transport).Runs passes session outcome after

def Executes (transport : Transport) (passes : DirectoryPasses) :
    Session interface → List (Operation interface) → List (Outcome interface) →
      Session interface → Prop
  | session, [], outcomes, after => outcomes = [] ∧ after = session
  | session, operation :: rest, outcomes, after => ∃ outcome middle later,
      Performs transport passes session operation outcome middle ∧
      Executes transport passes middle rest later after ∧ outcomes = outcome :: later

def Session.start (slots : Nat → interface.Value) (producer : Producer)
    (consumerIds : List ConsumerId) (counters : ConsumerCounters) : Session interface :=
  { producer
    consumer := fun consumerId =>
      { consumerId
        lastProcessedSequence := -1
        counters }
    world :=
      { World.initial slots with
        consumers := consumerIds
        discovered := producer.consumerBarrier.consumerCursors } }

/-- Both sides look the same, and every consumer stands at its cursor. -/
structure Session.Alike (session twin : Session interface) : Prop where
  producers : Twins session.world.view 0 session.producer session.world.view twin.producer
    twin.world.view
  named : ∀ consumerId, (session.consumer consumerId).consumerId = consumerId ∧
    (twin.consumer consumerId).consumerId = consumerId
  consumers : ∀ consumerId ∈ session.world.consumers,
    (session.consumer consumerId).lastProcessedSequence =
      session.world.cursor consumerId ∧
    (twin.consumer consumerId).lastProcessedSequence = session.world.cursor consumerId

theorem Session.Alike.view {session twin : Session interface} (alike : session.Alike twin) :
    twin.world.view = session.world.view := alike.producers.seen

def Work.Alike (passes : DirectoryPasses) (session twin : Session interface)
    (first second : Work interface) : Prop :=
  ((∃ outcome after, first.Runs passes session outcome after) ↔
    ∃ outcome after, second.Runs .reliable twin outcome after) ∧
  ∀ outcome after outcome' after', first.Runs passes session outcome after →
    second.Runs .reliable twin outcome' after' → outcome = outcome' ∧ after.Alike after'

theorem ofProducer_alike {session twin : Session interface} (alike : session.Alike twin)
    {first second : ProducerProcess interface (Outcome interface)}
    (agree : Agree passes (Twins session.world.view 0) first second
      (fun _ => Twins session.world.view 0)) :
    Work.Alike passes session twin (.ofProducer first) (.ofProducer second) := by
  obtain ⟨both, same⟩ := agree session.producer session.world twin.producer twin.world
    alike.producers
  constructor
  · constructor
    · rintro ⟨outcome, after, producer, world, ended, _⟩
      obtain ⟨⟨outcome', producer'⟩, world', ended'⟩ := both.mp ⟨_, _, ended⟩
      exact ⟨outcome', _, producer', world', ended', rfl⟩
    · rintro ⟨outcome, after, producer, world, ended, _⟩
      obtain ⟨⟨outcome', producer'⟩, world', ended'⟩ := both.mpr ⟨_, _, ended⟩
      exact ⟨outcome', _, producer', world', ended', rfl⟩
  · rintro outcome after outcome' after' ⟨producer, world, ended, rfl⟩
      ⟨producer', world', ended', rfl⟩
    obtain ⟨equal, twins⟩ := same _ _ _ _ ended ended'
    obtain ⟨consumers, cursors⟩ := twins.framed
    refine ⟨equal, { twins with framed := ⟨rfl, rfl⟩ }, alike.named, ?_⟩
    intro consumerId member
    change consumerId ∈ world.view.consumers at member
    change _ = world.view.consumerSequence consumerId ∧
      _ = world.view.consumerSequence consumerId
    rw [cursors]
    rw [consumers] at member
    exact alike.consumers consumerId member

theorem ofConsumer_alike {session twin : Session interface} (alike : session.Alike twin)
    {consumerId : ConsumerId} {taken : Taken interface (Outcome interface)}
    {first second : ConsumerProcess interface Unit (Outcome interface)}
    (moves : consumerId ∈ session.world.consumers → taken.Moves consumerId
      (session.world.cursor consumerId) session.world.view)
    (settles : consumerId ∈ session.world.consumers →
      Settles passes (Stands (session.consumer consumerId) session.world.view) first
        (Gives taken (session.consumer consumerId)))
    (settles' : consumerId ∈ session.world.consumers →
      Settles .reliable (Stands (twin.consumer consumerId) session.world.view) second
        (Gives taken (twin.consumer consumerId))) :
    Work.Alike passes session twin (.ofConsumer consumerId first)
      (.ofConsumer consumerId second) := by
  have attached : twin.world.consumers = session.world.consumers :=
    congrArg View.consumers alike.view
  constructor
  · constructor
    · rintro ⟨_, _, member, _⟩
      obtain ⟨⟨⟨outcome, consumer, ⟨⟩⟩, world, ended⟩, _settled⟩ :=
        settles' member (twin.consumer consumerId, ()) twin.world ⟨rfl, alike.view⟩
      exact ⟨outcome, _, attached ▸ member, consumer, world, ended, rfl⟩
    · rintro ⟨_, _, listed, _⟩
      have member : consumerId ∈ session.world.consumers := attached ▸ listed
      obtain ⟨⟨⟨outcome, consumer, ⟨⟩⟩, world, ended⟩, _settled⟩ :=
        settles member (session.consumer consumerId, ()) session.world ⟨rfl, rfl⟩
      exact ⟨outcome, _, member, consumer, world, ended, rfl⟩
  rintro outcome after outcome' after' ⟨member, consumer, world, ended, rfl⟩
    ⟨_member, consumer', world', ended', rfl⟩
  have settled := (settles member (session.consumer consumerId, ()) session.world
    ⟨rfl, rfl⟩).2.1
  have settled' := (settles' member (twin.consumer consumerId, ()) twin.world
    ⟨rfl, alike.view⟩).2.1
  have moves := moves member
  obtain ⟨same, left, seen⟩ := settled _ _ ended
  obtain ⟨same', left', seen'⟩ := settled' _ _ ended'
  have twins := alike.producers
  have consumers : world.view.consumers = session.world.view.consumers := by
    rw [seen]
    exact moves.consumers
  have uninitialised : world.view.uninitialised = session.world.view.uninitialised := by
    rw [seen]
    exact moves.uninitialised
  have cursor : world.view.consumerSequence =
      Function.update session.world.view.consumerSequence consumerId taken.sequence := by
    rw [seen]
    exact moves.cursor
  have published : world.view.producerSequence = session.world.view.producerSequence := by
    rw [seen]
    exact moves.producerSequence
  have behind := twins.behind
  refine ⟨same.trans same'.symm, { twins with
    seen := seen'.trans seen.symm
    framed := ⟨rfl, rfl⟩
    everyone := by rw [consumers]; exact twins.everyone
    everyoneElse := by rw [consumers]; exact twins.everyoneElse
    attached := by rw [consumers]; exact twins.attached
    initialised := by rw [uninitialised]; exact twins.initialised
    placed := by rw [published]; exact twins.placed
    behind := ?_ }, ?_, ?_⟩
  · intro other listed
    rw [consumers] at listed
    rw [cursor, published]
    by_cases here : other = consumerId
    · subst here
      have low := (behind other member).1
      have forward : session.world.view.consumerSequence other ≤ taken.sequence := moves.forward
      rw [Function.update_self]
      exact ⟨Int.le_trans low forward, moves.visible⟩
    · rw [Function.update_of_ne here]
      exact behind other listed
  · intro other
    by_cases here : other = consumerId
    · subst here
      simp only [Function.update_self]
      rw [show consumer = _ from left, show consumer' = _ from left']
      exact alike.named other
    · simp only [Function.update_of_ne here]
      exact alike.named other
  · intro other listed
    change other ∈ world.view.consumers at listed
    rw [consumers] at listed
    change _ = world.view.consumerSequence other ∧ _ = world.view.consumerSequence other
    rw [cursor]
    by_cases here : other = consumerId
    · subst here
      simp only [Function.update_self]
      rw [show consumer = _ from left, show consumer' = _ from left']
      exact ⟨rfl, rfl⟩
    · simp only [Function.update_of_ne here]
      exact alike.consumers other listed

theorem Session.Alike.fits {session twin : Session interface} (alike : session.Alike twin)
    {consumerId : ConsumerId} (member : consumerId ∈ session.world.consumers) :
    Fits (session.consumer consumerId) session.world.view ∧
      Fits (twin.consumer consumerId) session.world.view := by
  have placed := alike.producers.placed
  have inRange := alike.producers.inRange
  obtain ⟨low, behind⟩ := alike.producers.behind consumerId member
  obtain ⟨stands, stands'⟩ := alike.consumers consumerId member
  change -1 ≤ session.world.cursor consumerId at low
  change session.world.cursor consumerId ≤ _ at behind
  have initialised : ∀ other, other ∉ session.world.view.uninitialised := by
    rw [alike.producers.initialised]
    exact fun _ => List.not_mem_nil
  have small : session.world.view.producerSequence < 2 ^ 63 - 1 := by
    simp only [InRange] at inRange
    omega
  exact ⟨⟨initialised _, stands ▸ low, stands ▸ behind, small⟩,
    initialised _, stands' ▸ low, stands' ▸ behind, small⟩

/-- An operation that settles on any ring in which its consumer fits, in what it is given. -/
theorem consumer_alike (ring : RingSize) (processId otherId : Nat) {α : Type}
    {session twin : Session interface} (alike : session.Alike twin) (consumerId : ConsumerId)
    (change : α → Outcome interface)
    (operation : Transport → ConsumerProcess interface Unit α)
    (taken : ConsumerId → Int → View interface → Taken interface α)
    (moves : ∀ view : View interface, view.consumerSequence consumerId ≤ view.producerSequence →
      (taken consumerId (view.consumerSequence consumerId) view).Moves consumerId
        (view.consumerSequence consumerId) view)
    (settles : ∀ (passes : DirectoryPasses) (transport : Transport) (consumer : Consumer)
      (view : View interface), transport.ring = ring → Fits consumer view →
      Settles passes (Stands consumer view) (operation transport)
        (Gives (taken consumer.consumerId consumer.lastProcessedSequence view) consumer)) :
    Work.Alike passes session twin
      (.ofConsumer consumerId (change <$> operation (sharedMemoryOf ring processId)))
      (.ofConsumer consumerId (change <$> operation (mappedOf ring otherId))) := by
  obtain ⟨named, named'⟩ := alike.named consumerId
  refine ofConsumer_alike alike (fun member => (moves session.world.view
    (alike.producers.behind consumerId member).2).map change) (fun member => ?_)
    (fun member => ?_)
  · have given := settles passes (sharedMemoryOf ring processId) _ _ rfl (alike.fits member).1
    rw [named, (alike.consumers consumerId member).1] at given
    exact gives_map change given
  · have given := settles .reliable (mappedOf ring otherId) _ _ rfl (alike.fits member).2
    rw [named', (alike.consumers consumerId member).2] at given
    exact gives_map change given

theorem performs_alike (ring : RingSize) (processId otherId : Nat)
    {session twin : Session interface} (alike : session.Alike twin)
    (operation : Operation interface) :
    Work.Alike passes session twin (operation.work (sharedMemoryOf ring processId))
      (operation.work (mappedOf ring otherId)) := by
  cases operation with
  | tryPublish update => exact ofProducer_alike alike ((tryPublish_agree update).map _)
  | tryBatchPublish n updateFn =>
      exact ofProducer_alike alike ((tryBatchPublish_agree n updateFn).map _)
  | minGatingSequence =>
      exact ofProducer_alike alike ((gatingSequence_agree ring processId otherId).map _)
  | isConsumed sequence => exact ofProducer_alike alike ((isConsumed_agree sequence).map _)
  | consumerSequence consumerId =>
      exact ofProducer_alike alike ((consumerSequence_agree consumerId).map _)
  | lastPublishedSequence => exact ofProducer_alike alike (lastPublishedSequence_agree.map _)
  | tryConsumeNext consumerId =>
      exact consumer_alike ring processId otherId alike consumerId _
        (fun transport => Consumer.tryConsumeNext transport) (polled ring)
        (fun _ => polled_moves ring consumerId) (fun passes transport consumer view same fits =>
          same ▸ polled_settles transport (tryConsumeNext_settles transport fits))
  | tryConsumeNextLeased consumerId =>
      exact consumer_alike ring processId otherId alike consumerId _
        (fun transport => Consumer.tryConsumeNextLeased transport useLease) (polled ring)
        (fun _ => polled_moves ring consumerId) (fun passes transport consumer view same fits =>
          same ▸ polled_settles transport (tryConsumeNextLeased_settles transport fits))
  | processAvailable consumerId =>
      exact consumer_alike ring processId otherId alike consumerId _
        (fun transport => Consumer.processAvailable transport Consumer.hold) (drained ring)
        (fun _ => drained_moves ring consumerId) (fun passes transport consumer view same fits =>
          same ▸ (processAvailable_settles transport fits).conseq (fun _ _ held => held)
            (fun _ _ _ drains => drains.gives))
  | currentSequence consumerId =>
      exact consumer_alike ring processId otherId alike consumerId _
        (fun _ => Consumer.currentSequence) (fun _ => stood) (fun _ => stood_moves consumerId)
        (fun passes transport consumer view _same _fits => currentSequence_settles)

theorem executes_alike (ring : RingSize) (processId otherId : Nat)
    (operations : List (Operation interface)) {session twin : Session interface}
    (alike : session.Alike twin) :
    ((∃ outcomes after, Executes (sharedMemoryOf ring processId) passes session operations
        outcomes after) ↔
      ∃ outcomes after, Executes (mappedOf ring otherId) .reliable twin operations
        outcomes after) ∧
    ∀ outcomes after outcomes' after',
      Executes (sharedMemoryOf ring processId) passes session operations outcomes after →
      Executes (mappedOf ring otherId) .reliable twin operations outcomes' after' →
      outcomes = outcomes' ∧ after.Alike after' := by
  induction operations generalizing session twin with
  | nil =>
      constructor
      · exact ⟨fun _ => ⟨[], twin, rfl, rfl⟩, fun _ => ⟨[], session, rfl, rfl⟩⟩
      · rintro _ _ _ _ ⟨rfl, rfl⟩ ⟨rfl, rfl⟩
        exact ⟨rfl, alike⟩
  | cons operation rest ih =>
      obtain ⟨both, same⟩ := performs_alike ring processId otherId alike operation
      constructor
      · constructor
        · rintro ⟨_, after, outcome, middle, later, performed, executed, rfl⟩
          obtain ⟨outcome', middle', performed'⟩ := both.mp ⟨_, _, performed⟩
          have between := (same _ _ _ _ performed performed').2
          obtain ⟨later', after', executed'⟩ := (ih between).1.mp ⟨_, _, executed⟩
          exact ⟨_, after', outcome', middle', later', performed', executed', rfl⟩
        · rintro ⟨_, after, outcome, middle, later, performed, executed, rfl⟩
          obtain ⟨outcome', middle', performed'⟩ := both.mpr ⟨_, _, performed⟩
          have between := (same _ _ _ _ performed' performed).2
          obtain ⟨later', after', executed'⟩ := (ih between).1.mpr ⟨_, _, executed⟩
          exact ⟨_, after', outcome', middle', later', performed', executed', rfl⟩
      · rintro _ after _ after' ⟨outcome, middle, later, performed, executed, rfl⟩
          ⟨outcome', middle', later', performed', executed', rfl⟩
        obtain ⟨equal, between⟩ := same _ _ _ _ performed performed'
        obtain ⟨sameLater, alikeAfter⟩ := (ih between).2 _ _ _ _ executed executed'
        exact ⟨by rw [equal, sameLater], alikeAfter⟩

section Start

variable {slots : Nat → interface.Value} {producer twin : Producer} {consumerIds : List ConsumerId}
  {ring : RingSize} {processId otherId : Nat}

theorem start_alike (slots : Nat → interface.Value) (counters : ConsumerCounters)
    (fresh : producer.Fresh (sharedMemoryOf ring processId))
    (fresh' : twin.Fresh (mappedOf ring otherId)) (attached : consumerIds ≠ [])
    (known : ∀ consumerId, consumerId ∈ consumerIds ↔
      consumerId ∈ producer.consumerBarrier.consumerCursors)
    (known' : ∀ consumerId, consumerId ∈ consumerIds ↔
      consumerId ∈ twin.consumerBarrier.consumerCursors) :
    (Session.start slots producer consumerIds counters).Alike
      (Session.start slots twin consumerIds counters) :=
  { producers :=
      { seen := rfl
        framed := ⟨rfl, rfl⟩
        sequence := fresh'.sequence.trans fresh.sequence.symm
        clear := fresh'.sequenceClearOfConsumers.trans fresh.sequenceClearOfConsumers.symm
        everyone := known
        everyoneElse := known'
        attached
        initialised := rfl
        placed := by
          change (0 : Int) = producer.sequence + 0
          rw [fresh.sequence]
          rfl
        inRange := by
          change InRange producer.sequence
          rw [fresh.sequence]
          decide
        behind := fun _ _ => ⟨Int.le_refl _, Int.le_refl _⟩ }
    named := fun _ => ⟨rfl, rfl⟩
    consumers := fun _ _ => ⟨rfl, rfl⟩ }

end Start

/-! ### Runs of operations -/

section Replay

variable {transport : Transport}

def Work.replay (passes : DirectoryPasses) (session : Session interface)
    (oracles : List (Oracle interface)) : Work interface →
      Option (Outcome interface × Session interface)
  | .ofProducer process =>
      ((solitary interface passes).alone oracles (process session.producer) session.world).map
        fun ended => (ended.1.1, { session with
          producer := ended.1.2
          world := ended.2 })
  | .ofConsumer consumerId process =>
      if consumerId ∈ session.world.consumers then
        ((solitary interface passes).alone oracles (process (session.consumer consumerId, ()))
          session.world).map
          fun ended => (ended.1.1, { session with
            consumer := Function.update session.consumer consumerId ended.1.2.1
            world := ended.2 })
      else none

def replay (transport : Transport) (passes : DirectoryPasses) : Session interface →
    List (Operation interface × List (Oracle interface)) →
      Option (List (Outcome interface) × Session interface)
  | session, [] => some ([], session)
  | session, (operation, oracles) :: rest =>
      match (operation.work transport).replay passes session oracles with
      | none => none
      | some (outcome, middle) =>
          (replay transport passes middle rest).map fun later => (outcome :: later.1, later.2)

theorem Work.runs_of_replay {session after : Session interface} {outcome : Outcome interface}
    {oracles : List (Oracle interface)} {work : Work interface}
    (replayed : work.replay passes session oracles = some (outcome, after)) :
    work.Runs passes session outcome after := by
  cases work with
  | ofProducer process =>
      obtain ⟨⟨⟨ended, producer⟩, world⟩, alone, same⟩ := Option.map_eq_some_iff.mp replayed
      cases same
      exact ⟨producer, world, ⟨oracles, alone⟩, rfl⟩
  | ofConsumer consumerId process =>
      simp only [replay] at replayed
      split at replayed
      · rename_i member
        obtain ⟨⟨⟨ended, consumer, ⟨⟩⟩, world⟩, alone, same⟩ :=
          Option.map_eq_some_iff.mp replayed
        cases same
        exact ⟨member, consumer, world, ⟨oracles, alone⟩, rfl⟩
      · cases replayed

theorem executes_of_replay {session after : Session interface}
    {outcomes : List (Outcome interface)}
    {operations : List (Operation interface × List (Oracle interface))}
    (replayed : replay transport passes session operations = some (outcomes, after)) :
    Executes transport passes session (operations.map Prod.fst) outcomes after := by
  induction operations generalizing session outcomes with
  | nil =>
      cases replayed
      exact ⟨rfl, rfl⟩
  | cons operation rest ih =>
      obtain ⟨operation, oracles⟩ := operation
      simp only [replay] at replayed
      split at replayed
      · cases replayed
      · rename_i outcome middle performed
        obtain ⟨⟨later, last⟩, followed, same⟩ := Option.map_eq_some_iff.mp replayed
        cases same
        exact ⟨outcome, middle, later, Work.runs_of_replay performed, ih followed, rfl⟩

def throughOneSlot (scan : List (Oracle (plain Nat))) :
    List (Operation (plain Nat) × List (Oracle (plain Nat))) :=
  [(.tryPublish fun _ => some 7, [.silent, .silent]),
    (.tryConsumeNext "reader", [.silent, .silent, .silent]),
    (.tryPublish fun _ => some 8, scan ++ [.silent, .silent, .silent]),
    (.tryPublish fun _ => some 9, scan ++ [.silent])]

abbrev oneReader (transport : Transport) : Session (plain Nat) :=
  Session.start (fun _ => (0 : Nat)) (knowing transport ["reader"]) ["reader"] noCounters

end Replay

end Ring
