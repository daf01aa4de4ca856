/-
What the operations of a consumer come to.

An assertion about a consumer that survives its looks at the ring, and that a commit
breaks only until its events are counted, holds again after every operation.
-/

import Myelon.Ring.Contract

namespace Ring

open Interleaving

def Action.uses {interface : Interface} (consumerId : ConsumerId) : Action interface → Bool
  | .loadProducerSequence => true
  | .readSlot reader _ _ => decide (reader = consumerId)
  | .rereadSlot reader _ _ => decide (reader = consumerId)
  | .readsAgain reader => decide (reader = consumerId)
  | .handOver reader _ => decide (reader = consumerId)
  | .pause => true
  | .panic => true
  | .addCounter counter _ => decide (counter = .consumerEmptySpins consumerId)
  | .recordMax counter _ => decide (counter = .consumerLagMax consumerId)
  | _ => false

variable {transport : Transport} {application : Application transport}
variable {passes : DirectoryPasses} {contract : Contract (application.machine passes)}
variable {consumerId : ConsumerId} {α : Type}

def Noting (about : Consumer → Prop)
    (pre : Consumer × application.App → World application.interface → Prop)
    (self : Consumer × application.App) (world : World application.interface) : Prop :=
  about self.1 ∧ pre self world

def Anyhow (_ : Consumer) : Prop := True

def Next (sequence : Int) (consumer : Consumer) : Prop :=
  consumer.lastProcessedSequence + 1 = sequence

structure Batch (lower upper : Int) : Prop where
  ordered : lower ≤ upper
  first : InRange lower
  last : InRange upper

def Available : Option (Int × Int) → Consumer → Prop
  | none, _ => True
  | some (lower, upper), consumer => Batch lower upper ∧ Next lower consumer

structure Consuming (contract : Contract (application.machine passes)) (consumerId : ConsumerId)
    (pre : Consumer × application.App → World application.interface → Prop)
    (owed : Int → Int → Consumer × application.App → World application.interface → Prop) :
    Prop where
  own : ∀ self world, pre self world → self.1.consumerId = consumerId
  stable : ∀ self before after, contract.rely (.consumer consumerId) before after →
    pre self before → pre self after
  allowed : ∀ self action world, action.uses consumerId = true →
    contract.guarantee (.consumer consumerId) self action world
  performed : ∀ self action oracle before result after, action.uses consumerId = true →
    perform passes action oracle before = some (result, after) → pre self before → pre self after
  published : ∀ world, contract.invariant world → InRange world.producerSequence
  /-- The commit of a batch, of which the events are still to be counted. -/
  commits : ∀ {lower upper}, Batch lower upper →
    contract.Triple (.consumer consumerId) (Noting (Next lower) pre)
      (Consumer.publishConsumedSequence upper) (fun _ => owed lower upper)
  counts : ∀ {lower upper}, Batch lower upper →
    contract.Triple (.consumer consumerId) (owed lower upper)
      (Consumer.count .eventsConsumed (·.eventsConsumed) (upper - lower + 1).toNat)
      (fun _ => pre)

namespace Consuming

variable {pre : Consumer × application.App → World application.interface → Prop}
variable {owed : Int → Int → Consumer × application.App → World application.interface → Prop}

abbrev Notes (contract : Contract (application.machine passes)) (consumerId : ConsumerId)
    (about : Consumer → Prop)
    (pre : Consumer × application.App → World application.interface → Prop)
    (routine : ConsumerProcess application.interface application.App α) : Prop :=
  contract.Triple (.consumer consumerId) (Noting about pre) routine (fun _ => Noting about pre)

abbrev Keeps (contract : Contract (application.machine passes)) (consumerId : ConsumerId)
    (pre : Consumer × application.App → World application.interface → Prop)
    (routine : ConsumerProcess application.interface application.App α) : Prop :=
  contract.Triple (.consumer consumerId) pre routine (fun _ => pre)

theorem Notes.keeps {routine : ConsumerProcess application.interface application.App α}
    (notes : Notes contract consumerId Anyhow pre routine) :
    Keeps contract consumerId pre routine :=
  notes.conseq (fun _ _ held => ⟨trivial, held⟩) (fun _ _ _ held => held.2)

variable (consuming : Consuming contract consumerId pre owed) (about : Consumer → Prop)

include consuming

theorem acted {action : Action application.interface}
    {post : action.Result → Consumer × application.App → World application.interface → Prop}
    (uses : action.uses consumerId = true)
    (outcome : ∀ self world oracle result after, contract.invariant world →
      Noting about pre self world → Noting about pre self after →
      perform passes action oracle world = some (result, after) → post result self after) :
    contract.Triple (.consumer consumerId) (Noting about pre) (Ring.act action) post := by
  apply Contract.Triple.perform
  intro self world before held relied holds _met
  have here := consuming.stable self world before relied held.2
  refine ⟨consuming.allowed _ _ _ uses, fun oracle result after performed => ?_⟩
  exact outcome self before oracle result after holds ⟨held.1, here⟩
    ⟨held.1, consuming.performed self action oracle before result after uses performed here⟩
    performed

theorem act {action : Action application.interface} (uses : action.uses consumerId = true) :
    Notes contract consumerId about pre (Ring.act action) :=
  consuming.acted about uses (fun _ _ _ _ _ _ _ later _ => later)

theorem current :
    contract.Triple (.consumer consumerId) (Noting about pre) Consumer.current
      (fun consumer self world => consumer = self.1 ∧ consumer.consumerId = consumerId ∧
        Noting about pre self world) := by
  apply Contract.Triple.bind Contract.Triple.get
  intro self
  apply Contract.Triple.pure
  rintro self world ⟨rfl, held⟩
  exact ⟨rfl, consuming.own _ _ held.2, held⟩

theorem knowing {rest : Consumer → ConsumerProcess application.interface application.App α}
    {post : α → Consumer × application.App → World application.interface → Prop}
    (goesOn : ∀ consumer : Consumer, consumer.consumerId = consumerId →
      contract.Triple (.consumer consumerId) (Noting about pre) (rest consumer) post) :
    contract.Triple (.consumer consumerId) (Noting about pre) (Consumer.current >>= rest) post := by
  apply Contract.Triple.bind (consuming.current about)
  intro consumer
  apply Contract.Triple.given (consumer.consumerId = consumerId) (fun _ _ held => held.2.1)
  intro same
  exact (goesOn consumer same).strengthen (fun _ _ held => held.2.2)

theorem panics
    {post : α → Consumer × application.App → World application.interface → Prop} :
    contract.Triple (.consumer consumerId) (Noting about pre)
      (panic' : ConsumerProcess application.interface application.App α) post :=
  Contract.Triple.bind (consuming.act about rfl)
    (fun impossible => nomatch (impossible : Empty))

theorem expect {condition : Prop} [Decidable condition] :
    Notes contract consumerId about pre (Ring.expect condition) := by
  unfold Ring.expect
  split
  · exact Contract.Triple.pure () (fun _ _ held => held)
  · exact consuming.panics about

theorem checked (value : Int) :
    contract.Triple (.consumer consumerId) (Noting about pre) (Ring.checked value)
      (fun result self world => (result = value ∧ InRange value) ∧
        Noting about pre self world) := by
  unfold Ring.checked
  split
  · rename_i inRange
    exact Contract.Triple.pure value (fun _ _ held => ⟨⟨rfl, inRange⟩, held⟩)
  · exact consuming.panics about

theorem countSpin :
    Notes contract consumerId about pre
      (Consumer.count .consumerEmptySpins (·.consumerEmptySpins) 1) := by
  apply consuming.knowing about
  rintro consumer rfl
  exact onlyIf_triple (fun _ => consuming.act about (by exact decide_eq_true rfl))
    (fun _ _ _ held => held)

theorem recordLag (upper lower : Int) :
    Notes contract consumerId about pre (Consumer.recordLag upper lower) := by
  apply consuming.knowing about
  rintro consumer rfl
  split
  · apply Contract.Triple.bind (consuming.checked about _)
    intro lag
    exact (consuming.act about (by exact decide_eq_true rfl)).strengthen (fun _ _ held => held.2)
  · exact Contract.Triple.pure () (fun _ _ held => held)

theorem availableBatchBounds :
    contract.Triple (.consumer consumerId) pre (Consumer.availableBatchBounds transport)
      (fun bounds => Noting (Available bounds) pre) := by
  apply Contract.Triple.bind ((consuming.current Anyhow).strengthen
    (fun _ _ held => ⟨trivial, held⟩))
  intro consumer
  apply Contract.Triple.bind ((consuming.expect (fun now => consumer = now)).strengthen
    (fun _ _ held => ⟨held.1, held.2.2.2⟩))
  intro _
  have loads : contract.Triple (.consumer consumerId)
      (Noting (fun now => consumer = now) pre) (Ring.act .loadProducerSequence)
      (fun (producerSequence : Int) self world => InRange producerSequence ∧
        Noting (fun now => consumer = now) pre self world) := by
    apply consuming.acted _ rfl
    intro self world oracle result after holds held later performed
    cases performed
    exact ⟨consuming.published world holds, later⟩
  apply Contract.Triple.bind loads
  intro (producerSequence : Int)
  apply Contract.Triple.given (InRange producerSequence) (fun _ _ held => held.1)
  intro inRange
  apply Contract.Triple.bind ((consuming.checked _ _).strengthen (fun _ _ held => held.2))
  intro nextSequence
  apply Contract.Triple.pure
  rintro self world ⟨⟨rfl, first⟩, rfl, held⟩
  refine ⟨?_, held⟩
  split
  · trivial
  · rename_i notAfter
    exact ⟨⟨Int.not_lt.mp notAfter, first, inRange⟩, rfl⟩

theorem borrow (sequence : Int) :
    Notes contract consumerId about pre (Consumer.borrow transport sequence) := by
  have gets : Notes contract consumerId about pre (transport.ring.get sequence) :=
    Contract.Triple.bind (consuming.expect about) (fun _ =>
      Contract.Triple.pure _ (fun _ _ held => held))
  apply Contract.Triple.bind gets
  intro slot
  apply consuming.knowing about
  rintro consumer rfl
  apply Contract.Triple.bind (consuming.act about (by exact decide_eq_true rfl))
  intro value
  exact Contract.Triple.pure _ (fun _ _ held => held)

theorem hold (event : EventRef application.interface) :
    Notes contract consumerId about pre (Consumer.hold event) := by
  apply Contract.Triple.repeat' (fun _ => Noting about pre)
  intro round
  apply consuming.knowing about
  rintro consumer rfl
  apply Contract.Triple.bind (consuming.act about (by exact decide_eq_true rfl))
  intro (again : Bool)
  split
  · apply Contract.Triple.bind (consuming.act about (by exact decide_eq_true rfl))
    intro _
    exact Contract.Triple.pure _ (fun _ _ held => held)
  · exact Contract.Triple.pure _ (fun _ _ held => held)

omit consuming in
theorem found {bounds : Option (Int × Int)}
    {rest : Option (Int × Int) → ConsumerProcess application.interface application.App α}
    {post : α → Consumer × application.App → World application.interface → Prop}
    (none : contract.Triple (.consumer consumerId) (Noting Anyhow pre) (rest none) post)
    (some : ∀ lower upper, Batch lower upper → contract.Triple (.consumer consumerId)
      (Noting (Next lower) pre) (rest (some (lower, upper))) post) :
    contract.Triple (.consumer consumerId) (Noting (Available bounds) pre) (rest bounds) post := by
  match bounds with
  | .none => exact none
  | .some (lower, upper) =>
      apply Contract.Triple.given (Batch lower upper) (fun _ _ held => held.1.1)
      intro batch
      exact (some lower upper batch).strengthen (fun _ _ held => ⟨held.1.2, held.2⟩)

/-! ### Single events -/

variable {lower upper : Int}

omit consuming in
theorem Batch.single (batch : Batch lower upper) : Batch lower lower :=
  ⟨Int.le_refl _, batch.first, batch.first⟩

theorem countsOne (batch : Batch lower upper) :
    contract.Triple (.consumer consumerId) (owed lower lower)
      (Consumer.count .eventsConsumed (·.eventsConsumed) 1) (fun _ => pre) := by
  have counts := consuming.counts (Batch.single batch)
  rw [Int.sub_self] at counts
  exact counts

theorem tryConsumeNext :
    Keeps contract consumerId pre (Consumer.tryConsumeNext transport) := by
  apply Contract.Triple.bind consuming.availableBatchBounds
  intro bounds
  apply found
  · apply Contract.Triple.bind (consuming.countSpin Anyhow)
    intro _
    exact Contract.Triple.pure none (fun _ _ held => held.2)
  · intro lower upper batch
    apply Contract.Triple.bind (consuming.borrow (Next lower) lower)
    intro event
    apply Contract.Triple.bind (consuming.commits (Batch.single batch))
    intro _
    apply Contract.Triple.bind (consuming.countsOne batch)
    intro _
    apply Contract.Triple.bind (consuming.recordLag Anyhow upper lower).keeps
    intro _
    exact Contract.Triple.pure _ (fun _ _ held => held)

variable {useLease : EventRef application.interface →
  ConsumerProcess application.interface application.App α}

theorem lease (batch : Batch lower upper)
    (uses : ∀ event about, Notes contract consumerId about pre (useLease event)) :
    contract.Triple (.consumer consumerId) (Noting (Next lower) pre)
      (Consumer.lease transport lower useLease) (fun _ => pre) := by
  apply Contract.Triple.bind (consuming.borrow (Next lower) lower)
  intro event
  apply Contract.Triple.bind (uses event (Next lower))
  intro result
  apply Contract.Triple.bind (consuming.commits (Batch.single batch))
  intro _
  apply Contract.Triple.bind (consuming.countsOne batch)
  intro _
  exact Contract.Triple.pure _ (fun _ _ held => held)

theorem tryConsumeNextLeased
    (uses : ∀ event about, Notes contract consumerId about pre (useLease event)) :
    Keeps contract consumerId pre (Consumer.tryConsumeNextLeased transport useLease) := by
  apply Contract.Triple.bind consuming.availableBatchBounds
  intro bounds
  apply found
  · apply Contract.Triple.bind (consuming.countSpin Anyhow)
    intro _
    exact Contract.Triple.pure none (fun _ _ held => held.2)
  · intro lower upper batch
    apply Contract.Triple.bind (consuming.recordLag (Next lower) upper lower)
    intro _
    apply Contract.Triple.bind (consuming.lease batch uses)
    intro result
    exact Contract.Triple.pure _ (fun _ _ held => held)

theorem consumeNext : Keeps contract consumerId pre (Consumer.consumeNext transport) := by
  apply Contract.Triple.repeat' (fun _ => pre)
  intro round
  apply Contract.Triple.bind consuming.tryConsumeNext
  intro consumed
  cases consumed with
  | some event => exact Contract.Triple.pure _ (fun _ _ held => held)
  | none =>
      apply Contract.Triple.bind (consuming.act Anyhow rfl).keeps
      intro _
      exact Contract.Triple.pure _ (fun _ _ held => held)

theorem consumeNextLeased
    (uses : ∀ event about, Notes contract consumerId about pre (useLease event)) :
    Keeps contract consumerId pre (Consumer.consumeNextLeased transport useLease) := by
  apply Contract.Triple.repeat' (fun _ => pre)
  intro round
  apply Contract.Triple.bind consuming.availableBatchBounds
  intro bounds
  apply found
  · apply Contract.Triple.bind (consuming.act Anyhow rfl)
    intro _
    exact Contract.Triple.pure _ (fun _ _ held => held.2)
  · intro lower upper batch
    apply Contract.Triple.bind (consuming.lease batch uses)
    intro result
    exact Contract.Triple.pure _ (fun _ _ held => held)

theorem processNextBlocking
    {processor : application.interface.Value → Int → Bool →
      ConsumerProcess application.interface application.App Unit}
    (uses : ∀ value sequence endOfBatch about,
      Notes contract consumerId about pre (processor value sequence endOfBatch)) :
    Keeps contract consumerId pre (Consumer.processNextBlocking transport processor) := by
  apply Contract.Triple.bind consuming.consumeNext
  intro event
  have ends : Notes contract consumerId Anyhow pre
      (Consumer.isEndOfBatch : ConsumerProcess application.interface application.App Bool) := by
    apply consuming.knowing
    intro consumer _same
    apply Contract.Triple.bind (consuming.act Anyhow rfl)
    intro producerSequence
    exact Contract.Triple.pure _ (fun _ _ held => held)
  apply Contract.Triple.bind ends.keeps
  intro endOfBatch
  apply Contract.Triple.bind (uses _ _ _ Anyhow).keeps
  intro _
  exact Contract.Triple.pure _ (fun _ _ held => held)

/-! ### Batches -/

variable {processor : EventRef application.interface → Bool →
  ConsumerProcess application.interface application.App Unit}

omit consuming in
theorem length_sequences (lower upper : Int) :
    (Consumer.sequences lower upper).length = (upper - lower + 1).toNat := by
  unfold Consumer.sequences
  rw [List.length_map, List.length_range]

theorem processSnapshotBatch (batch : Batch lower upper)
    (uses : ∀ event endOfBatch about,
      Notes contract consumerId about pre (processor event endOfBatch)) :
    contract.Triple (.consumer consumerId) (Noting (Next lower) pre)
      (Consumer.processSnapshotBatchWithEob transport lower upper processor)
      (fun _ => pre) := by
  apply Contract.Triple.bind (consuming.recordLag (Next lower) upper lower)
  intro _
  have event : ∀ sequence : Int, Notes contract consumerId (Next lower) pre
      (Consumer.borrow transport sequence >>= fun event =>
        processor event (decide (sequence = upper))) :=
    fun sequence => Contract.Triple.bind (consuming.borrow (Next lower) sequence)
      (fun event => uses event _ _)
  apply Contract.Triple.bind (Contract.Triple.each event)
  intro _
  apply Contract.Triple.bind (consuming.commits batch)
  intro _
  apply Contract.Triple.bind
  · rw [length_sequences]
    exact consuming.counts batch
  · intro _
    exact Contract.Triple.pure _ (fun _ _ held => held)

theorem processBatches (processed : Nat)
    (uses : ∀ event endOfBatch about,
      Notes contract consumerId about pre (processor event endOfBatch)) :
    Keeps contract consumerId pre (Consumer.processBatches transport processed processor) := by
  apply Contract.Triple.repeat' (fun _ => pre)
  intro round
  apply Contract.Triple.bind consuming.availableBatchBounds
  intro bounds
  apply found
  · exact Contract.Triple.pure _ (fun _ _ held => held.2)
  · intro lower upper batch
    apply Contract.Triple.bind (consuming.processSnapshotBatch batch uses)
    intro more
    exact Contract.Triple.pure _ (fun _ _ held => held)

theorem processAvailableBlocking
    (uses : ∀ event endOfBatch about,
      Notes contract consumerId about pre (processor event endOfBatch)) :
    Keeps contract consumerId pre (Consumer.processAvailableBlocking transport processor) := by
  apply Contract.Triple.through (fun _ => pre)
  · apply Contract.Triple.repeat' (fun _ => pre)
    intro round
    apply Contract.Triple.bind consuming.availableBatchBounds
    intro bounds
    apply found
    · apply Contract.Triple.bind (consuming.act Anyhow rfl)
      intro _
      exact Contract.Triple.pure _ (fun _ _ held => held.2)
    · intro lower upper batch
      apply Contract.Triple.bind (consuming.processSnapshotBatch batch uses)
      intro more
      exact Contract.Triple.pure _ (fun _ _ held => held)
  · intro first
    exact consuming.processBatches first uses

theorem processAvailable
    {processor : EventRef application.interface →
      ConsumerProcess application.interface application.App Unit}
    (uses : ∀ event about, Notes contract consumerId about pre (processor event)) :
    Keeps contract consumerId pre (Consumer.processAvailable transport processor) := by
  unfold Consumer.processAvailable
  split
  · apply Contract.Triple.bind (consuming.processBatches 0 (fun event _ => uses event))
    intro processed
    apply Contract.Triple.through (fun _ => pre)
    · exact onlyIf_triple (fun _ => (consuming.countSpin Anyhow).keeps) (fun _ _ _ held => held)
    · intro _
      exact Contract.Triple.pure _ (fun _ _ held => held)
  · apply Contract.Triple.bind consuming.availableBatchBounds
    intro bounds
    apply found
    · exact Contract.Triple.pure _ (fun _ _ held => held.2)
    · intro lower upper batch
      exact consuming.processSnapshotBatch batch (fun event _ => uses event)

end Consuming

theorem Consuming.serves {Value : Type} {consumerCounters : ConsumerCounters}
    {contract : Contract ((plainApplication transport Value consumerCounters).machine passes)}
    {pre : Consumer × Unit → World (plain Value) → Prop}
    {owed : Int → Int → Consumer × Unit → World (plain Value) → Prop}
    (consuming : Consuming contract consumerId pre owed) (request : ConsumerRequest) :
    Consuming.Keeps contract consumerId pre (serveConsumer transport request) := by
  have held : ∀ (event : EventRef (plain Value)) (about : Consumer → Prop),
      Consuming.Notes contract consumerId about pre
        (Consumer.hold event >>= fun _ => pure event.sequence) :=
    fun event about => Contract.Triple.bind (consuming.hold about event) (fun _ =>
      Contract.Triple.pure _ (fun _ _ held => held))
  cases request with
  | tryConsumeNext => exact Contract.Triple.map consuming.tryConsumeNext
  | tryConsumeNextLeased => exact Contract.Triple.map (consuming.tryConsumeNextLeased held)
  | consumeNext => exact Contract.Triple.map consuming.consumeNext
  | consumeNextLeased => exact Contract.Triple.map (consuming.consumeNextLeased held)
  | processNextBlocking =>
      simp only [serveConsumer]
      split
      · exact Contract.Triple.map (consuming.processNextBlocking (fun _ _ _ _ =>
          Contract.Triple.pure () (fun _ _ held => held)))
      · exact Contract.Triple.pure _ (fun _ _ held => held)
  | processAvailable =>
      exact Contract.Triple.map (consuming.processAvailable
        (fun event about => consuming.hold about event))
  | processAvailableBlocking =>
      simp only [serveConsumer]
      split
      · exact Contract.Triple.map (consuming.processAvailableBlocking
          (fun event _ about => consuming.hold about event))
      · exact Contract.Triple.pure _ (fun _ _ held => held)

end Ring
