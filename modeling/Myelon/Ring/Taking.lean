/-
The consumers, one operation at a time.

With nobody else running, a consumer of either backend takes the first event that it has
still to consume, or all of them, and commits what it took.
-/

import Myelon.Ring.Solitary

namespace Ring

open Interleaving Delivery

variable {interface : Interface} {passes : DirectoryPasses} {view : View interface}

/-! ### Stretches of the ring -/

namespace View

def deliver (view : View interface) (consumerId : ConsumerId)
    (events : List (Int × interface.Value)) : View interface :=
  { view with
    delivered := Function.update view.delivered consumerId
      (view.delivered consumerId ++ events) }

def commit (view : View interface) (consumerId : ConsumerId) (sequence : Int) :
    View interface :=
  { view with
    consumerSequence := Function.update view.consumerSequence consumerId sequence }

def stretch (view : View interface) (ring : RingSize) (lower upper : Int) :
    List (Int × interface.Value) :=
  (Consumer.sequences lower upper).map fun sequence =>
    (sequence, view.slots (ring.index sequence))

def taken (view : View interface) (ring : RingSize) (consumerId : ConsumerId)
    (lower upper : Int) : View interface :=
  (view.deliver consumerId (view.stretch ring lower upper)).commit consumerId upper

theorem deliver_nil (view : View interface) (consumerId : ConsumerId) :
    view.deliver consumerId [] = view := by
  simp only [deliver, List.append_nil, Function.update_eq_self]

theorem deliver_append (view : View interface) (consumerId : ConsumerId)
    (first second : List (Int × interface.Value)) :
    (view.deliver consumerId first).deliver consumerId second =
      view.deliver consumerId (first ++ second) := by
  simp only [deliver, Function.update_self, Function.update_idem, List.append_assoc]

end View

theorem sequences_one (sequence : Int) : Consumer.sequences sequence sequence = [sequence] := by
  simp only [Consumer.sequences, Int.sub_self, Int.zero_add, Int.toNat_one, List.range_one,
    List.map_cons, List.map_nil, Int.natCast_zero, Int.add_zero]

theorem World.view_record (world : World interface) (consumerId : ConsumerId)
    (event : ConsumerEvent interface) :
    (world.record consumerId event).view = world.view.deliver consumerId (reads [event]) := by
  have delivered : (fun other => reads ((world.record consumerId event).events other)) =
      Function.update (fun other => reads (world.events other)) consumerId
        (reads (world.events consumerId) ++ reads [event]) := by
    funext other
    by_cases same : other = consumerId
    · subst same
      simp only [World.record, Function.update_self, reads_append]
    · simp only [World.record, Function.update_of_ne same]
  simp only [World.view, View.deliver, delivered]
  rfl

def Stands {App : Type} (consumer : Consumer) (view : View interface)
    (now : Consumer × App) (seen : View interface) : Prop :=
  now.1 = consumer ∧ seen = view

/-! ### The steps of a consumer -/

variable {App : Type} {consumer : Consumer}

theorem consumer_settles :
    Settles passes (Stands consumer view)
      (Consumer.current : ConsumerProcess interface App Consumer)
      (fun value now seen => value = consumer ∧ Stands consumer view now seen) := by
  apply Machine.Settles.bind Machine.Settles.get
  intro now
  apply Machine.Settles.pure
  rintro self world ⟨rfl, stands⟩
  exact ⟨stands.1, stands⟩

theorem count_settles (counter : ConsumerId → Counter) (attached : ConsumerCounters → Bool)
    (amount : Nat) :
    Settles passes (Stands consumer view)
      (Consumer.count counter attached amount : ConsumerProcess interface App Unit)
      (fun _ => Stands consumer view) := by
  apply Machine.Settles.bind consumer_settles
  intro now
  exact (settles_onlyIf (settles_addCounter _ _)).strengthen (fun _ _ held => held.2)

theorem recordLag_settles {upper lower : Int} (inRange : InRange (upper - lower)) :
    Settles passes (Stands consumer view)
      (Consumer.recordLag upper lower : ConsumerProcess interface App Unit)
      (fun _ => Stands consumer view) := by
  apply Machine.Settles.bind consumer_settles
  intro now
  split
  · apply Machine.Settles.bind ((checked_settles inRange).strengthen (fun _ _ held => held.2))
    intro lag
    exact (settles_quiet rfl (fun _ _ _ => ⟨.silent, _, _, rfl⟩)).strengthen
      (fun _ _ held => held.2)
  · exact Machine.Settles.pure () (fun _ _ held => held.2)

structure Fits (consumer : Consumer) (view : View interface) : Prop where
  initialised : consumer.consumerId ∉ view.uninitialised
  low : -1 ≤ consumer.lastProcessedSequence
  behind : consumer.lastProcessedSequence ≤ view.producerSequence
  small : view.producerSequence < 2 ^ 63 - 1

theorem availableBatchBounds_settles (transport : Transport) (fits : Fits consumer view) :
    Settles passes (Stands consumer view)
      (Consumer.availableBatchBounds transport : ConsumerProcess interface App _)
      (fun bounds now seen => bounds =
          (if consumer.lastProcessedSequence + 1 > view.producerSequence then none
          else some (consumer.lastProcessedSequence + 1, view.producerSequence)) ∧
        Stands consumer view now seen) := by
  have low := fits.low
  have behind := fits.behind
  have small := fits.small
  apply Machine.Settles.bind consumer_settles
  intro now
  apply Machine.Settles.given (now = consumer) (fun _ _ held => held.1)
  rintro rfl
  apply Machine.Settles.bind ((expect_settles (fun _ => low)).strengthen (fun _ _ held => held.2))
  intro _
  apply Machine.Settles.bind settles_loadProducerSequence
  intro producerSequence
  apply Machine.Settles.given (producerSequence = view.producerSequence)
  · rintro self world ⟨same, stands⟩
    rw [same, stands.2]
  rintro rfl
  have next : Settles passes (Stands now view)
      (checked (now.lastProcessedSequence + 1) : ConsumerProcess interface App Int)
      (fun result self seen => result = now.lastProcessedSequence + 1 ∧
        Stands now view self seen) := by
    apply checked_settles
    simp only [InRange]
    omega
  apply Machine.Settles.bind (next.strengthen (fun _ _ held => held.2))
  intro nextSequence
  apply Machine.Settles.pure
  rintro self world ⟨rfl, stands⟩
  exact ⟨rfl, stands⟩

theorem record_settles {action : Action interface} {result : action.Result}
    (consumerId : ConsumerId) (event : ConsumerEvent interface)
    (acts : ∀ (world : World interface), world.view = view → ∀ oracle,
      perform passes action oracle world = some (result, world.record consumerId event)) :
    Settles passes (Stands consumer view)
      (act action : ConsumerProcess interface App action.Result)
      (fun value now seen => value = result ∧
        Stands consumer (view.deliver consumerId (reads [event])) now seen) := by
  apply Machine.Settles.perform
  · intro now world stands
    exact ⟨.silent, _, _, acts world stands.2 .silent⟩
  · intro now world oracle value after stands performed
    change perform passes action oracle world = some (value, after) at performed
    rw [acts world stands.2 oracle] at performed
    cases performed
    refine ⟨rfl, stands.1, ?_⟩
    rw [World.view_record, stands.2]

theorem borrow_settles (transport : Transport) {sequence : Int} (positive : 0 ≤ sequence) :
    Settles passes (Stands consumer view)
      (Consumer.borrow transport sequence : ConsumerProcess interface App _)
      (fun event now seen => event =
          { sequence
            slot := transport.ring.index sequence
            value := view.slots (transport.ring.index sequence) } ∧
        Stands consumer (view.deliver consumer.consumerId
          [(sequence, view.slots (transport.ring.index sequence))]) now seen) := by
  have pointer : Settles passes (Stands consumer view)
      (transport.ring.get sequence : ConsumerProcess interface App Nat)
      (fun slot now seen => slot = transport.ring.index sequence ∧
        Stands consumer view now seen) := by
    apply Machine.Settles.bind (expect_settles positive)
    intro _
    exact Machine.Settles.pure _ (fun _ _ held => ⟨rfl, held⟩)
  apply Machine.Settles.bind pointer
  intro slot
  apply Machine.Settles.given _ (fun _ _ held => held.1)
  rintro rfl
  apply Machine.Settles.bind (consumer_settles.strengthen (fun _ _ held => held.2))
  intro now
  apply Machine.Settles.given (now = consumer) (fun _ _ held => held.1)
  rintro rfl
  have read : Settles passes (Stands now view)
      (act (.readSlot now.consumerId sequence (transport.ring.index sequence)) :
        ConsumerProcess interface App interface.Value)
      (fun value self seen => value = view.slots (transport.ring.index sequence) ∧
        Stands now (view.deliver now.consumerId
          [(sequence, view.slots (transport.ring.index sequence))]) self seen) := by
    apply record_settles now.consumerId
      (.read sequence (view.slots (transport.ring.index sequence)))
    rintro world rfl oracle
    rfl
  apply Machine.Settles.bind (read.strengthen (fun _ _ held => held.2))
  intro value
  apply Machine.Settles.pure
  rintro self world ⟨rfl, stands⟩
  exact ⟨rfl, stands⟩

theorem hold_settles (event : EventRef interface) :
    Settles passes (Stands consumer view)
      (Consumer.hold event : ConsumerProcess interface App Unit)
      (fun _ => Stands consumer view) := by
  have again : Settles passes (Stands consumer view)
      (act (.readsAgain consumer.consumerId) : ConsumerProcess interface App Bool)
      (fun _ => Stands consumer view) :=
    settles_quiet rfl (fun _ _ _ => ⟨.again false, _, _, rfl⟩)
  have reread : Settles passes (Stands consumer view)
      (act (.rereadSlot consumer.consumerId event.sequence event.slot) :
        ConsumerProcess interface App interface.Value)
      (fun _ => Stands consumer view) := by
    have given : Settles passes (Stands consumer view)
        (act (.rereadSlot consumer.consumerId event.sequence event.slot) :
          ConsumerProcess interface App interface.Value)
        (fun value now seen => value = view.slots event.slot ∧
          Stands consumer (view.deliver consumer.consumerId []) now seen) := by
      apply record_settles consumer.consumerId
        (.reread event.sequence (view.slots event.slot))
      rintro world rfl oracle
      rfl
    rw [View.deliver_nil] at given
    exact given.conseq (fun _ _ held => held) (fun _ _ _ held => held.2)
  refine settles_repeat (fun _ => Stands consumer view) ?_ (fun _ => ?_) ()
  · exact fun _ self world _ => ⟨(), self, world, [.again false], rfl⟩
  · apply Machine.Settles.bind consumer_settles
    intro now
    apply Machine.Settles.given (now = consumer) (fun _ _ held => held.1)
    rintro rfl
    apply Machine.Settles.bind (again.strengthen (fun _ _ held => held.2))
    intro more
    split
    · apply Machine.Settles.bind reread
      intro _
      exact Machine.Settles.pure _ (fun _ _ held => held)
    · exact Machine.Settles.pure _ (fun _ _ held => held)

theorem World.cursor_stored (world : World interface) {consumerId : ConsumerId}
    (initialised : consumerId ∉ world.uninitialised) (sequence : Int)
    (events : ConsumerId → List (ConsumerEvent interface)) :
    World.cursor { world with
        consumerSequence := Function.update world.consumerSequence consumerId sequence
        events } = Function.update world.cursor consumerId sequence := by
  funext other
  by_cases same : other = consumerId
  · subst same
    simp only [World.cursor, if_neg initialised, Function.update_self]
  · simp only [World.cursor, Function.update_of_ne same]

theorem publishConsumedSequence_settles (sequence : Int)
    (initialised : consumer.consumerId ∉ view.uninitialised) :
    Settles passes (Stands consumer view)
      (Consumer.publishConsumedSequence sequence : ConsumerProcess interface App Unit)
      (fun _ => Stands { consumer with lastProcessedSequence := sequence }
        (view.commit consumer.consumerId sequence)) := by
  apply Machine.Settles.bind consumer_settles
  intro now
  apply Machine.Settles.given (now = consumer) (fun _ _ held => held.1)
  rintro rfl
  have stored : Settles passes (Stands now view)
      (act (.storeConsumerSequence now.consumerId sequence) :
        ConsumerProcess interface App Unit)
      (fun _ => Stands now (view.commit now.consumerId sequence)) := by
    apply Machine.Settles.perform
    · exact fun _ _ _ => ⟨.silent, _, _, rfl⟩
    · rintro self world oracle result after ⟨same, rfl⟩ performed
      cases performed
      have kept := World.view_record world now.consumerId (.commit sequence)
      have none : reads [(Event.commit sequence : ConsumerEvent interface)] = [] := rfl
      rw [none, View.deliver_nil] at kept
      refine ⟨same, ?_⟩
      have delivered := congrArg View.delivered kept
      exact View.ext rfl rfl rfl rfl (world.cursor_stored initialised sequence _) delivered
  apply Machine.Settles.bind (stored.strengthen (fun _ _ held => held.2))
  intro _
  apply Machine.Settles.modifyGet
  rintro self world ⟨rfl, seen⟩
  exact ⟨rfl, seen⟩

/-! ### Single events -/

def Takes {App : Type} (ring : RingSize) (consumer : Consumer) (view : View interface)
    (lower upper : Int) : Consumer × App → View interface → Prop :=
  Stands { consumer with lastProcessedSequence := upper }
    (view.taken ring consumer.consumerId lower upper)

/-- A poll that returns nothing where nothing is published, and else takes one event. -/
def Polls {App : Type} (ring : RingSize) (consumer : Consumer) (view : View interface)
    (value : Option (Int × interface.Value)) (now : Consumer × App) (seen : View interface) :
    Prop :=
  let next := consumer.lastProcessedSequence + 1
  if next > view.producerSequence then value = none ∧ Stands consumer view now seen
  else value = some (next, view.slots (ring.index next)) ∧
    Takes ring consumer view next next now seen

theorem View.taken_one (ring : RingSize) (consumerId : ConsumerId) (sequence : Int) :
    view.taken ring consumerId sequence sequence =
      (view.deliver consumerId [(sequence, view.slots (ring.index sequence))]).commit consumerId
        sequence := by
  simp only [View.taken, View.stretch, sequences_one, List.map_cons, List.map_nil]

theorem tryConsumeNext_settles (transport : Transport) (fits : Fits consumer view) :
    Settles passes (Stands consumer view)
      (Consumer.tryConsumeNext transport : ConsumerProcess interface App _)
      (Polls transport.ring consumer view) := by
  have low := fits.low
  have small := fits.small
  apply Machine.Settles.bind (availableBatchBounds_settles transport fits)
  intro bounds
  apply Machine.Settles.given _ (fun _ _ held => held.1)
  rintro rfl
  unfold Polls
  by_cases nothing : consumer.lastProcessedSequence + 1 > view.producerSequence
  · simp only [if_pos nothing]
    apply Machine.Settles.bind ((count_settles _ _ 1).strengthen (fun _ _ held => held.2))
    intro _
    exact Machine.Settles.pure none (fun _ _ held => ⟨rfl, held⟩)
  · simp only [if_neg nothing]
    apply Machine.Settles.bind ((borrow_settles transport (by omega)).strengthen
      (fun _ _ held => held.2))
    intro event
    apply Machine.Settles.given _ (fun _ _ held => held.1)
    rintro rfl
    refine Machine.Settles.bind ((publishConsumedSequence_settles _ ?_).strengthen
      (fun _ _ held => held.2)) (fun _ => ?_)
    · exact fits.initialised
    apply Machine.Settles.bind (count_settles _ _ 1)
    intro _
    apply Machine.Settles.bind (recordLag_settles (by
      simp only [InRange]
      omega))
    intro _
    apply Machine.Settles.pure
    intro now world stands
    refine ⟨rfl, ?_⟩
    rw [Takes, View.taken_one]
    exact stands

def useLease (event : EventRef interface) :
    ConsumerProcess interface App (Int × interface.Value) := do
  Consumer.hold event
  pure (event.sequence, event.value)

theorem useLease_settles (event : EventRef interface) :
    Settles passes (Stands consumer view)
      (useLease event : ConsumerProcess interface App (Int × interface.Value))
      (fun result now seen => result = (event.sequence, event.value) ∧
        Stands consumer view now seen) := by
  apply Machine.Settles.bind (hold_settles event)
  intro _
  exact Machine.Settles.pure _ (fun _ _ held => ⟨rfl, held⟩)

theorem tryConsumeNextLeased_settles (transport : Transport) (fits : Fits consumer view) :
    Settles passes (Stands consumer view)
      (Consumer.tryConsumeNextLeased transport useLease : ConsumerProcess interface App _)
      (Polls transport.ring consumer view) := by
  have low := fits.low
  have small := fits.small
  apply Machine.Settles.bind (availableBatchBounds_settles transport fits)
  intro bounds
  apply Machine.Settles.given _ (fun _ _ held => held.1)
  rintro rfl
  unfold Polls
  by_cases nothing : consumer.lastProcessedSequence + 1 > view.producerSequence
  · simp only [if_pos nothing]
    apply Machine.Settles.bind ((count_settles _ _ 1).strengthen (fun _ _ held => held.2))
    intro _
    exact Machine.Settles.pure none (fun _ _ held => ⟨rfl, held⟩)
  · simp only [if_neg nothing]
    apply Machine.Settles.bind ((recordLag_settles (by
      simp only [InRange]
      omega)).strengthen (fun _ _ held => held.2))
    intro _
    have leased : Settles passes (Stands consumer view)
        (Consumer.lease transport (consumer.lastProcessedSequence + 1) useLease :
          ConsumerProcess interface App _)
        (fun event now seen => event = (consumer.lastProcessedSequence + 1,
            view.slots (transport.ring.index (consumer.lastProcessedSequence + 1))) ∧
          Takes transport.ring consumer view (consumer.lastProcessedSequence + 1)
            (consumer.lastProcessedSequence + 1) now seen) := by
      apply Machine.Settles.bind (borrow_settles transport (by omega))
      intro event
      apply Machine.Settles.given _ (fun _ _ held => held.1)
      rintro rfl
      apply Machine.Settles.bind ((useLease_settles _).strengthen (fun _ _ held => held.2))
      intro result
      apply Machine.Settles.given _ (fun _ _ held => held.1)
      rintro rfl
      refine Machine.Settles.bind ((publishConsumedSequence_settles _ ?_).strengthen
        (fun _ _ held => held.2)) (fun _ => ?_)
      · exact fits.initialised
      apply Machine.Settles.bind (count_settles _ _ 1)
      intro _
      apply Machine.Settles.pure
      intro now world stands
      refine ⟨rfl, ?_⟩
      rw [Takes, View.taken_one]
      exact stands
    apply Machine.Settles.bind leased
    intro event
    apply Machine.Settles.pure
    rintro now world ⟨rfl, takes⟩
    exact ⟨rfl, takes⟩

/-! ### Batches -/

theorem borrows_settle (transport : Transport)
    {processor : EventRef interface → Bool → ConsumerProcess interface App Unit}
    (processes : ∀ event endOfBatch (view : View interface),
      Settles passes (Stands consumer view) (processor event endOfBatch)
        (fun _ => Stands consumer view))
    (endOfBatch : Int → Bool) {sequences : List Int}
    (positive : ∀ sequence ∈ sequences, 0 ≤ sequence) :
    Settles passes (Stands consumer view)
      (Routine.each (fun sequence : Int => do
        let event ← Consumer.borrow transport sequence
        processor event (endOfBatch sequence)) sequences)
      (fun _ => Stands consumer (view.deliver consumer.consumerId
        (sequences.map fun sequence =>
          (sequence, view.slots (transport.ring.index sequence))))) := by
  induction sequences generalizing view with
  | nil =>
      apply Machine.Settles.pure
      intro now world stands
      rw [List.map_nil, View.deliver_nil]
      exact stands
  | cons sequence rest ih =>
      have later : ∀ view : View interface, _ := fun view => @ih view
        (fun other member => positive other (List.mem_cons_of_mem sequence member))
      have first : Settles passes (Stands consumer view)
          (Consumer.borrow transport sequence >>= fun event =>
            processor event (endOfBatch sequence))
          (fun _ => Stands consumer (view.deliver consumer.consumerId
            [(sequence, view.slots (transport.ring.index sequence))])) := by
        apply Machine.Settles.bind (borrow_settles transport (positive sequence List.mem_cons_self))
        intro event
        exact (processes event _ _).strengthen (fun _ _ held => held.2)
      apply Machine.Settles.bind first
      intro _
      apply (later _).conseq (fun _ _ held => held)
      intro _ now world stands
      rw [View.deliver_append] at stands
      exact stands

theorem processSnapshotBatchWithEob_settles (transport : Transport) {lower upper : Int}
    {processor : EventRef interface → Bool → ConsumerProcess interface App Unit}
    (processes : ∀ event endOfBatch (view : View interface),
      Settles passes (Stands consumer view) (processor event endOfBatch)
        (fun _ => Stands consumer view))
    (initialised : consumer.consumerId ∉ view.uninitialised)
    (positive : 0 ≤ lower) (ordered : lower ≤ upper) (small : upper < 2 ^ 63 - 1) :
    Settles passes (Stands consumer view)
      (Consumer.processSnapshotBatchWithEob transport lower upper processor)
      (fun processed now seen => processed = (Consumer.sequences lower upper).length ∧
        Takes transport.ring consumer view lower upper now seen) := by
  apply Machine.Settles.bind (recordLag_settles (by
    simp only [InRange]
    omega))
  intro _
  have positives : ∀ sequence ∈ Consumer.sequences lower upper, 0 ≤ sequence := by
    intro sequence member
    obtain ⟨offset, _listed, rfl⟩ := List.mem_map.mp member
    omega
  apply Machine.Settles.bind (borrows_settle transport processes _ positives)
  intro _
  refine Machine.Settles.bind (publishConsumedSequence_settles upper ?_) (fun _ => ?_)
  · exact initialised
  apply Machine.Settles.bind (count_settles _ _ _)
  intro _
  exact Machine.Settles.pure _ (fun _ _ held => ⟨rfl, held⟩)

def Drains {App : Type} (ring : RingSize) (consumer : Consumer) (view : View interface)
    (processed : Nat) (now : Consumer × App) (seen : View interface) : Prop :=
  let next := consumer.lastProcessedSequence + 1
  if next > view.producerSequence then processed = 0 ∧ Stands consumer view now seen
  else processed = (Consumer.sequences next view.producerSequence).length ∧
    Takes ring consumer view next view.producerSequence now seen

theorem processAvailableMmap_settles (transport : Transport) (fits : Fits consumer view) :
    Settles passes (Stands consumer view)
      (Consumer.processAvailableMmap transport Consumer.hold : ConsumerProcess interface App _)
      (Drains transport.ring consumer view) := by
  have low := fits.low
  have small := fits.small
  apply Machine.Settles.bind (availableBatchBounds_settles transport fits)
  intro bounds
  apply Machine.Settles.given _ (fun _ _ held => held.1)
  rintro rfl
  unfold Drains
  by_cases nothing : consumer.lastProcessedSequence + 1 > view.producerSequence
  · simp only [if_pos nothing]
    exact Machine.Settles.pure 0 (fun _ _ held => ⟨rfl, held.2⟩)
  · simp only [if_neg nothing]
    exact (processSnapshotBatchWithEob_settles transport (fun event _ _ => hold_settles event)
      fits.initialised (by omega) (by omega) small).strengthen (fun _ _ held => held.2)

theorem processBatches_ended (transport : Transport) (processed : Nat)
    (fits : Fits consumer view)
    (nothing : consumer.lastProcessedSequence + 1 > view.producerSequence) :
    Settles passes (Stands consumer view)
      (Consumer.processBatches transport processed (fun event _ => Consumer.hold event) :
        ConsumerProcess interface App Nat)
      (fun result now seen => result = processed ∧ Stands consumer view now seen) := by
  refine settles_unroll (fun result now seen => result = .inr processed ∧
    Stands consumer view now seen) ?_ ?_ ?_
  · apply Machine.Settles.bind (availableBatchBounds_settles transport fits)
    intro bounds
    apply Machine.Settles.given _ (fun _ _ held => held.1)
    rintro rfl
    simp only [if_pos nothing]
    exact Machine.Settles.pure _ (fun _ _ held => ⟨rfl, held.2⟩)
  · intro next now world held
    cases held.1
  · rintro value now seen ⟨same, stands⟩
    cases same
    exact ⟨rfl, stands⟩

/-- It takes one batch, after which nothing is left. -/
theorem processBatches_settles (transport : Transport) (fits : Fits consumer view) :
    Settles passes (Stands consumer view)
      (Consumer.processBatches transport 0 (fun event _ => Consumer.hold event) :
        ConsumerProcess interface App Nat)
      (Drains transport.ring consumer view) := by
  have low := fits.low
  have small := fits.small
  unfold Drains
  by_cases nothing : consumer.lastProcessedSequence + 1 > view.producerSequence
  · simp only [if_pos nothing]
    exact processBatches_ended transport 0 fits nothing
  · simp only [if_neg nothing]
    refine settles_unroll (fun result now seen => result = .inl (Consumer.sequences
      (consumer.lastProcessedSequence + 1) view.producerSequence).length ∧
      Takes transport.ring consumer view (consumer.lastProcessedSequence + 1)
        view.producerSequence now seen) ?_ ?_ ?_
    · apply Machine.Settles.bind (availableBatchBounds_settles transport fits)
      intro bounds
      apply Machine.Settles.given _ (fun _ _ held => held.1)
      rintro rfl
      simp only [if_neg nothing]
      apply Machine.Settles.bind ((processSnapshotBatchWithEob_settles transport
        (fun event _ _ => hold_settles event) fits.initialised (by omega) (by omega)
        small).strengthen (fun _ _ held => held.2))
      intro more
      apply Machine.Settles.pure
      rintro now world ⟨rfl, takes⟩
      exact ⟨by rw [Nat.zero_add], takes⟩
    · intro processed
      apply Machine.Settles.given (processed = (Consumer.sequences
        (consumer.lastProcessedSequence + 1) view.producerSequence).length)
        (fun _ _ held => Sum.inl.inj held.1)
      rintro rfl
      have drained : Fits { consumer with lastProcessedSequence := view.producerSequence }
          (view.taken transport.ring consumer.consumerId (consumer.lastProcessedSequence + 1)
            view.producerSequence) :=
        ⟨fits.initialised, by change -1 ≤ view.producerSequence; omega, Int.le_refl _, small⟩
      exact (processBatches_ended transport _ drained (Int.lt_succ _)).strengthen
        (fun _ _ held => held.2)
    · intro value now seen held
      cases held.1

theorem processAvailableShared_settles (transport : Transport) (fits : Fits consumer view) :
    Settles passes (Stands consumer view)
      (Consumer.processAvailableShared transport Consumer.hold : ConsumerProcess interface App _)
      (Drains transport.ring consumer view) := by
  apply Machine.Settles.bind (processBatches_settles transport fits)
  intro processed
  unfold Drains
  by_cases nothing : consumer.lastProcessedSequence + 1 > view.producerSequence
  · simp only [if_pos nothing]
    apply Machine.Settles.given _ (fun _ _ held => held.1)
    rintro rfl
    apply Machine.Settles.bind ((settles_onlyIf (count_settles _ _ 1)).strengthen
      (fun _ _ held => held.2))
    intro _
    exact Machine.Settles.pure _ (fun _ _ held => ⟨rfl, held⟩)
  · simp only [if_neg nothing]
    apply Machine.Settles.given _ (fun _ _ held => held.1)
    rintro rfl
    apply Machine.Settles.bind ((settles_onlyIf (count_settles _ _ 1)).strengthen
      (fun _ _ held => held.2))
    intro _
    exact Machine.Settles.pure _ (fun _ _ held => ⟨rfl, held⟩)

theorem processAvailable_settles (transport : Transport) (fits : Fits consumer view) :
    Settles passes (Stands consumer view)
      (Consumer.processAvailable transport Consumer.hold : ConsumerProcess interface App _)
      (Drains transport.ring consumer view) := by
  unfold Consumer.processAvailable
  split
  · exact processAvailableShared_settles transport fits
  · exact processAvailableMmap_settles transport fits

/-! ### What a consumer is left with -/

/-- What an operation of a consumer returns, where it leaves the consumer, and the ring. -/
structure Taken (interface : Interface) (α : Type) where
  value : α
  sequence : Int
  view : View interface

def Gives {App α : Type} (taken : Taken interface α) (consumer : Consumer) (value : α)
    (now : Consumer × App) (seen : View interface) : Prop :=
  value = taken.value ∧
    Stands { consumer with lastProcessedSequence := taken.sequence } taken.view now seen

def polled (ring : RingSize) (consumerId : ConsumerId) (sequence : Int)
    (view : View interface) : Taken interface (Option (Int × interface.Value)) :=
  if sequence + 1 > view.producerSequence then { value := none, sequence, view }
  else
    { value := some (sequence + 1, view.slots (ring.index (sequence + 1)))
      sequence := sequence + 1
      view := view.taken ring consumerId (sequence + 1) (sequence + 1) }

def drained (ring : RingSize) (consumerId : ConsumerId) (sequence : Int)
    (view : View interface) : Taken interface Nat :=
  if sequence + 1 > view.producerSequence then { value := 0, sequence, view }
  else
    { value := (Consumer.sequences (sequence + 1) view.producerSequence).length
      sequence := view.producerSequence
      view := view.taken ring consumerId (sequence + 1) view.producerSequence }

theorem Polls.gives {ring : RingSize} {value : Option (Int × interface.Value)}
    {now : Consumer × App} {seen : View interface}
    (polls : Polls ring consumer view value now seen) :
    Gives (polled ring consumer.consumerId consumer.lastProcessedSequence view) consumer value
      now seen := by
  unfold Polls at polls
  unfold polled
  split
  · rename_i nothing
    rwa [if_pos nothing] at polls
  · rename_i some
    rwa [if_neg some] at polls

theorem Drains.gives {ring : RingSize} {value : Nat} {now : Consumer × App}
    {seen : View interface} (drains : Drains ring consumer view value now seen) :
    Gives (drained ring consumer.consumerId consumer.lastProcessedSequence view) consumer value
      now seen := by
  unfold Drains at drains
  unfold drained
  split
  · rename_i nothing
    rwa [if_pos nothing] at drains
  · rename_i some
    rwa [if_neg some] at drains

/-- The operation moves the cursor of its consumer forward, and nothing else that others
depend on. -/
structure Taken.Moves {α : Type} (taken : Taken interface α) (consumerId : ConsumerId)
    (sequence : Int) (view : View interface) : Prop where
  producerSequence : taken.view.producerSequence = view.producerSequence
  consumers : taken.view.consumers = view.consumers
  uninitialised : taken.view.uninitialised = view.uninitialised
  cursor : taken.view.consumerSequence =
    Function.update view.consumerSequence consumerId taken.sequence
  forward : sequence ≤ taken.sequence
  visible : taken.sequence ≤ view.producerSequence

theorem polled_moves (ring : RingSize) (consumerId : ConsumerId)
    (behind : view.consumerSequence consumerId ≤ view.producerSequence) :
    (polled ring consumerId (view.consumerSequence consumerId) view).Moves consumerId
      (view.consumerSequence consumerId) view := by
  unfold polled
  split
  · exact ⟨rfl, rfl, rfl, (Function.update_eq_self _ _).symm, Int.le_refl _, behind⟩
  · rename_i some
    exact ⟨rfl, rfl, rfl, rfl, Int.le_of_lt (Int.lt_succ _), by simpa using some⟩

theorem drained_moves (ring : RingSize) (consumerId : ConsumerId)
    (behind : view.consumerSequence consumerId ≤ view.producerSequence) :
    (drained ring consumerId (view.consumerSequence consumerId) view).Moves consumerId
      (view.consumerSequence consumerId) view := by
  unfold drained
  split
  · exact ⟨rfl, rfl, rfl, (Function.update_eq_self _ _).symm, Int.le_refl _, behind⟩
  · exact ⟨rfl, rfl, rfl, rfl, behind, Int.le_refl _⟩

def Taken.map {α β : Type} (change : α → β) (taken : Taken interface α) : Taken interface β :=
  { value := change taken.value, sequence := taken.sequence, view := taken.view }

theorem Taken.Moves.map {α β : Type} {taken : Taken interface α} {consumerId : ConsumerId}
    {sequence : Int} (moves : taken.Moves consumerId sequence view) (change : α → β) :
    (taken.map change).Moves consumerId sequence view :=
  ⟨moves.producerSequence, moves.consumers, moves.uninitialised, moves.cursor, moves.forward,
    moves.visible⟩

theorem gives_map {α β : Type} {process : ConsumerProcess interface App α}
    {taken : Taken interface α} (change : α → β)
    (settles : Settles passes (Stands consumer view) process (Gives taken consumer)) :
    Settles passes (Stands consumer view) (change <$> process)
      (Gives (taken.map change) consumer) :=
  Machine.Settles.bind settles (fun value => Machine.Settles.pure (change value)
    (fun _ _ held => ⟨congrArg change held.1, held.2⟩))

def stood (sequence : Int) (view : View interface) : Taken interface Int :=
  { value := sequence, sequence, view }

theorem stood_moves (consumerId : ConsumerId)
    (behind : view.consumerSequence consumerId ≤ view.producerSequence) :
    (stood (view.consumerSequence consumerId) view).Moves consumerId
      (view.consumerSequence consumerId) view :=
  ⟨rfl, rfl, rfl, (Function.update_eq_self _ _).symm, Int.le_refl _, behind⟩

theorem currentSequence_settles :
    Settles passes (Stands consumer view)
      (Consumer.currentSequence : ConsumerProcess interface App Int)
      (Gives (stood consumer.lastProcessedSequence view) consumer) := by
  apply Machine.Settles.bind consumer_settles
  intro now
  apply Machine.Settles.pure
  rintro self world ⟨rfl, stands⟩
  exact ⟨rfl, stands⟩

theorem polled_settles (transport : Transport)
    {process : ConsumerProcess interface App (Option (Int × interface.Value))}
    (settles : Settles passes (Stands consumer view) process
      (Polls transport.ring consumer view)) :
    Settles passes (Stands consumer view) process
      (Gives (polled transport.ring consumer.consumerId consumer.lastProcessedSequence view)
        consumer) :=
  settles.conseq (fun _ _ held => held) (fun _ _ _ polls => polls.gives)

end Ring
