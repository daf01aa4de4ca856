/-
The barriers, one operation at a time.

An operation that runs with nobody else sees one state of the ring. With all attached
consumers known, and a directory that can be read, either barrier returns the smallest of
the cursors and leaves everything as it is.
-/

import Myelon.Interleaving.Sequential
import Myelon.Ring.Contract

namespace Ring

open Interleaving Delivery

variable {interface : Interface} {State α : Type}

abbrev solitary (interface : Interface) (passes : DirectoryPasses) :
    Machine (signature interface) Self Unit (World interface) :=
  { Oracle := Oracle interface
    perform := Ring.perform passes
    restart := fun _ _ => none }

/-- What the operations of the ring depend on, and the events the consumers were given. -/
@[ext] structure View (interface : Interface) where
  slots : Nat → interface.Value
  producerSequence : Int
  consumers : List ConsumerId
  uninitialised : List ConsumerId
  consumerSequence : ConsumerId → Int
  delivered : ConsumerId → List (Int × interface.Value)

def World.view (world : World interface) : View interface :=
  { slots := world.slots
    producerSequence := world.producerSequence
    consumers := world.consumers
    uninitialised := world.uninitialised
    consumerSequence := world.cursor
    delivered := fun consumerId => reads (world.events consumerId) }

theorem World.cursor_eq {world : World interface} (initialised : world.uninitialised = []) :
    world.cursor = world.consumerSequence := by
  funext consumerId
  rw [World.cursor, initialised, if_neg List.not_mem_nil]

theorem World.SameRing.view {before after : World interface} (same : before.SameRing after) :
    after.view = before.view := by
  have cursor : after.cursor = before.cursor := by
    funext consumerId
    simp only [World.cursor, same.uninitialised, same.consumerSequence]
  simp only [World.view, same.slots, same.producerSequence, same.consumers, same.uninitialised,
    cursor, same.events]

variable {passes : DirectoryPasses}

abbrev Settles (passes : DirectoryPasses) (pre : State → View interface → Prop)
    [Viewed State] (process : Process interface State α)
    (post : α → State → View interface → Prop) : Prop :=
  (solitary interface passes).Settles (fun self world => pre self world.view) process
    (fun value self world => post value self world.view)

abbrev Leads (passes : DirectoryPasses) (pre : State → View interface → Prop)
    [Viewed State] (process : Process interface State α)
    (post : α → State → View interface → Prop) : Prop :=
  (solitary interface passes).Leads (fun self world => pre self world.view) process
    (fun value self world => post value self world.view)

variable [Viewed State] {pre : State → View interface → Prop}

theorem settles_quiet {action : Action interface} (quiet : action.quiet = true)
    (answered : ∀ self (world : World interface), pre self world.view →
      ∃ oracle result after, perform passes action oracle world = some (result, after)) :
    Settles passes pre (act action) (fun _ => pre) := by
  apply Machine.Settles.perform answered
  intro self world oracle result after held performed
  rw [(perform_quiet quiet performed).view]
  exact held

theorem settles_onlyIf {condition : Prop} [Decidable condition]
    {body : Process interface State Unit} (settles : Settles passes pre body (fun _ => pre)) :
    Settles passes pre (onlyIf condition body) (fun _ => pre) := by
  unfold onlyIf
  split
  · exact settles
  · exact Machine.Settles.pure () (fun _ _ held => held)

theorem settles_repeat {β γ : Type} (kept : γ → State → View interface → Prop)
    {body : γ → Process interface State (γ ⊕ β)} {post : β → State → View interface → Prop}
    (finishes : ∀ state self (world : World interface), kept state self world.view →
      ∃ value later after, (solitary interface passes).Ends (body state self) world
        (.inr value, later) after)
    (round : ∀ state, Settles passes (kept state) (body state) (fun result self seen =>
      match result with
      | .inl again => kept again self seen
      | .inr value => post value self seen)) (state : γ) :
    Settles passes (kept state) (Routine.repeat' body state) post := by
  exact Machine.Settles.repeat' Oracle.silent finishes (fun state =>
    (round state).conseq (fun _ _ held => held) (fun result _ _ reached => by
      cases result with
      | inl again => exact reached
      | inr value => exact reached)) state

theorem settles_unroll {β γ : Type} (middle : γ ⊕ β → State → View interface → Prop)
    {body : γ → Process interface State (γ ⊕ β)} {state : γ}
    {post : β → State → View interface → Prop}
    (round : Settles passes pre (body state) middle)
    (again : ∀ next, Settles passes (middle (.inl next)) (Routine.repeat' body next) post)
    (ended : ∀ value self view, middle (.inr value) self view → post value self view) :
    Settles passes pre (Routine.repeat' body state) post :=
  Machine.Settles.unroll Oracle.silent round again
    (fun value self world => ended value self world.view)

theorem settles_addCounter (counter : Counter) (amount : Nat) :
    Settles passes pre (act (.addCounter counter amount)) (fun _ => pre) :=
  settles_quiet rfl (fun _ _ _ => ⟨.silent, _, _, rfl⟩)

theorem settles_loadProducerSequence :
    Settles passes pre (act .loadProducerSequence)
      (fun (sequence : Int) self view => sequence = view.producerSequence ∧ pre self view) := by
  apply Machine.Settles.perform
  · exact fun _ _ _ => ⟨.silent, _, _, rfl⟩
  · intro self world oracle result after held performed
    cases performed
    exact ⟨rfl, held⟩

theorem settles_loadConsumerSequence {consumerId : ConsumerId}
    (attached : ∀ self view, pre self view → consumerId ∈ view.consumers) :
    Settles passes pre (act (.loadConsumerSequence consumerId))
      (fun (sequence : Int) self view =>
        sequence = view.consumerSequence consumerId ∧ pre self view) := by
  apply Machine.Settles.perform
  · intro self world held
    have present : consumerId ∈ world.consumers := attached self world.view held
    exact ⟨.silent, _, _, if_pos present⟩
  · intro self world oracle result after held performed
    simp only [perform] at performed
    split at performed
    · cases performed
      exact ⟨rfl, held⟩
    · cases performed

theorem checked_settles {value : Int} (inRange : InRange value) :
    Settles passes pre (checked value : Process interface State Int)
      (fun result self seen => result = value ∧ pre self seen) := by
  unfold checked
  rw [if_pos inRange]
  exact Machine.Settles.pure value (fun _ _ held => ⟨rfl, held⟩)

theorem expect_settles {condition : Prop} [Decidable condition] (holds : condition) :
    Settles passes pre (expect condition : Process interface State Unit) (fun _ => pre) := by
  unfold expect
  rw [if_pos holds]
  exact Machine.Settles.pure () (fun _ _ held => held)

theorem checked_jams {value : Int} (outOfRange : ¬ InRange value) :
    Leads passes pre (checked value : Process interface State Int) (fun _ _ _ => False) := by
  intro self world _held out after ended
  unfold checked at ended
  rw [if_neg outOfRange] at ended
  obtain ⟨oracle, result, _middle, performed, _later⟩ := Machine.ends_act.mp ended
  exact result.elim

/-! ### A barrier that knows everyone -/

/-- The producer and the ring are as they were, but for what limits the scans, and the
barrier knows everyone who is attached. -/
structure Steady (producer : Producer) (view : View interface) (now : Producer)
    (seen : View interface) : Prop where
  seen : seen = view
  cursors : now.consumerBarrier.consumerCursors = producer.consumerBarrier.consumerCursors
  sequence : now.sequence = producer.sequence
  clear : now.sequenceClearOfConsumers = producer.sequenceClearOfConsumers
  liveness : now.requiredConsumerLiveness = producer.requiredConsumerLiveness
  everyone : ∀ consumerId, consumerId ∈ view.consumers ↔
    consumerId ∈ producer.consumerBarrier.consumerCursors

variable {producer : Producer} {view : View interface}

theorem current_settles :
    Settles passes (Steady producer view) ConsumerBarrier.current
      (fun barrier now seen => barrier.consumerCursors =
        producer.consumerBarrier.consumerCursors ∧ Steady producer view now seen) := by
  apply Machine.Settles.bind Machine.Settles.get
  intro now
  apply Machine.Settles.pure
  rintro self world ⟨rfl, steady⟩
  exact ⟨steady.cursors, steady⟩

theorem update_settles {change : ConsumerBarrier → ConsumerBarrier}
    (same : ∀ barrier, (change barrier).consumerCursors = barrier.consumerCursors) :
    Settles passes (Steady producer view) (ConsumerBarrier.update change)
      (fun _ => Steady producer view) := by
  apply Machine.Settles.modifyGet
  intro now world steady
  exact ⟨steady.seen, (same _).trans steady.cursors, steady.sequence, steady.clear,
    steady.liveness, steady.everyone⟩

theorem attach_settles {consumerId : ConsumerId}
    (unknown : consumerId ∉ producer.consumerBarrier.consumerCursors) :
    Settles passes (Steady producer view) (act (.attachConsumerSequence consumerId))
      (fun (attached : Bool) now seen => attached = false ∧ Steady producer view now seen) := by
  have missing : ∀ (now : Producer) (world : World interface),
      Steady producer view now world.view → consumerId ∉ world.consumers := by
    intro now world steady present
    have listed : consumerId ∈ world.view.consumers := present
    rw [steady.seen] at listed
    exact unknown ((steady.everyone consumerId).mp listed)
  apply Machine.Settles.perform
  · intro now world steady
    exact ⟨.silent, _, _, if_neg (missing now world steady)⟩
  · intro now world oracle result after steady performed
    simp only [perform, if_neg (missing now world steady)] at performed
    cases performed
    exact ⟨rfl, steady⟩

theorem discoverConsumerId_settles (consumerId : ConsumerId) :
    Settles passes (Steady producer view) (ConsumerBarrier.discoverConsumerId consumerId)
      (fun found now seen =>
        (found = true ↔ consumerId ∈ producer.consumerBarrier.consumerCursors) ∧
          Steady producer view now seen) := by
  apply Machine.Settles.bind current_settles
  intro barrier
  apply Machine.Settles.given
    (barrier.consumerCursors = producer.consumerBarrier.consumerCursors)
    (fun _ _ held => held.1)
  intro same
  split
  · rename_i known
    apply Machine.Settles.pure
    exact fun _ _ held => ⟨⟨fun _ => same ▸ known, fun _ => rfl⟩, held.2⟩
  · rename_i unknown
    rw [same] at unknown
    apply Machine.Settles.bind ((attach_settles unknown).strengthen (fun _ _ held => held.2))
    intro attached
    apply Machine.Settles.given (attached = false) (fun _ _ held => held.1)
    rintro rfl
    apply Machine.Settles.pure
    exact fun _ _ held => ⟨⟨fun impossible => absurd impossible Bool.false_ne_true,
      fun known => absurd known unknown⟩, held.2⟩

theorem discoverNames_settles (names : List ConsumerId) :
    Settles passes (Steady producer view) (ConsumerBarrier.discoverNames names)
      (fun _ => Steady producer view) := by
  apply Machine.Settles.each
  intro name
  apply Machine.Settles.bind (discoverConsumerId_settles name)
  intro found
  exact Machine.Settles.pure () (fun _ _ held => held.2)

theorem consumerSequence_settles (consumerId : ConsumerId) :
    Settles passes (Steady producer view) (ConsumerBarrier.consumerSequence consumerId)
      (fun sequence now seen => sequence =
          (if consumerId ∈ producer.consumerBarrier.consumerCursors then
            some (view.consumerSequence consumerId)
          else none) ∧ Steady producer view now seen) := by
  apply Machine.Settles.bind (discoverConsumerId_settles consumerId)
  intro present
  split
  · rename_i found
    apply Machine.Settles.given (consumerId ∈ producer.consumerBarrier.consumerCursors)
      (fun _ _ held => held.1.mp found)
    intro known
    rw [if_pos known]
    have attached : ∀ now (seen : View interface), Steady producer view now seen →
        consumerId ∈ seen.consumers := by
      intro now seen steady
      rw [steady.seen]
      exact (steady.everyone consumerId).mpr known
    apply Machine.Settles.bind ((settles_loadConsumerSequence attached).strengthen
      (fun _ _ held => held.2))
    intro sequence
    apply Machine.Settles.pure
    rintro now world ⟨rfl, steady⟩
    exact ⟨by rw [steady.seen], steady⟩
  · rename_i missing
    apply Machine.Settles.pure
    rintro now world ⟨found, steady⟩
    rw [if_neg (fun known => missing (found.mpr known))]
    exact ⟨rfl, steady⟩

/-! ### The scans of the shared barrier -/

theorem discoverWithRegisteredSlots_settles (maxConsumers : Nat) :
    Settles passes (Steady producer view)
      (SharedConsumerBarrier.discoverWithRegisteredSlots maxConsumers)
      (fun _ => Steady producer view) := by
  apply Machine.Settles.bind (settles_quiet rfl (fun _ _ _ => ⟨.registered none, _, _, rfl⟩))
  intro registration
  split
  · exact Machine.Settles.pure 0 (fun _ _ held => held)
  · apply Machine.Settles.bind (discoverNames_settles _)
    intro _
    exact Machine.Settles.pure _ (fun _ _ held => held)

theorem scan_settles (transport : Transport) (maxConsumers : Nat)
    (consumerPrefix : Option String) :
    Settles passes (Steady producer view)
      (SharedConsumerBarrier.scan transport maxConsumers consumerPrefix)
      (fun _ => Steady producer view) := by
  have named : ∀ names : ConsumerBarrier → List ConsumerId,
      Settles passes (Steady producer view)
        (ConsumerBarrier.current >>= fun barrier => ConsumerBarrier.discoverNames (names barrier))
        (fun _ => Steady producer view) := by
    intro names
    apply Machine.Settles.bind current_settles
    intro barrier
    exact (discoverNames_settles _).strengthen (fun _ _ held => held.2)
  cases consumerPrefix with
  | some consumerPrefix => exact named _
  | none =>
      apply Machine.Settles.bind (discoverWithRegisteredSlots_settles maxConsumers)
      intro registeredSlots
      apply Machine.Settles.bind current_settles
      intro barrier
      split
      · exact (named _).strengthen (fun _ _ held => held.2)
      · exact Machine.Settles.pure () (fun _ _ held => held.2)

theorem discoverUnlessCompleted_settles (transport : Transport) :
    Settles passes (Steady producer view)
      (SharedConsumerBarrier.discoverUnlessCompleted transport)
      (fun _ => Steady producer view) := by
  apply Machine.Settles.bind current_settles
  intro barrier
  split
  · exact Machine.Settles.pure () (fun _ _ held => held.2)
  · split
    · exact Machine.Settles.pure () (fun _ _ held => held.2)
    · have timed : Settles passes (Steady producer view) (act .instantNow)
          (fun _ => Steady producer view) :=
        settles_quiet rfl (fun _ _ _ => ⟨.elapsed 0, _, _, rfl⟩)
      apply Machine.Settles.bind (timed.strengthen (fun _ _ held => held.2))
      intro now
      apply Machine.Settles.bind current_settles
      intro barrier
      split
      · exact Machine.Settles.pure () (fun _ _ held => held.2)
      · refine Machine.Settles.bind ((update_settles ?_).strengthen (fun _ _ held => held.2))
          (fun _ => ?_)
        · exact fun _ => rfl
        apply Machine.Settles.bind (scan_settles transport _ _)
        intro _
        apply update_settles
        intro barrier
        split
        · rfl
        · rfl

/-! ### The smallest cursor -/

structure Lowest (consumerIds : List ConsumerId) (view : View interface) (value : Int) :
    Prop where
  least : ∀ consumerId ∈ consumerIds, value ≤ view.consumerSequence consumerId
  reached : ∃ consumerId ∈ consumerIds, view.consumerSequence consumerId = value

theorem Lowest.unique {first second : List ConsumerId} {value other : Int}
    (lowest : Lowest first view value) (lowest' : Lowest second view other)
    (same : ∀ consumerId, consumerId ∈ first ↔ consumerId ∈ second) : value = other := by
  obtain ⟨consumerId, member, rfl⟩ := lowest.reached
  obtain ⟨consumerId', member', rfl⟩ := lowest'.reached
  have below := lowest.least consumerId' ((same consumerId').mpr member')
  have above := lowest'.least consumerId ((same consumerId).mp member)
  omega

def InBounds (view : View interface) : Prop :=
  ∀ consumerId ∈ view.consumers, -1 ≤ view.consumerSequence consumerId ∧
    view.consumerSequence consumerId < 2 ^ 63 - 1

/-- Every cursor counts, and one of them is not at the end of the range. -/
structure Countable (producer : Producer) (view : View interface) : Prop where
  floor : ∀ consumerId ∈ view.consumers, -1 ≤ view.consumerSequence consumerId
  small : ∃ consumerId ∈ producer.consumerBarrier.consumerCursors,
    view.consumerSequence consumerId < 2 ^ 63 - 1

theorem InBounds.countable (bounds : InBounds view)
    (attached : ∀ consumerId ∈ producer.consumerBarrier.consumerCursors,
      consumerId ∈ view.consumers)
    (nonempty : producer.consumerBarrier.consumerCursors ≠ []) : Countable producer view where
  floor := fun consumerId member => (bounds consumerId member).1
  small := by
    obtain ⟨first, member⟩ := List.exists_mem_of_ne_nil _ nonempty
    exact ⟨first, member, (bounds first (attached first member)).2⟩

theorem Countable.nonempty (countable : Countable producer view) :
    producer.consumerBarrier.consumerCursors ≠ [] := by
  obtain ⟨first, member, _⟩ := countable.small
  exact List.ne_nil_of_mem member

structure Lowering (order : List ConsumerId) (view : View interface) (rest : List ConsumerId)
    (value : Int) : Prop where
  remaining : rest ⊆ order
  least : ∀ consumerId ∈ order, consumerId ∈ rest ∨ value ≤ view.consumerSequence consumerId
  reached : value = 2 ^ 63 - 1 ∨ ∃ consumerId ∈ order, view.consumerSequence consumerId = value

theorem Lowering.read {order rest : List ConsumerId} {consumerId : ConsumerId} {value : Int}
    (lowering : Lowering order view (consumerId :: rest) value) :
    Lowering order view rest (min value (view.consumerSequence consumerId)) where
  remaining := fun _ member => lowering.remaining (List.mem_cons_of_mem consumerId member)
  least := by
    intro other member
    rcases lowering.least other member with waiting | earlier
    · rcases List.mem_cons.mp waiting with rfl | later
      · exact .inr (Int.min_le_right _ _)
      · exact .inl later
    · exact .inr (Int.le_trans (Int.min_le_left _ _) earlier)
  reached := by
    rcases Int.le_total value (view.consumerSequence consumerId) with less | less
    · rw [Int.min_eq_left less]
      exact lowering.reached
    · rw [Int.min_eq_right less]
      exact .inr ⟨consumerId, lowering.remaining List.mem_cons_self, rfl⟩

theorem loadMinimum_settles {counts : Int → Bool} {order : List ConsumerId}
    (counted : ∀ sequence : Int, -1 ≤ sequence → counts sequence = true)
    (countable : Countable producer view)
    (ordered : ∀ consumerId, consumerId ∈ order ↔
      consumerId ∈ producer.consumerBarrier.consumerCursors) :
    Settles passes (Steady producer view) (ConsumerBarrier.loadMinimum counts order)
      (fun value now seen => (Lowest producer.consumerBarrier.consumerCursors view value ∧
        value < 2 ^ 63 - 1) ∧ Steady producer view now seen) := by
  have folds : Settles passes
      (fun now seen => Lowering order view order (2 ^ 63 - 1) ∧ Steady producer view now seen)
      (ConsumerBarrier.loadMinimum counts order)
      (fun value now seen => Lowering order view [] value ∧ Steady producer view now seen) := by
    refine Machine.Settles.fold (fun rest value now (world : World interface) =>
      Lowering order view rest value ∧ Steady producer view now world.view) order ?_ _
    intro consumerId rest value
    have attached : ∀ now seen, Lowering order view (consumerId :: rest) value ∧
        Steady producer view now seen → consumerId ∈ seen.consumers := by
      rintro now seen ⟨lowering, steady⟩
      rw [steady.seen]
      exact (steady.everyone consumerId).mpr
        ((ordered consumerId).mp (lowering.remaining List.mem_cons_self))
    apply Machine.Settles.bind (settles_loadConsumerSequence attached)
    intro sequence
    apply Machine.Settles.pure
    rintro now world ⟨rfl, lowering, steady⟩
    have present := attached now world.view ⟨lowering, steady⟩
    have seen := steady.seen
    rw [seen] at present ⊢
    rw [if_pos (counted _ (countable.floor consumerId present))]
    exact ⟨lowering.read, seen ▸ steady⟩
  apply folds.conseq
  · intro now world steady
    exact ⟨⟨List.Subset.refl _, fun _ member => .inl member, .inl rfl⟩, steady⟩
  · rintro value now world ⟨lowering, steady⟩
    have below : ∀ consumerId ∈ producer.consumerBarrier.consumerCursors,
        value ≤ view.consumerSequence consumerId := fun consumerId member =>
      (lowering.least consumerId ((ordered consumerId).mpr member)).resolve_left List.not_mem_nil
    obtain ⟨first, member, small⟩ := countable.small
    have least := below first member
    rcases lowering.reached with none | ⟨consumerId, listed, same⟩
    · omega
    · exact ⟨⟨⟨below, consumerId, (ordered consumerId).mp listed, same⟩, by omega⟩, steady⟩

theorem iterate_settles {barrier : ConsumerBarrier}
    (same : barrier.consumerCursors = producer.consumerBarrier.consumerCursors) :
    Settles passes (Steady producer view) (act (.iterate barrier.consumerCursors))
      (fun (order : List ConsumerId) now seen =>
        (∀ consumerId, consumerId ∈ order ↔
          consumerId ∈ producer.consumerBarrier.consumerCursors) ∧
        Steady producer view now seen) := by
  apply Machine.Settles.perform
  · intro now world _steady
    exact ⟨.order barrier.consumerCursors, _, _,
      if_pos (List.isPerm_iff.mpr (List.Perm.refl barrier.consumerCursors))⟩
  · intro now world oracle result after steady performed
    cases oracle <;> simp only [perform] at performed
    case order permuted =>
      split at performed
      · rename_i permutation
        cases performed
        exact ⟨fun consumerId => same ▸ (List.isPerm_iff.mp permutation).mem_iff, steady⟩
      · cases performed
    all_goals cases performed

/-! ### Either barrier returns the smallest cursor -/

theorem getMinConsumerSequence_settles (transport : Transport)
    (countable : Countable producer view) :
    Settles passes (Steady producer view)
      (SharedConsumerBarrier.getMinConsumerSequence transport)
      (fun value now seen => Lowest producer.consumerBarrier.consumerCursors view value ∧
        Steady producer view now seen) := by
  apply Machine.Settles.bind (discoverUnlessCompleted_settles transport)
  intro _
  have discovered : Settles passes (Steady producer view)
      SharedConsumerBarrier.discoveredMinSequence
      (fun value now seen => (∃ minimum, value = some minimum ∧
        Lowest producer.consumerBarrier.consumerCursors view minimum) ∧
        Steady producer view now seen) := by
    apply Machine.Settles.bind current_settles
    intro barrier
    apply Machine.Settles.given _ (fun _ _ held => held.1)
    intro same
    apply Machine.Settles.bind ((iterate_settles same).strengthen (fun _ _ held => held.2))
    intro order
    apply Machine.Settles.given _ (fun _ _ held => held.1)
    intro ordered
    apply Machine.Settles.bind ((loadMinimum_settles (fun sequence floor =>
      decide_eq_true floor) countable ordered).strengthen (fun _ _ held => held.2))
    intro minimum
    apply Machine.Settles.pure
    rintro now world ⟨⟨lowest, small⟩, steady⟩
    rw [if_neg (by omega)]
    exact ⟨⟨minimum, rfl, lowest⟩, steady⟩
  apply Machine.Settles.bind discovered
  intro value
  apply Machine.Settles.given _ (fun _ _ held => held.1)
  rintro ⟨minimum, rfl, lowest⟩
  exact Machine.Settles.pure minimum (fun _ _ held => ⟨lowest, held.2⟩)

theorem discoverEntries_settles {entries : List DirectoryEntry} (discovered : Nat)
    (healthy : ∀ entry ∈ entries, entry ≠ .unreadable ∧
      ∀ consumerId, entry ≠ .cursorFile consumerId false) :
    Settles passes (Steady producer view) (MmapConsumerBarrier.discoverEntries entries discovered)
      (fun result now seen => (∃ count, result = some count) ∧
        Steady producer view now seen) := by
  induction entries with
  | nil => exact Machine.Settles.pure _ (fun _ _ steady => ⟨⟨discovered, rfl⟩, steady⟩)
  | cons entry rest ih =>
      have later := ih (fun other member => healthy other (List.mem_cons_of_mem entry member))
      obtain ⟨readable, acceptable⟩ := healthy entry List.mem_cons_self
      cases entry with
      | unreadable => exact absurd rfl readable
      | foreign => exact later
      | cursorFile consumerId accepted =>
          apply Machine.Settles.bind current_settles
          intro barrier
          apply Machine.Settles.given
            (barrier.consumerCursors = producer.consumerBarrier.consumerCursors)
            (fun _ _ held => held.1)
          intro same
          split
          · exact later.strengthen (fun _ _ held => held.2)
          · rename_i unknown
            rw [same] at unknown
            cases accepted with
            | false => exact absurd rfl (acceptable consumerId)
            | true =>
                rw [if_pos rfl]
                apply Machine.Settles.bind ((attach_settles unknown).strengthen
                  (fun _ _ held => held.2))
                intro attached
                apply Machine.Settles.given (attached = false) (fun _ _ held => held.1)
                rintro rfl
                exact later.strengthen (fun _ _ held => held.2)

theorem mmapDiscoverConsumers_settles :
    Settles .reliable (Steady producer view) MmapConsumerBarrier.discoverConsumers
      (fun result now seen => (∃ count, result = some count) ∧
        Steady producer view now seen) := by
  have listed : Settles .reliable (Steady producer view) (act .readDirectory)
      (fun (entries : Option (List DirectoryEntry)) now seen =>
        (∃ names, entries = some names ∧ ∀ entry ∈ names, entry ≠ .unreadable ∧
          ∀ consumerId, entry ≠ .cursorFile consumerId false) ∧
        Steady producer view now seen) := by
    apply Machine.Settles.perform
    · intro now world _steady
      refine ⟨.directory (some (world.consumers.map (.cursorFile · true))), _, _, if_pos ?_⟩
      constructor
      · exact fun consumerId member => List.mem_map_of_mem member
      · intro entry member
        obtain ⟨consumerId, _attached, rfl⟩ := List.mem_map.mp member
        exact ⟨nofun, nofun⟩
    · intro now world oracle result after steady performed
      cases oracle <;> simp only [perform] at performed
      case directory entries =>
        split at performed
        · rename_i allowed
          cases performed
          cases result with
          | none => exact allowed.elim
          | some names => exact ⟨⟨names, rfl, allowed.2⟩, steady⟩
        · cases performed
      all_goals cases performed
  apply Machine.Settles.bind listed
  intro entries
  apply Machine.Settles.given _ (fun _ _ held => held.1)
  rintro ⟨names, rfl, healthy⟩
  exact (discoverEntries_settles 0 healthy).strengthen (fun _ _ held => held.2)

theorem bestEffortMinConsumerSequence_settles (countable : Countable producer view) :
    Settles .reliable (Steady producer view) MmapConsumerBarrier.bestEffortMinConsumerSequence
      (fun value now seen => Lowest producer.consumerBarrier.consumerCursors view value ∧
        Steady producer view now seen) := by
  have minimum : Settles .reliable (Steady producer view)
      MmapConsumerBarrier.minConsumerSequence
      (fun value now seen => (∃ minimum, value = some minimum ∧
        Lowest producer.consumerBarrier.consumerCursors view minimum) ∧
        Steady producer view now seen) := by
    apply Machine.Settles.bind mmapDiscoverConsumers_settles
    intro discovered
    apply Machine.Settles.given _ (fun _ _ held => held.1)
    rintro ⟨count, rfl⟩
    apply Machine.Settles.bind (current_settles.strengthen (fun _ _ held => held.2))
    intro barrier
    apply Machine.Settles.given
      (barrier.consumerCursors = producer.consumerBarrier.consumerCursors)
      (fun _ _ held => held.1)
    intro same
    split
    · rename_i empty
      rw [same] at empty
      exact absurd (List.isEmpty_iff.mp empty) countable.nonempty
    · apply Machine.Settles.bind ((iterate_settles same).strengthen (fun _ _ held => held.2))
      intro order
      apply Machine.Settles.given _ (fun _ _ held => held.1)
      intro ordered
      apply Machine.Settles.bind ((loadMinimum_settles (fun _ _ => rfl) countable
        ordered).strengthen (fun _ _ held => held.2))
      intro value
      exact Machine.Settles.pure _ (fun _ _ held => ⟨⟨value, rfl, held.1.1⟩, held.2⟩)
  apply Machine.Settles.bind minimum
  intro value
  apply Machine.Settles.given _ (fun _ _ held => held.1)
  rintro ⟨lowest, rfl, held⟩
  exact Machine.Settles.pure lowest (fun _ _ settled => ⟨held, settled.2⟩)

end Ring
