/-
What a producer can reserve, exactly.

The consumers that the producer knows are all there are. A reservation is answered from
the cached clearance, or from the smallest cursor; it fails with the number of slots that
are missing, and the sums it takes on the way can leave the range of an `i64`.
-/

import Myelon.Ring.Solitary

namespace Ring

open Interleaving

variable {interface : Interface} {passes : DirectoryPasses} {transport : Transport}
  {producer : Producer} {view : View interface} {least : Int}

/-- What the mmap barrier relies on: it can list the directory of the cursors. -/
def Readable (transport : Transport) (passes : DirectoryPasses) : Prop :=
  transport.backend = .mmap → passes = .reliable

/-- The producer goes on behind what is published, and `least` is the smallest cursor of
the consumers, all of whom it knows. -/
structure Gated (ring : RingSize) (producer : Producer) (view : View interface) (least : Int) :
    Prop where
  everyone : ∀ consumerId, consumerId ∈ view.consumers ↔
    consumerId ∈ producer.consumerBarrier.consumerCursors
  lowest : Lowest producer.consumerBarrier.consumerCursors view least
  floor : -1 ≤ least
  behind : least ≤ view.producerSequence
  within : view.producerSequence ≤ least + ring.size
  placed : producer.sequence = view.producerSequence + 1
  inRange : InRange producer.sequence

def free (ring : RingSize) (view : View interface) (least : Int) : Int :=
  least + ring.size - view.producerSequence

namespace Gated

theorem steady (gated : Gated transport.ring producer view least) :
    Steady producer view producer view :=
  ⟨rfl, rfl, rfl, rfl, rfl, gated.everyone⟩

theorem last_bounds {ring : RingSize} (gated : Gated ring producer view least) :
    -1 ≤ view.producerSequence ∧ view.producerSequence < 2 ^ 63 - 1 := by
  have low := gated.floor
  have high := gated.behind
  have placed := gated.placed
  have inRange := gated.inRange
  unfold InRange at inRange
  omega

theorem sequence_nonneg {ring : RingSize} (gated : Gated ring producer view least) :
    0 ≤ producer.sequence := by
  have bounds := gated.last_bounds
  have placed := gated.placed
  omega

theorem next_range {ring : RingSize} (gated : Gated ring producer view least) {n : Nat} :
    InRange (producer.sequence + n) ↔ view.producerSequence + n < 2 ^ 63 - 1 := by
  have placed := gated.placed
  have bounds := gated.last_bounds
  unfold InRange
  omega

theorem free_bounds {ring : RingSize} (gated : Gated ring producer view least) :
    0 ≤ free ring view least ∧ free ring view least ≤ ring.size := by
  have behind := gated.behind
  have within := gated.within
  unfold free
  omega

theorem countable {ring : RingSize} (gated : Gated ring producer view least) :
    Countable producer view where
  floor := by
    intro consumerId member
    have low := gated.floor
    have above := gated.lowest.least consumerId ((gated.everyone consumerId).mp member)
    omega
  small := by
    obtain ⟨consumerId, member, same⟩ := gated.lowest.reached
    have bounds := gated.last_bounds
    have behind := gated.behind
    exact ⟨consumerId, member, by omega⟩

end Gated

/-! ### The steps of a reservation -/

theorem gatingSequence_settles (readable : Readable transport passes)
    (gated : Gated transport.ring producer view least) :
    Settles passes (Steady producer view) (ConsumerBarrier.gatingSequence transport)
      (fun value now seen => value = least ∧ Steady producer view now seen) := by
  have found : Settles passes (Steady producer view) (ConsumerBarrier.gatingSequence transport)
      (fun value now seen => Lowest producer.consumerBarrier.consumerCursors view value ∧
        Steady producer view now seen) := by
    unfold ConsumerBarrier.gatingSequence
    cases backend : transport.backend with
    | sharedMemory => exact getMinConsumerSequence_settles transport gated.countable
    | mmap =>
      rw [readable backend]
      exact bestEffortMinConsumerSequence_settles gated.countable
  apply found.conseq (fun _ _ held => held)
  intro value now world held
  exact ⟨held.1.unique gated.lowest (fun _ => Iff.rfl), held.2⟩

theorem freeSlots_settles (gated : Gated transport.ring producer view least) :
    Settles passes (Steady producer view)
      (Producer.freeSlots transport view.producerSequence least)
      (fun slots now seen => slots = free transport.ring view least ∧
        Steady producer view now seen) := by
  have bounds := gated.last_bounds
  have room := gated.free_bounds
  have size := transport.ring.inRange
  have wraps : InRange (transport.ring.wrapPoint view.producerSequence) := by
    unfold InRange RingSize.wrapPoint
    omega
  have same : least - transport.ring.wrapPoint view.producerSequence =
      free transport.ring view least := by
    unfold free RingSize.wrapPoint
    omega
  apply Machine.Settles.bind (checked_settles wraps)
  intro wrapPoint
  apply Machine.Settles.given _ (fun _ _ held => held.1)
  intro point
  rw [point, same]
  apply (checked_settles _).strengthen (fun _ _ held => held.2)
  unfold InRange
  omega

theorem lastPublished_settles (gated : Gated transport.ring producer view least) :
    Settles passes (fun now seen => now.sequence = producer.sequence ∧
        Steady producer view now seen)
      (checked (producer.sequence - 1))
      (fun last now seen => last = view.producerSequence ∧ Steady producer view now seen) := by
  have bounds := gated.last_bounds
  have same : producer.sequence - 1 = view.producerSequence := by
    have placed := gated.placed
    omega
  rw [same]
  apply (checked_settles _).conseq (fun _ _ held => held.2) (fun _ _ _ held => held)
  unfold InRange
  omega

/-- What a reservation reads: the last published sequence and the number of free slots. -/
def measure (transport : Transport) : ProducerProcess interface (Int × Int) := do
  let producer ← get
  let lastPublished ← checked (producer.sequence - 1)
  let rearSequenceRead ← ConsumerBarrier.gatingSequence transport
  let freeSlots ← Producer.freeSlots transport lastPublished rearSequenceRead
  pure (lastPublished, freeSlots)

/-- What it does with them. -/
def grant (n lastPublished freeSlots : Int) :
    ProducerProcess interface (Except MissingFreeSlots Unit) :=
  if freeSlots < n then do
    let missing ← checked (n - freeSlots)
    pure (.error missing.toNat)
  else do
    let cleared ← checked (lastPublished + freeSlots)
    modifyGet fun producer => (.ok (), { producer with sequenceClearOfConsumers := cleared })

def Widened (producer : Producer) (view : View interface) (cleared : Int) :
    Producer → View interface → Prop :=
  Steady { producer with sequenceClearOfConsumers := cleared } view

theorem grant_full {n : Int} (gated : Gated transport.ring producer view least)
    (small : n < 2 ^ 63) (full : free transport.ring view least < n) :
    Settles passes (Steady producer view)
      (grant n view.producerSequence (free transport.ring view least))
      (fun result now seen => result = .error (n - free transport.ring view least).toNat ∧
        Steady producer view now seen) := by
  have room := gated.free_bounds
  unfold grant
  rw [if_pos full]
  apply Machine.Settles.bind (checked_settles (by unfold InRange; omega))
  intro missing
  apply Machine.Settles.pure
  intro now world held
  rw [held.1]
  exact ⟨rfl, held.2⟩

theorem cleared_eq (ring : RingSize) (view : View interface) (least : Int) :
    view.producerSequence + free ring view least = least + ring.size := by
  unfold free
  omega

theorem grant_room {n : Int} (room : n ≤ free transport.ring view least)
    (inRange : InRange (least + transport.ring.size)) :
    Settles passes (Steady producer view)
      (grant n view.producerSequence (free transport.ring view least))
      (fun result now seen => result = .ok () ∧
        Widened producer view (least + transport.ring.size) now seen) := by
  unfold grant
  rw [if_neg (Int.not_lt.mpr room), cleared_eq]
  apply Machine.Settles.bind (checked_settles inRange)
  intro cleared
  apply Machine.Settles.modifyGet
  intro now world held
  rw [held.1]
  exact ⟨rfl, { held.2 with clear := rfl }⟩

theorem grant_jams {n : Int} (room : n ≤ free transport.ring view least)
    (outOfRange : ¬ InRange (least + transport.ring.size)) :
    Leads passes (Steady producer view)
      (grant n view.producerSequence (free transport.ring view least))
      (fun _ _ _ => False) := by
  unfold grant
  rw [if_neg (Int.not_lt.mpr room), cleared_eq]
  have jams : Leads passes (Steady producer view)
      (checked (least + transport.ring.size) : ProducerProcess interface Int)
      (fun _ _ _ => False) := checked_jams outOfRange
  exact Machine.Leads.never jams

theorem refreshClearanceWindow_eq (transport : Transport) (n : Int) :
    Producer.refreshClearanceWindow transport n =
      (measure transport >>= fun measured => grant n measured.1 measured.2 :
        ProducerProcess interface _) := by
  simp only [measure, bind_assoc, pure_bind]
  rfl

theorem measure_settles (readable : Readable transport passes)
    (gated : Gated transport.ring producer view least) :
    Settles passes (Steady producer view) (measure transport)
      (fun measured now seen =>
        measured = (view.producerSequence, free transport.ring view least) ∧
          Steady producer view now seen) := by
  apply Machine.Settles.bind Machine.Settles.get
  intro self
  apply Machine.Settles.given (self.sequence = producer.sequence) (by
    intro now world held
    rw [held.1]
    exact held.2.sequence)
  intro same
  rw [same]
  apply Machine.Settles.bind ((lastPublished_settles gated).strengthen
    (fun _ _ held => ⟨held.2.sequence, held.2⟩))
  intro lastPublished
  apply Machine.Settles.given _ (fun _ _ held => held.1)
  intro last
  apply Machine.Settles.bind ((gatingSequence_settles readable gated).strengthen
    (fun _ _ held => held.2))
  intro rearSequenceRead
  apply Machine.Settles.given _ (fun _ _ held => held.1)
  intro rear
  rw [last, rear]
  apply Machine.Settles.bind ((freeSlots_settles gated).strengthen (fun _ _ held => held.2))
  intro slots
  apply Machine.Settles.given _ (fun _ _ held => held.1)
  intro counted
  rw [counted]
  exact Machine.Settles.pure _ (fun _ _ held => ⟨rfl, held.2⟩)

/-! ### The ways of a reservation -/

theorem get_bind {α : Type} (rest : Producer → ProducerProcess interface α)
    (self : Producer) : (get >>= rest) self = rest self self := rfl

section Ways

variable {self : Producer} {n : Nat} {next : Int}

theorem expect_pure {condition : Prop} [Decidable condition] (holds : condition) :
    (expect condition : ProducerProcess interface Unit) = pure () := if_pos holds

theorem nextSequences_far (positive : 0 < n)
    (far : ¬ InRange n ∨ self.lastReservedSequence n = none) :
    Producer.nextSequences transport n self =
      (pure (.error (2 ^ 64 - 1)) : ProducerProcess interface _) self := by
  unfold Producer.nextSequences
  by_cases inRange : InRange n
  · have uncounted : self.lastReservedSequence n = none :=
      far.resolve_left (not_not.mpr inRange)
    rw [if_pos inRange, expect_pure positive, pure_bind, get_bind, uncounted]
  · rw [if_neg inRange]

theorem nextSequences_near (positive : 0 < n) (inRange : InRange n)
    (reserved : self.lastReservedSequence n = some next) :
    Producer.nextSequences transport n self =
      (Producer.updateMinConsumerClearanceWindow transport n next >>= fun cleared =>
        pure (cleared.map fun _ => next) : ProducerProcess interface _) self := by
  unfold Producer.nextSequences
  rw [if_pos inRange, expect_pure positive, pure_bind, get_bind, reserved]
  apply congrFun
  apply bind_congr
  intro cleared
  cases cleared with
  | error missing => rfl
  | ok value => rfl

theorem nextSequences_cached (positive : 0 < n) (inRange : InRange n)
    (reserved : self.lastReservedSequence n = some next)
    (cached : next ≤ self.sequenceClearOfConsumers) :
    Producer.nextSequences transport n self =
      (pure (.ok next) : ProducerProcess interface _) self := by
  rw [nextSequences_near positive inRange reserved]
  unfold Producer.updateMinConsumerClearanceWindow
  rw [bind_assoc, get_bind, if_pos cached, pure_bind]
  rfl

theorem nextSequences_live (positive : 0 < n) (inRange : InRange n)
    (reserved : self.lastReservedSequence n = some next)
    (uncached : self.sequenceClearOfConsumers < next) :
    Producer.nextSequences transport n self =
      (measure transport >>= fun measured =>
        grant n measured.1 measured.2 >>= fun cleared =>
          pure (cleared.map fun _ => next) : ProducerProcess interface _) self := by
  rw [nextSequences_near positive inRange reserved]
  unfold Producer.updateMinConsumerClearanceWindow
  rw [bind_assoc, get_bind, if_neg (Int.not_le.mpr uncached), refreshClearanceWindow_eq,
    bind_assoc]

end Ways

/-! ### What a reservation answers -/

theorem Gated.reserved (gated : Gated transport.ring producer view least) {now : Producer}
    {seen : View interface} (steady : Steady producer view now seen) (n : Int) :
    now.lastReservedSequence n =
      if InRange (view.producerSequence + n) then some (view.producerSequence + n)
      else none := by
  have bounds := gated.last_bounds
  have same : now.sequence + -1 = view.producerSequence := by
    have placed := gated.placed
    have kept := steady.sequence
    omega
  have inRange : InRange view.producerSequence := by
    unfold InRange
    omega
  unfold Producer.lastReservedSequence checkedAdd
  rw [same, if_pos inRange]
  rfl

section Answers

variable {n : Nat} (readable : Readable transport passes)
  (gated : Gated transport.ring producer view least) (positive : 0 < n)

include gated positive

theorem nextSequences_rejects
    (far : ¬ InRange n ∨ ¬ InRange (view.producerSequence + n)) :
    Settles passes (Steady producer view) (Producer.nextSequences transport n)
      (fun result now seen => result = .error (2 ^ 64 - 1) ∧ Steady producer view now seen) := by
  apply Machine.Settles.instead
  · intro now world steady
    apply nextSequences_far positive
    apply far.imp_right
    intro outOfRange
    rw [gated.reserved steady, if_neg outOfRange]
  · exact Machine.Settles.pure _ (fun _ _ steady => ⟨rfl, steady⟩)

variable (inRange : InRange n) (fits : InRange (view.producerSequence + n))

include inRange fits

theorem nextSequences_cachedGrant
    (cached : view.producerSequence + n ≤ producer.sequenceClearOfConsumers) :
    Settles passes (Steady producer view) (Producer.nextSequences transport n)
      (fun result now seen => result = .ok (view.producerSequence + n) ∧
        Steady producer view now seen) := by
  apply Machine.Settles.instead
  · intro now world steady
    apply nextSequences_cached positive inRange
    · rw [gated.reserved steady, if_pos fits]
    · rw [steady.clear]
      exact cached
  · exact Machine.Settles.pure _ (fun _ _ steady => ⟨rfl, steady⟩)

variable (uncached : producer.sequenceClearOfConsumers < view.producerSequence + n)

include uncached

include readable

theorem nextSequences_settles {post : Except MissingFreeSlots Int → Producer →
      View interface → Prop}
    (later : Settles passes (Steady producer view)
      (grant n view.producerSequence (free transport.ring view least) >>= fun cleared =>
        pure (cleared.map fun _ => view.producerSequence + n)) post) :
    Settles passes (Steady producer view) (Producer.nextSequences transport n) post := by
  apply Machine.Settles.instead
  · intro now world steady
    apply nextSequences_live positive inRange
    · rw [gated.reserved steady, if_pos fits]
    · rw [steady.clear]
      exact uncached
  · apply Machine.Settles.bind (measure_settles readable gated)
    intro measured
    apply Machine.Settles.given _ (fun _ _ held => held.1)
    intro same
    rw [same]
    exact later.strengthen (fun _ _ held => held.2)

theorem nextSequences_leads {post : Except MissingFreeSlots Int → Producer →
      View interface → Prop}
    (later : Leads passes (Steady producer view)
      (grant n view.producerSequence (free transport.ring view least) >>= fun cleared =>
        pure (cleared.map fun _ => view.producerSequence + n)) post) :
    Leads passes (Steady producer view) (Producer.nextSequences transport n) post := by
  apply Machine.Leads.instead
  · intro now world steady
    apply nextSequences_live positive inRange
    · rw [gated.reserved steady, if_pos fits]
    · rw [steady.clear]
      exact uncached
  · refine Machine.Leads.bind (measure_settles readable gated).leads ?_
    intro measured
    refine Machine.Leads.given (measured =
      (view.producerSequence, free transport.ring view least)) (fun _ _ held => held.1) ?_
    intro same
    rw [same]
    exact later.strengthen (fun _ _ held => held.2)

theorem nextSequences_refuses (full : free transport.ring view least < n) :
    Settles passes (Steady producer view) (Producer.nextSequences transport n)
      (fun result now seen => result = .error (n - free transport.ring view least).toNat ∧
        Steady producer view now seen) := by
  apply nextSequences_settles readable gated positive inRange fits uncached
  apply Machine.Settles.bind (grant_full gated inRange.2 full)
  intro cleared
  apply Machine.Settles.pure
  intro now world held
  rw [held.1]
  exact ⟨rfl, held.2⟩

theorem nextSequences_liveGrant (room : n ≤ free transport.ring view least)
    (sum : InRange (least + transport.ring.size)) :
    Settles passes (Steady producer view) (Producer.nextSequences transport n)
      (fun result now seen => result = .ok (view.producerSequence + n) ∧
        Widened producer view (least + transport.ring.size) now seen) := by
  apply nextSequences_settles readable gated positive inRange fits uncached
  apply Machine.Settles.bind (grant_room room sum)
  intro cleared
  apply Machine.Settles.pure
  intro now world held
  rw [held.1]
  exact ⟨rfl, held.2⟩

theorem nextSequences_jams (room : n ≤ free transport.ring view least)
    (overflows : ¬ InRange (least + transport.ring.size)) :
    Leads passes (Steady producer view) (Producer.nextSequences transport n)
      (fun _ _ _ => False) := by
  apply nextSequences_leads readable gated positive inRange fits uncached
  exact Machine.Leads.never (grant_jams room overflows)

end Answers

end Ring
