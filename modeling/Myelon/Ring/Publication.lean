/-
What a publication does, exactly.

An attempt that gets its slots writes them and stores the last sequence; one that does not
leaves everything but the scans as it is. Next to the end of the range of an `i64` two
sums are not checked before they are taken.
-/

import Myelon.Ring.Capacity
import Myelon.Ring.Known
import Myelon.Ring.Straight

namespace Ring

open Interleaving

variable {interface : Interface} {passes : DirectoryPasses} {transport : Transport}
  {producer : Producer} {view : View interface} {least : Int}

/-! ### Publication -/

def Filling (producer : Producer) (view : View interface) (now : Producer)
    (seen : View interface) : Prop :=
  ∃ slots, Steady producer { view with slots } now seen

/-- A closure that returns, whatever the slot holds. -/
def Returns (update : interface.Value → Option interface.Value) : Prop :=
  ∀ value, (update value).isSome = true

theorem perform_updateSlot (passes : DirectoryPasses) {sequence : Int} {slot : Nat}
    {update : interface.Value → Option interface.Value} {value : interface.Value}
    {world : World interface} (filled : update (world.slots slot) = some value)
    (oracle : Oracle interface) :
    perform passes (.updateSlot sequence slot update) oracle world =
      some ((), { world with
        slots := Function.update world.slots slot value
        written := world.written ++ [value] }) := by
  simp only [perform, filled]
  rfl

theorem writeSlot_settles {sequence : Int}
    {update : interface.Value → Option interface.Value} (positive : 0 ≤ sequence)
    (returns : Returns update) :
    Settles passes (Filling producer view) (Producer.writeSlot transport sequence update)
      (fun _ => Filling producer view) := by
  have pointer : Settles passes (Filling producer view)
      (transport.ring.get sequence : ProducerProcess interface Nat)
      (fun _ => Filling producer view) := by
    apply Machine.Settles.bind (expect_settles positive)
    intro _
    exact Machine.Settles.pure _ (fun _ _ held => held)
  apply Machine.Settles.bind pointer
  intro slot
  apply Machine.Settles.perform
  · intro now world _
    obtain ⟨value, filled⟩ := Option.isSome_iff_exists.mp (returns (world.slots slot))
    exact ⟨.silent, _, _, perform_updateSlot passes filled .silent⟩
  · intro now world oracle result after ⟨slots, steady⟩ performed
    obtain ⟨value, filled⟩ := Option.isSome_iff_exists.mp (returns (world.slots slot))
    cases (perform_updateSlot passes filled oracle).symm.trans performed
    have rest := congrArg (fun seen : View interface =>
      { seen with slots := Function.update world.slots slot value }) steady.seen
    exact ⟨Function.update world.slots slot value, { steady with seen := rest }⟩

def Published (producer : Producer) (view : View interface) (n cleared : Int) (now : Producer)
    (seen : View interface) : Prop :=
  ∃ slots, Steady { producer with
      sequence := producer.sequence + n
      sequenceClearOfConsumers := cleared }
    { view with
      slots
      producerSequence := view.producerSequence + n } now seen

theorem stored_settles (sequence : Int) :
    Settles passes (Filling producer view) (act (.storeProducerSequence sequence))
      (fun _ => Filling producer { view with producerSequence := sequence }) := by
  apply Machine.Settles.perform
  · exact fun _ _ _ => ⟨.silent, _, _, rfl⟩
  · intro now world oracle result after ⟨slots, steady⟩ performed
    cases performed
    have rest := congrArg (fun seen : View interface =>
      { seen with producerSequence := sequence }) steady.seen
    exact ⟨slots, { steady with seen := rest }⟩

theorem storeSequence_settles {n : Int} (inRange : InRange (producer.sequence + n)) :
    Settles passes (Filling producer view)
      (Producer.storeSequence (view.producerSequence + n) n)
      (fun _ => Published producer view n producer.sequenceClearOfConsumers) := by
  apply Machine.Settles.bind (stored_settles _)
  intro _
  apply Machine.Settles.bind Machine.Settles.get
  intro self
  apply Machine.Settles.given (self.sequence = producer.sequence) (by
    intro now world held
    obtain ⟨same, slots, steady⟩ := held
    rw [same]
    exact steady.sequence)
  intro same
  rw [same]
  apply Machine.Settles.bind ((checked_settles inRange).strengthen (fun _ _ held => held.2))
  intro next
  apply Machine.Settles.modifyGet
  intro now world ⟨counted, slots, steady⟩
  exact ⟨slots, steady.seen, steady.cursors, counted, steady.clear, steady.liveness,
    steady.everyone⟩

theorem storeSequence_jams {n : Int} (outOfRange : ¬ InRange (producer.sequence + n)) :
    Leads passes (Filling producer view)
      (Producer.storeSequence (view.producerSequence + n) n) (fun _ _ _ => False) := by
  refine Machine.Leads.bind (stored_settles (view.producerSequence + n)).leads ?_
  intro _
  refine Machine.Leads.bind Machine.Settles.get.leads ?_
  intro self
  refine Machine.Leads.given (self.sequence = producer.sequence) ?_ ?_
  · intro now world held
    obtain ⟨same, slots, steady⟩ := held
    rw [same]
    exact steady.sequence
  · intro same
    rw [same]
    have jams : Leads passes
        (Filling producer { view with producerSequence := view.producerSequence + n })
        (checked (producer.sequence + n) : ProducerProcess interface Int)
        (fun _ _ _ => False) := checked_jams outOfRange
    exact Machine.Leads.never (jams.strengthen (fun _ _ held => held.2))

section Apply

variable (placed : producer.sequence = view.producerSequence + 1)
  (positive : 0 ≤ producer.sequence)

include placed positive

theorem applyUpdate_settles {update : interface.Value → Option interface.Value}
    (returns : Returns update) (inRange : InRange (producer.sequence + 1)) :
    Settles passes (Steady producer view) (Producer.applyUpdate transport update)
      (fun result now seen => result = view.producerSequence + 1 ∧
        Published producer view 1 producer.sequenceClearOfConsumers now seen) := by
  apply Machine.Settles.bind Machine.Settles.get
  intro self
  apply Machine.Settles.given (self.sequence = producer.sequence) (by
    intro now world held
    rw [held.1]
    exact held.2.sequence)
  intro same
  rw [same]
  apply Machine.Settles.bind ((expect_settles positive).strengthen (fun _ _ held => held.2))
  intro _
  apply Machine.Settles.bind ((writeSlot_settles positive returns).strengthen
    (fun _ _ steady => ⟨view.slots, steady⟩))
  intro _
  have stores : Settles passes (Filling producer view)
      (Producer.storeSequence (view.producerSequence + 1) 1)
      (fun _ => Published producer view 1 producer.sequenceClearOfConsumers) :=
    storeSequence_settles inRange
  rw [← placed] at stores
  apply Machine.Settles.bind stores
  intro _
  exact Machine.Settles.pure _ (fun _ _ published => ⟨placed, published⟩)

theorem applyUpdate_jams {update : interface.Value → Option interface.Value}
    (returns : Returns update) (outOfRange : ¬ InRange (producer.sequence + 1)) :
    Leads passes (Steady producer view) (Producer.applyUpdate transport update)
      (fun _ _ _ => False) := by
  refine Machine.Leads.bind Machine.Settles.get.leads ?_
  intro self
  refine Machine.Leads.given (self.sequence = producer.sequence) ?_ ?_
  · intro now world held
    rw [held.1]
    exact held.2.sequence
  · intro same
    rw [same, expect_pure positive, pure_bind]
    have written : Leads passes (fun now seen => self = now ∧ Steady producer view now seen)
        (Producer.writeSlot transport producer.sequence update)
        (fun _ => Filling producer view) :=
      (writeSlot_settles positive returns).leads.strengthen
        (fun _ _ held => ⟨view.slots, held.2⟩)
    refine Machine.Leads.bind written ?_
    intro _
    have jams : Leads passes (Filling producer view)
        (Producer.storeSequence (view.producerSequence + 1) 1) (fun _ _ _ => False) :=
      storeSequence_jams outOfRange
    rw [← placed] at jams
    exact Machine.Leads.never jams

end Apply

def fillBatch (transport : Transport) (n : Nat)
    (updateFn : Nat → interface.Value → Option interface.Value) (lower upper : Int) :
    ProducerProcess interface Int := do
  Routine.each (fun i : Nat => Producer.writeSlot transport (lower + i) (updateFn i))
    (List.range n)
  Producer.storeSequence upper n
  pure upper

theorem checked_pure {value : Int} (inRange : InRange value) :
    (checked value : ProducerProcess interface Int) = pure value := if_pos inRange

section Batch

variable {n : Nat} {updateFn : Nat → interface.Value → Option interface.Value}

theorem applyBatchUpdates_run {self : Producer} (positive : 0 < n) (counted : InRange n)
    (placed : self.sequence = view.producerSequence + 1)
    (fits : InRange (view.producerSequence + n)) :
    Producer.applyBatchUpdates transport n updateFn self =
      fillBatch transport n updateFn self.sequence (view.producerSequence + n) self := by
  have upper : self.sequence + (n - 1) = view.producerSequence + n := by omega
  unfold Producer.applyBatchUpdates
  rw [expect_pure positive, pure_bind, expect_pure counted, pure_bind, get_bind]
  rw [upper, checked_pure fits, pure_bind]
  rfl

variable (placed : producer.sequence = view.producerSequence + 1)
  (low : 0 ≤ producer.sequence) (positive : 0 < n) (counted : InRange n)
  (fits : InRange (view.producerSequence + n)) (returns : ∀ index, Returns (updateFn index))

include placed low returns

theorem slots_settle :
    Settles passes (Steady producer view)
      (Routine.each (fun i : Nat => Producer.writeSlot transport (producer.sequence + i)
        (updateFn i)) (List.range n)) (fun _ => Filling producer view) := by
  have each : Settles passes (Filling producer view)
      (Routine.each (fun i : Nat => Producer.writeSlot transport (producer.sequence + i)
        (updateFn i)) (List.range n)) (fun _ => Filling producer view) := by
    apply Machine.Settles.each
    intro index
    exact writeSlot_settles (by omega) (returns index)
  exact each.strengthen (fun _ _ steady => ⟨view.slots, steady⟩)

include positive counted fits

theorem applyBatchUpdates_settles (inRange : InRange (producer.sequence + n)) :
    Settles passes (Steady producer view) (Producer.applyBatchUpdates transport n updateFn)
      (fun result now seen => result = view.producerSequence + n ∧
        Published producer view n producer.sequenceClearOfConsumers now seen) := by
  apply Machine.Settles.instead
  · intro now world steady
    rw [applyBatchUpdates_run positive counted (steady.sequence.trans placed) fits,
      steady.sequence]
  · apply Machine.Settles.bind (slots_settle placed low returns)
    intro _
    apply Machine.Settles.bind (storeSequence_settles inRange)
    intro _
    exact Machine.Settles.pure _ (fun _ _ published => ⟨rfl, published⟩)

theorem applyBatchUpdates_jams (outOfRange : ¬ InRange (producer.sequence + n)) :
    Leads passes (Steady producer view) (Producer.applyBatchUpdates transport n updateFn)
      (fun _ _ _ => False) := by
  apply Machine.Leads.instead
  · intro now world steady
    rw [applyBatchUpdates_run positive counted (steady.sequence.trans placed) fits,
      steady.sequence]
  · refine Machine.Leads.bind (slots_settle placed low returns).leads ?_
    intro _
    exact Machine.Leads.never (storeSequence_jams outOfRange)

end Batch

/-! ### Attempts -/

def clearance (ring : RingSize) (producer : Producer) (view : View interface) (least : Int)
    (n : Nat) : Int :=
  if view.producerSequence + n ≤ producer.sequenceClearOfConsumers then
    producer.sequenceClearOfConsumers
  else least + ring.size

section Attempts

variable {n : Nat} {updateFn : Nat → interface.Value → Option interface.Value}
  (readable : Readable transport passes) (gated : Gated transport.ring producer view least)
  (positive : 0 < n)

include positive

theorem tryBatchPublish_fails {missing : MissingFreeSlots}
    (reserves : Settles passes (Steady producer view) (Producer.nextSequences transport n)
      (fun result now seen => result = .error missing ∧ Steady producer view now seen)) :
    Settles passes (Steady producer view) (Producer.tryBatchPublish transport n updateFn)
      (fun result now seen => result = .error missing ∧ Steady producer view now seen) := by
  unfold Producer.tryBatchPublish
  rw [if_neg (Nat.ne_of_gt positive)]
  apply Machine.Settles.bind reserves
  intro reserved
  apply Machine.Settles.given _ (fun _ _ held => held.1)
  intro same
  rw [same]
  exact Machine.Settles.pure _ (fun _ _ held => ⟨rfl, held.2⟩)

variable (counted : InRange n) (fits : InRange (view.producerSequence + n))

include counted fits readable gated

theorem nextSequences_grants
    (granted : view.producerSequence + n ≤ producer.sequenceClearOfConsumers ∨
      (n ≤ free transport.ring view least ∧ InRange (least + transport.ring.size))) :
    Settles passes (Steady producer view) (Producer.nextSequences transport n)
      (fun result now seen => result = .ok (view.producerSequence + n) ∧
        Widened producer view (clearance transport.ring producer view least n) now seen) := by
  unfold clearance
  split
  · rename_i cached
    exact nextSequences_cachedGrant gated positive counted fits cached
  · rename_i uncached
    obtain ⟨room, sum⟩ := granted.resolve_left uncached
    exact nextSequences_liveGrant readable gated positive counted fits
      (Int.not_le.mp uncached) room sum

section Reserved

variable {α : Type} {apply : ProducerProcess interface Int}
  {rest : Except MissingFreeSlots Int → ProducerProcess interface α}
  {goesOn : Int → ProducerProcess interface α}
  (same : rest (.ok (view.producerSequence + n)) = apply >>= goesOn)

include same

theorem reserved_succeeds {post : α → Producer → View interface → Prop}
    (granted : view.producerSequence + n ≤ producer.sequenceClearOfConsumers ∨
      (n ≤ free transport.ring view least ∧ InRange (least + transport.ring.size)))
    (applies : ∀ cleared, Settles passes (Widened producer view cleared) apply
      (fun result now seen => result = view.producerSequence + n ∧
        Published producer view n cleared now seen))
    (ends : Settles passes
      (Published producer view n (clearance transport.ring producer view least n))
      (goesOn (view.producerSequence + n)) post) :
    Settles passes (Steady producer view) (Producer.nextSequences transport n >>= rest)
      post := by
  apply Machine.Settles.bind (nextSequences_grants readable gated positive counted fits granted)
  intro reserved
  apply Machine.Settles.given _ (fun _ _ held => held.1)
  intro given
  rw [given, same]
  apply Machine.Settles.bind ((applies _).strengthen (fun _ _ held => held.2))
  intro sequence
  apply Machine.Settles.given _ (fun _ _ held => held.1)
  intro published
  rw [published]
  exact ends.strengthen (fun _ _ held => held.2)

theorem reserved_jams
    (granted : view.producerSequence + n ≤ producer.sequenceClearOfConsumers ∨
      n ≤ free transport.ring view least)
    (overflows : view.producerSequence + n = 2 ^ 63 - 1 ∨
      (producer.sequenceClearOfConsumers < view.producerSequence + n ∧
        ¬ InRange (least + transport.ring.size)))
    (jams : ∀ cleared, ¬ InRange (producer.sequence + n) →
      Leads passes (Widened producer view cleared) apply (fun _ _ _ => False)) :
    Leads passes (Steady producer view) (Producer.nextSequences transport n >>= rest)
      (fun _ _ _ => False) := by
  by_cases sum : view.producerSequence + n ≤ producer.sequenceClearOfConsumers ∨
      InRange (least + transport.ring.size)
  · have last : view.producerSequence + n = 2 ^ 63 - 1 := by
      rcases overflows with last | ⟨uncached, outOfRange⟩
      · exact last
      · exact absurd sum (not_or.mpr ⟨Int.not_le.mpr uncached, outOfRange⟩)
    have granted' : view.producerSequence + n ≤ producer.sequenceClearOfConsumers ∨
        (n ≤ free transport.ring view least ∧ InRange (least + transport.ring.size)) := by
      tauto
    refine Machine.Leads.bind
      (nextSequences_grants readable gated positive counted fits granted').leads ?_
    intro reserved
    refine Machine.Leads.given (reserved = .ok (view.producerSequence + n))
      (fun _ _ held => held.1) ?_
    intro given
    rw [given, same]
    have stuck := jams (clearance transport.ring producer view least n) (fun inRange => by
      have next := gated.next_range.mp inRange
      omega)
    exact Machine.Leads.never (stuck.strengthen (fun _ _ held => held.2))
  · obtain ⟨uncached, outOfRange⟩ := not_or.mp sum
    have room := granted.resolve_left uncached
    exact Machine.Leads.never (nextSequences_jams readable gated positive counted fits
      (Int.not_le.mp uncached) room outOfRange)

end Reserved

variable (returns : ∀ index, Returns (updateFn index))

include returns

theorem tryBatchPublish_succeeds
    (granted : view.producerSequence + n ≤ producer.sequenceClearOfConsumers ∨
      (n ≤ free transport.ring view least ∧ InRange (least + transport.ring.size)))
    (next : view.producerSequence + n < 2 ^ 63 - 1) :
    Settles passes (Steady producer view) (Producer.tryBatchPublish transport n updateFn)
      (fun result now seen => result = .ok (view.producerSequence + n) ∧
        Published producer view n (clearance transport.ring producer view least n)
          now seen) := by
  unfold Producer.tryBatchPublish
  rw [if_neg (Nat.ne_of_gt positive)]
  apply reserved_succeeds readable gated positive counted fits rfl granted
  · intro cleared
    have placed : ({ producer with sequenceClearOfConsumers := cleared } : Producer).sequence =
        view.producerSequence + 1 := gated.placed
    exact applyBatchUpdates_settles placed gated.sequence_nonneg positive counted fits returns
      (gated.next_range.mpr next)
  · exact Machine.Settles.pure _ (fun _ _ published => ⟨rfl, published⟩)

theorem tryBatchPublish_jams
    (granted : view.producerSequence + n ≤ producer.sequenceClearOfConsumers ∨
      n ≤ free transport.ring view least)
    (overflows : view.producerSequence + n = 2 ^ 63 - 1 ∨
      (producer.sequenceClearOfConsumers < view.producerSequence + n ∧
        ¬ InRange (least + transport.ring.size))) :
    Leads passes (Steady producer view) (Producer.tryBatchPublish transport n updateFn)
      (fun _ _ _ => False) := by
  unfold Producer.tryBatchPublish
  rw [if_neg (Nat.ne_of_gt positive)]
  apply reserved_jams readable gated positive counted fits rfl granted overflows
  intro cleared outOfRange
  have placed : ({ producer with sequenceClearOfConsumers := cleared } : Producer).sequence =
      view.producerSequence + 1 := gated.placed
  exact applyBatchUpdates_jams placed gated.sequence_nonneg positive counted fits returns
    outOfRange

end Attempts

/-! ### One event -/

theorem counted_settles {pre : Producer → View interface → Prop} (attached : Bool)
    (counter : Counter) :
    Settles passes pre (Producer.count attached counter) (fun _ => pre) :=
  settles_onlyIf (settles_addCounter counter 1)

section One

variable {update : interface.Value → Option interface.Value}
  (readable : Readable transport passes) (gated : Gated transport.ring producer view least)

theorem tryPublish_fails {missing : MissingFreeSlots}
    (reserves : Settles passes (Steady producer view) (Producer.nextSequences transport 1)
      (fun result now seen => result = .error missing ∧ Steady producer view now seen)) :
    Settles passes (Steady producer view) (Producer.tryPublish transport update)
      (fun result now seen => result = .error .ringBufferFull ∧
        Steady producer view now seen) := by
  apply Machine.Settles.bind Machine.Settles.get
  intro self
  apply Machine.Settles.bind (reserves.strengthen (fun _ _ held => held.2))
  intro reserved
  apply Machine.Settles.given _ (fun _ _ held => held.1)
  intro same
  rw [same]
  apply Machine.Settles.bind ((counted_settles _ _).strengthen (fun _ _ held => held.2))
  intro _
  exact Machine.Settles.pure _ (fun _ _ steady => ⟨rfl, steady⟩)

include readable gated

variable (returns : Returns update)

include returns

theorem tryPublish_succeeds
    (granted : view.producerSequence + 1 ≤ producer.sequenceClearOfConsumers ∨
      (1 ≤ free transport.ring view least ∧ InRange (least + transport.ring.size)))
    (next : view.producerSequence + 1 < 2 ^ 63 - 1) :
    Settles passes (Steady producer view) (Producer.tryPublish transport update)
      (fun result now seen => result = .ok (view.producerSequence + 1) ∧
        Published producer view 1 (clearance transport.ring producer view least 1)
          now seen) := by
  have bounds := gated.last_bounds
  have fits : InRange (view.producerSequence + (1 : Nat)) := by
    unfold InRange
    omega
  apply Machine.Settles.bind Machine.Settles.get
  intro self
  apply Machine.Settles.strengthen _ (fun _ _ held => held.2)
  change Settles passes (Steady producer view) _
    (fun (result : Except RingBufferFull Int) now seen => result = .ok (view.producerSequence + 1) ∧
      Published producer view 1 (clearance transport.ring producer view least 1) now seen)
  apply reserved_succeeds readable gated Nat.one_pos (by decide) fits rfl granted
  · intro cleared
    have placed : ({ producer with sequenceClearOfConsumers := cleared } : Producer).sequence =
        view.producerSequence + 1 := gated.placed
    exact applyUpdate_settles placed gated.sequence_nonneg returns (gated.next_range.mpr next)
  · apply Machine.Settles.bind (counted_settles _ _)
    intro _
    exact Machine.Settles.pure _ (fun _ _ published => ⟨rfl, published⟩)

theorem tryPublish_jams
    (granted : view.producerSequence + 1 ≤ producer.sequenceClearOfConsumers ∨
      1 ≤ free transport.ring view least)
    (overflows : view.producerSequence + 1 = 2 ^ 63 - 1 ∨
      (producer.sequenceClearOfConsumers < view.producerSequence + 1 ∧
        ¬ InRange (least + transport.ring.size))) :
    Leads passes (Steady producer view) (Producer.tryPublish transport update)
      (fun _ _ _ => False) := by
  have bounds := gated.last_bounds
  have fits : InRange (view.producerSequence + (1 : Nat)) := by
    unfold InRange
    omega
  refine Machine.Leads.bind Machine.Settles.get.leads ?_
  intro self
  refine Machine.Leads.strengthen ?_ (fun _ _ held => held.2)
  change Leads passes (Steady producer view) _ (fun _ _ _ => False)
  apply reserved_jams readable gated Nat.one_pos (by decide) fits rfl granted overflows
  intro cleared outOfRange
  have placed : ({ producer with sequenceClearOfConsumers := cleared } : Producer).sequence =
      view.producerSequence + 1 := gated.placed
  exact applyUpdate_jams placed gated.sequence_nonneg returns outOfRange

end One

/-! ### Publications whose sums are in range -/

/-- The slots are given, but one of the two sums that are not checked is out of range: the
sequence to go on with, or the clearance that a look at the consumers leaves behind. -/
structure Overflows (ring : RingSize) (producer : Producer) (view : View interface)
    (least : Int) (n : Nat) : Prop where
  positive : 0 < n
  counted : n < 2 ^ 63
  fits : view.producerSequence + n < 2 ^ 63
  granted : view.producerSequence + n ≤ producer.sequenceClearOfConsumers ∨
    n ≤ free ring view least
  beyond : view.producerSequence + n = 2 ^ 63 - 1 ∨
    (producer.sequenceClearOfConsumers < view.producerSequence + n ∧
      2 ^ 63 ≤ least + ring.size)

def Exactly (producer : Producer) (view : View interface) (now : Producer)
    (seen : View interface) : Prop :=
  now = producer ∧ seen = view

/-- An attempt fails with everything as it was, or it succeeds; in either case it ends. -/
def FailsCleanly {ε : Type} (producer : Producer) (view : View interface)
    (result : Except ε Int) (now : Producer) (seen : View interface) : Prop :=
  match result with
  | .error _ => Steady producer view now seen
  | .ok _ => True

theorem failsCleanly_ok {ε : Type} {result : Except ε Int} {sequence : Int} {now : Producer}
    {seen : View interface} (succeeded : result = .ok sequence) :
    FailsCleanly producer view result now seen := by
  rw [succeeded]
  exact trivial

theorem failsCleanly_error {ε : Type} {result : Except ε Int} {error : ε} {now : Producer}
    {seen : View interface} (failed : result = .error error)
    (steady : Steady producer view now seen) : FailsCleanly producer view result now seen := by
  rw [failed]
  exact steady

theorem Gated.exactly (gated : Gated transport.ring producer view least) (now : Producer)
    (seen : View interface) (exactly : Exactly producer view now seen) :
    Steady producer view now seen := by
  obtain ⟨same, same'⟩ := exactly
  rw [same, same']
  exact gated.steady

theorem InRange.of_fits {n : Nat} (gated : Gated transport.ring producer view least)
    (fits : view.producerSequence + n < 2 ^ 63) : InRange (view.producerSequence + n) := by
  have bounds := gated.last_bounds
  unfold InRange
  omega

theorem sum_inRange_iff (gated : Gated transport.ring producer view least) :
    InRange (least + transport.ring.size) ↔ least + transport.ring.size < 2 ^ 63 := by
  have floor := gated.floor
  unfold InRange
  omega

theorem Gated.grantable (gated : Gated transport.ring producer view least) {n : Nat}
    (granted : view.producerSequence + n ≤ producer.sequenceClearOfConsumers ∨
      n ≤ free transport.ring view least)
    (inRange : ¬ (producer.sequenceClearOfConsumers < view.producerSequence + n ∧
      2 ^ 63 ≤ least + transport.ring.size)) :
    view.producerSequence + n ≤ producer.sequenceClearOfConsumers ∨
      (n ≤ free transport.ring view least ∧ InRange (least + transport.ring.size)) := by
  rw [sum_inRange_iff gated]
  omega

theorem nextSequences_fails {n : Nat} (readable : Readable transport passes)
    (gated : Gated transport.ring producer view least) (positive : 0 < n)
    (refused : ¬ (n < 2 ^ 63 ∧ view.producerSequence + n < 2 ^ 63) ∨
      ¬ (view.producerSequence + n ≤ producer.sequenceClearOfConsumers ∨
        n ≤ free transport.ring view least)) :
    Settles passes (Steady producer view) (Producer.nextSequences transport n)
      (fun result now seen => result = .error
          (if n < 2 ^ 63 ∧ view.producerSequence + n < 2 ^ 63 then
            (n - free transport.ring view least).toNat
          else 2 ^ 64 - 1) ∧ Steady producer view now seen) := by
  by_cases near : n < 2 ^ 63 ∧ view.producerSequence + n < 2 ^ 63
  · rw [if_pos near]
    obtain ⟨uncached, full⟩ := not_or.mp (refused.resolve_left (not_not.mpr near))
    have counted : InRange n := by
      unfold InRange
      omega
    exact nextSequences_refuses readable gated positive counted (.of_fits gated near.2)
      (Int.not_le.mp uncached) (Int.not_le.mp full)
  · rw [if_neg near]
    apply nextSequences_rejects gated positive
    unfold InRange
    omega

section Range

variable {n : Nat} {updateFn : Nat → interface.Value → Option interface.Value}
  (readable : Readable transport passes) (gated : Gated transport.ring producer view least)
  (returns : ∀ index, Returns (updateFn index))

theorem tryBatchPublish_nothing (gated : Gated transport.ring producer view least) :
    Settles passes (Steady producer view) (Producer.tryBatchPublish transport 0 updateFn)
      (fun result now seen => result = .ok view.producerSequence ∧
        Steady producer view now seen) := by
  apply Machine.Settles.bind Machine.Settles.get
  intro self
  apply Machine.Settles.given (self.sequence = producer.sequence) (by
    intro now world held
    rw [held.1]
    exact held.2.sequence)
  intro same
  rw [same]
  apply Machine.Settles.bind ((lastPublished_settles gated).strengthen
    (fun _ _ held => ⟨held.2.sequence, held.2⟩))
  intro last
  apply Machine.Settles.pure
  intro now world held
  rw [held.1]
  exact ⟨rfl, held.2⟩

include readable gated returns

theorem tryBatchPublish_failsCleanly
    (inRange : ¬ Overflows transport.ring producer view least n) :
    Settles passes (Steady producer view) (Producer.tryBatchPublish transport n updateFn)
      (FailsCleanly producer view) := by
  rcases Nat.eq_zero_or_pos n with none | positive
  · subst none
    exact (tryBatchPublish_nothing gated).conseq (fun _ _ held => held)
      (fun _ _ _ held => failsCleanly_ok held.1)
  · by_cases given : (n < 2 ^ 63 ∧ view.producerSequence + n < 2 ^ 63) ∧
        (view.producerSequence + n ≤ producer.sequenceClearOfConsumers ∨
          n ≤ free transport.ring view least)
    · obtain ⟨near, granted⟩ := given
      have sums := not_or.mp fun beyond => inRange ⟨positive, near.1, near.2, granted, beyond⟩
      have counted : InRange n := by
        unfold InRange
        omega
      have succeeds := tryBatchPublish_succeeds readable gated positive counted
        (.of_fits gated near.2) returns (gated.grantable granted sums.2) (by omega)
      exact succeeds.conseq (fun _ _ held => held)
        (fun _ _ _ held => failsCleanly_ok held.1)
    · exact (tryBatchPublish_fails positive
        (nextSequences_fails readable gated positive (not_and_or.mp given))).conseq
          (fun _ _ held => held) (fun _ _ _ held => failsCleanly_error held.1 held.2)

theorem tryBatchPublish_overflows (overflows : Overflows transport.ring producer view least n) :
    Leads passes (Steady producer view) (Producer.tryBatchPublish transport n updateFn)
      (fun _ _ _ => False) := by
  have counted : InRange n := by
    have small := overflows.counted
    unfold InRange
    omega
  apply tryBatchPublish_jams readable gated overflows.positive counted
    (.of_fits gated overflows.fits) returns overflows.granted
  rw [sum_inRange_iff gated, Int.not_lt]
  exact overflows.beyond

end Range

section RangeOfOne

variable {update : interface.Value → Option interface.Value}
  (readable : Readable transport passes) (gated : Gated transport.ring producer view least)
  (returns : Returns update)

include readable gated returns

theorem tryPublish_failsCleanly (inRange : ¬ Overflows transport.ring producer view least 1) :
    Settles passes (Steady producer view) (Producer.tryPublish transport update)
      (FailsCleanly producer view) := by
  have bounds := gated.last_bounds
  by_cases granted : view.producerSequence + 1 ≤ producer.sequenceClearOfConsumers ∨
      1 ≤ free transport.ring view least
  · have sums := not_or.mp fun beyond =>
      inRange ⟨Nat.one_pos, by decide, by omega, granted, beyond⟩
    have succeeds := tryPublish_succeeds readable gated returns
      (gated.grantable (n := 1) granted sums.2) (by omega)
    exact succeeds.conseq (fun _ _ held => held)
      (fun _ _ _ held => failsCleanly_ok held.1)
  · exact (tryPublish_fails
      (nextSequences_fails readable gated Nat.one_pos (.inr granted))).conseq
        (fun _ _ held => held) (fun _ _ _ held => failsCleanly_error held.1 held.2)

theorem tryPublish_overflows (overflows : Overflows transport.ring producer view least 1) :
    Leads passes (Steady producer view) (Producer.tryPublish transport update)
      (fun _ _ _ => False) := by
  apply tryPublish_jams readable gated returns overflows.granted
  rw [sum_inRange_iff gated, Int.not_lt]
  exact overflows.beyond

end RangeOfOne

/-- An attempt fails cleanly or succeeds exactly where neither of the two sums that are not
checked is out of range. -/
theorem attempts_in_range_iff {world : World interface} (n : Nat)
    (update : interface.Value → Option interface.Value)
    (updateFn : Nat → interface.Value → Option interface.Value)
    (readable : Readable transport passes)
    (gated : Gated transport.ring producer world.view least)
    (returns : Returns update) (returnsEach : ∀ index, Returns (updateFn index)) :
    (Terminates passes (Exactly producer world.view)
        (Producer.tryBatchPublish transport n updateFn) (FailsCleanly producer world.view) ↔
      ¬ Overflows transport.ring producer world.view least n) ∧
    (Terminates passes (Exactly producer world.view) (Producer.tryPublish transport update)
        (FailsCleanly producer world.view) ↔
      ¬ Overflows transport.ring producer world.view least 1) := by
  constructor
  · constructor
    · intro terminates overflows
      have jams := (tryBatchPublish_overflows readable gated returnsEach overflows).strengthen
        (fun self world => gated.exactly self world.view)
      exact not_terminates jams ⟨rfl, rfl⟩ terminates
    · intro inRange
      exact (Straight.tryBatchPublish n updateFn).terminates
        ((tryBatchPublish_failsCleanly readable gated returnsEach inRange).strengthen
          (fun self world => gated.exactly self world.view))
  · constructor
    · intro terminates overflows
      have jams := (tryPublish_overflows readable gated returns overflows).strengthen
        (fun self world => gated.exactly self world.view)
      exact not_terminates jams ⟨rfl, rfl⟩ terminates
    · intro inRange
      exact (Straight.tryPublish update).terminates
        ((tryPublish_failsCleanly readable gated returns inRange).strengthen
          (fun self world => gated.exactly self world.view))

section Example

def caughtUp (last : Int) : World (plain Nat) :=
  { @World.initial (plain Nat) fun _ => 0 with
    producerSequence := last
    consumers := ["reader"]
    consumerSequence := fun _ => last }

def upTo (last : Int) : Producer :=
  { knowing oneSlot ["reader"] with
    sequence := last + 1
    sequenceClearOfConsumers := last }

theorem upTo_gated {last : Int} (low : -1 ≤ last) (high : last < 2 ^ 63 - 1) :
    Gated oneSlot.ring (upTo last) (caughtUp last).view last where
  everyone _ := Iff.rfl
  lowest := ⟨fun _ _ => Int.le_refl last, "reader", List.mem_singleton_self _, rfl⟩
  floor := low
  behind := Int.le_refl last
  within := by
    change last ≤ last + 1
    omega
  placed := rfl
  inRange := by
    unfold InRange
    change -2 ^ 63 ≤ last + 1 ∧ last + 1 < 2 ^ 63
    omega

theorem attempts_in_range_early :
    (Terminates .reliable (Exactly (upTo 6) (caughtUp 6).view)
        (Producer.tryBatchPublish oneSlot 1 fun _ => some)
        (FailsCleanly (upTo 6) (caughtUp 6).view) ↔
      ¬ Overflows oneSlot.ring (upTo 6) (caughtUp 6).view 6 1) ∧
    (Terminates .reliable (Exactly (upTo 6) (caughtUp 6).view)
        (Producer.tryPublish oneSlot some) (FailsCleanly (upTo 6) (caughtUp 6).view) ↔
      ¬ Overflows oneSlot.ring (upTo 6) (caughtUp 6).view 6 1) :=
  attempts_in_range_iff 1 some (fun _ => some) (fun _ => rfl)
    (upTo_gated (by decide) (by decide)) (fun _ => rfl) (fun _ _ => rfl)

def lastButOne : Int := 2 ^ 63 - 2

/-- The ring has a free slot, and the sequence that follows is the last of an `i64`. -/
theorem lastButOne_overflows :
    Overflows oneSlot.ring (upTo lastButOne) (caughtUp lastButOne).view lastButOne 1 where
  positive := Nat.one_pos
  counted := by decide
  fits := by decide
  granted := .inr (by decide)
  beyond := .inl rfl

/-- The last sequence of an `i64` is published, and the producer cannot go on behind it. -/
theorem attempts_beyond_range :
    Gated oneSlot.ring (upTo lastButOne) (caughtUp lastButOne).view lastButOne ∧
    ¬ Terminates .reliable (Exactly (upTo lastButOne) (caughtUp lastButOne).view)
      (Producer.tryBatchPublish oneSlot 1 fun _ => some)
      (FailsCleanly (upTo lastButOne) (caughtUp lastButOne).view) ∧
    ¬ Terminates .reliable (Exactly (upTo lastButOne) (caughtUp lastButOne).view)
      (Producer.tryPublish oneSlot some)
      (FailsCleanly (upTo lastButOne) (caughtUp lastButOne).view) := by
  have gated : Gated oneSlot.ring (upTo lastButOne) (caughtUp lastButOne).view lastButOne :=
    upTo_gated (by decide) (by decide)
  have readable : Readable oneSlot .reliable := fun _ => rfl
  constructor
  · exact gated
  constructor
  · intro terminates
    have jams : Leads .reliable (Exactly (upTo lastButOne) (caughtUp lastButOne).view)
        (Producer.tryBatchPublish oneSlot 1 fun _ => some) (fun _ _ _ => False) :=
      (tryBatchPublish_overflows readable gated (fun _ _ => rfl)
        lastButOne_overflows).strengthen (fun self world => gated.exactly self world.view)
    exact not_terminates jams ⟨rfl, rfl⟩ terminates
  · intro terminates
    have jams : Leads .reliable (Exactly (upTo lastButOne) (caughtUp lastButOne).view)
        (Producer.tryPublish oneSlot some) (fun _ _ _ => False) :=
      (tryPublish_overflows readable gated (fun _ => rfl) lastButOne_overflows).strengthen
        (fun self world => gated.exactly self world.view)
    exact not_terminates jams ⟨rfl, rfl⟩ terminates

end Example

end Ring
