/-
When a managed publication gets an answer.

The consumers have consumed all that is published, so the liveness policy finds nothing to
complain about. A batch that fits is published in the first round; for one that never fits
the loop goes on for ever, unless an error was recorded before.
-/

import Myelon.Ring.Exactness

namespace Ring

open Interleaving

variable {interface : Interface} {passes : DirectoryPasses} {transport : Transport}
  {producer : Producer} {view : View interface}

/-- After startup, with all that is published consumed by everyone. -/
structure CaughtUp (transport : Transport) (producer : Producer) (view : View interface) :
    Prop where
  gated : Gated transport.ring producer view view.producerSequence
  cleared : Cleared transport producer view.producerSequence
  started : ∀ state, producer.requiredConsumerLiveness = some state →
    state.hasCompletedStartup = true
  required : ∀ state, producer.requiredConsumerLiveness = some state →
    ∀ consumerId ∈ state.config.requiredConsumerIds,
      consumerId ∈ producer.consumerBarrier.consumerCursors

theorem free_caughtUp (ring : RingSize) (view : View interface) :
    free ring view view.producerSequence = ring.size := by
  unfold free
  omega

/-! ### An evaluation of consumers that are caught up -/

namespace RequiredConsumerLivenessState

theorem hasProgressed_caughtUp {sequence producerSequence : Int}
    (caughtUp : producerSequence ≤ sequence) (progress : RequiredConsumerProgress) :
    ∃ highest, hasProgressed (some sequence) producerSequence progress = some highest := by
  unfold hasProgressed
  by_cases higher : sequence > progress.lastObservedSequence
  · exact ⟨sequence, if_pos higher⟩
  · refine ⟨progress.lastObservedSequence, ?_⟩
    dsimp only
    rw [if_neg higher, if_pos caughtUp]

structure Unfailing (state : RequiredConsumerLivenessState)
    (result : Option RequiredConsumerError × RequiredConsumerLivenessState) : Prop where
  failure : result.1 = none
  terminalError : result.2.terminalError = state.terminalError
  config : result.2.config = state.config

variable (lowest : Lowest producer.consumerBarrier.consumerCursors view view.producerSequence)
  (now : Nat) {alertHook : RequiredConsumerAlert → ProducerProcess interface Unit}

include lowest

theorem evaluateConsumers_settles (consumerIds : List ConsumerId)
    (known : ∀ consumerId ∈ consumerIds, consumerId ∈ producer.consumerBarrier.consumerCursors)
    (state : RequiredConsumerLivenessState) :
    Settles passes (Steady producer view)
      (evaluateConsumers ConsumerBarrier.consumerSequence alertHook now view.producerSequence
        consumerIds state)
      (fun result now seen => Unfailing state result ∧ Steady producer view now seen) := by
  induction consumerIds generalizing state with
  | nil => exact Machine.Settles.pure _ (fun _ _ steady => ⟨⟨rfl, rfl, rfl⟩, steady⟩)
  | cons consumerId rest ih =>
      have member := known consumerId List.mem_cons_self
      apply Machine.Settles.bind (consumerSequence_settles consumerId)
      intro observed
      apply Machine.Settles.given _ (fun _ _ held => held.1)
      intro same
      rw [if_pos member] at same
      obtain ⟨highest, progressed⟩ := hasProgressed_caughtUp (lowest.least consumerId member)
        (state.consumers consumerId)
      rw [same]
      dsimp only
      rw [progressed]
      apply (ih (fun other later => known other (List.mem_cons_of_mem consumerId later))
        _).conseq (fun _ _ held => held.2)
      intro result self world held
      exact ⟨⟨held.1.failure, held.1.terminalError, held.1.config⟩, held.2⟩

theorem evaluateBlocked_settles {state : RequiredConsumerLivenessState}
    (unfailed : state.terminalError = none)
    (known : ∀ consumerId ∈ state.config.requiredConsumerIds,
      consumerId ∈ producer.consumerBarrier.consumerCursors) :
    Settles passes (Steady producer view)
      (evaluateBlocked ConsumerBarrier.consumerSequence alertHook now view.producerSequence
        state)
      (fun result now seen => Unfailing state result ∧ Steady producer view now seen) := by
  unfold evaluateBlocked
  rw [unfailed]
  dsimp only
  split
  · apply (evaluateConsumers_settles lowest now _ known _).conseq (fun _ _ held => held)
    intro result self world held
    exact ⟨⟨held.1.failure, held.1.terminalError.trans unfailed.symm, held.1.config⟩, held.2⟩
  · exact Machine.Settles.pure _ (fun _ _ steady => ⟨⟨rfl, rfl, rfl⟩, steady⟩)

end RequiredConsumerLivenessState

/-! ### A round of a managed publication -/

def Patient (producer : Producer) (liveness : Option RequiredConsumerLivenessState) : Prop :=
  ∀ state, liveness = some state → state.terminalError = none ∧
    ∀ consumerId ∈ state.config.requiredConsumerIds,
      consumerId ∈ producer.consumerBarrier.consumerCursors

/-- The producer goes on as it was, with what the policy has seen in the meantime. -/
def Spinning (producer : Producer) (view : View interface) (now : Producer)
    (seen : View interface) : Prop :=
  ∃ liveness, Patient producer liveness ∧
    Steady { producer with requiredConsumerLiveness := liveness } view now seen

theorem instantNow_settles : Settles passes (Steady producer view) (act .instantNow)
    (fun _ => Steady producer view) :=
  settles_quiet rfl (fun _ _ _ => ⟨.elapsed 0, _, _, rfl⟩)

theorem pause_settles {pre : Producer → View interface → Prop} :
    Settles passes pre (act .pause) (fun _ => pre) :=
  settles_quiet rfl (fun _ _ _ => ⟨.silent, _, _, rfl⟩)

theorem lastPublishedSequence_settles :
    Settles passes (Steady producer view) Producer.lastPublishedSequence
      (fun value now seen => value = view.producerSequence ∧ Steady producer view now seen) := by
  apply settles_loadProducerSequence.conseq (fun _ _ held => held)
  intro value now world ⟨loaded, steady⟩
  rw [loaded]
  exact ⟨congrArg View.producerSequence steady.seen, steady⟩

theorem setLiveness_settles (state : RequiredConsumerLivenessState) :
    Settles passes (Steady producer view) (Producer.setLiveness state)
      (fun _ => Steady { producer with requiredConsumerLiveness := some state } view) := by
  apply Machine.Settles.modifyGet
  intro now world steady
  exact ⟨steady.seen, steady.cursors, steady.sequence, steady.clear, rfl, steady.everyone⟩

theorem evaluated_settles {state : RequiredConsumerLivenessState}
    {post : Except RequiredConsumerError Unit → Producer → View interface → Prop}
    {ends : Option RequiredConsumerError × RequiredConsumerLivenessState → Prop}
    (liveness : producer.requiredConsumerLiveness = some state)
    (evaluates : ∀ now, Settles passes (Steady producer view)
      (RequiredConsumerLivenessState.evaluateBlocked ConsumerBarrier.consumerSequence
        (fun alert => act (.alert alert)) now view.producerSequence state)
      (fun result now seen => ends result ∧ Steady producer view now seen))
    (answers : ∀ result now seen, ends result →
      Steady { producer with requiredConsumerLiveness := some result.2 } view now seen →
      post (match result.1 with | some error => .error error | none => .ok ()) now seen) :
    Settles passes (Steady producer view) Producer.checkRequiredConsumerLiveness post := by
  apply Machine.Settles.bind Machine.Settles.get
  intro self
  apply Machine.Settles.given (self.requiredConsumerLiveness = some state) (by
    intro now world held
    rw [held.1, held.2.liveness, liveness])
  intro configured
  rw [configured]
  apply Machine.Settles.bind (instantNow_settles.strengthen (fun _ _ held => held.2))
  intro now
  apply Machine.Settles.bind lastPublishedSequence_settles
  intro producerSequence
  apply Machine.Settles.given _ (fun _ _ held => held.1)
  intro same
  rw [same]
  apply Machine.Settles.bind ((evaluates now).strengthen (fun _ _ held => held.2))
  intro result
  apply Machine.Settles.given _ (fun _ _ held => held.1)
  intro given
  apply Machine.Settles.bind ((setLiveness_settles result.2).strengthen
    (fun _ _ held => held.2))
  intro _
  cases failed : result.1 with
  | none =>
      apply Machine.Settles.pure
      intro after world steady
      have answered := answers result after world.view given steady
      rw [failed] at answered
      exact answered
  | some error =>
      apply Machine.Settles.pure
      intro after world steady
      have answered := answers result after world.view given steady
      rw [failed] at answered
      exact answered

theorem check_passes
    (lowest : Lowest producer.consumerBarrier.consumerCursors view view.producerSequence)
    (patient : Patient producer producer.requiredConsumerLiveness) :
    Settles passes (Steady producer view) Producer.checkRequiredConsumerLiveness
      (fun result now seen => result = .ok () ∧ Spinning producer view now seen) := by
  cases configured : producer.requiredConsumerLiveness with
  | none =>
      apply Machine.Settles.bind Machine.Settles.get
      intro self
      apply Machine.Settles.given (self.requiredConsumerLiveness = none) (by
        intro now world held
        rw [held.1, held.2.liveness, configured])
      intro none
      rw [none]
      apply Machine.Settles.pure
      intro now world ⟨_same, steady⟩
      exact ⟨rfl, producer.requiredConsumerLiveness, patient, steady⟩
  | some state =>
      obtain ⟨unfailed, known⟩ := patient state configured
      apply evaluated_settles configured
        (fun now => RequiredConsumerLivenessState.evaluateBlocked_settles lowest now unfailed known)
      intro result now seen unfailing steady
      rw [unfailing.failure]
      refine ⟨rfl, some result.2, ?_, steady⟩
      intro next same
      cases same
      rw [unfailing.terminalError, unfailing.config]
      exact ⟨unfailed, known⟩

theorem check_fails {state : RequiredConsumerLivenessState} {error : RequiredConsumerError}
    (liveness : producer.requiredConsumerLiveness = some state)
    (failed : state.terminalError = some error) :
    Settles passes (Steady producer view) Producer.checkRequiredConsumerLiveness
      (fun result _ _ => result = .error error) := by
  have evaluates : ∀ now : Nat, Settles passes (Steady producer view)
      (RequiredConsumerLivenessState.evaluateBlocked ConsumerBarrier.consumerSequence
        (fun alert => act (.alert alert)) now view.producerSequence state)
      (fun result now seen => result.1 = some error ∧ Steady producer view now seen) := by
    intro now
    unfold RequiredConsumerLivenessState.evaluateBlocked
    rw [failed]
    exact Machine.Settles.pure _ (fun _ _ steady => ⟨rfl, steady⟩)
  apply evaluated_settles liveness evaluates
  intro result now seen given steady
  rw [given]

def managedAnswer (apply : ProducerProcess interface Int) :
    Except MissingFreeSlots Int →
      ProducerProcess interface (Unit ⊕ Except RequiredConsumerError Int)
  | .ok _ => do
      let sequence ← apply
      pure (.inr (.ok sequence))
  | .error _ => do
      let checked ← Producer.checkRequiredConsumerLiveness
      match checked with
      | .error error => pure (.inr (.error error))
      | .ok () => do
          act .pause
          pure (.inl ())

theorem publishManagedLoop_eq (n : Nat) (apply : ProducerProcess interface Int) :
    Producer.publishManagedLoop transport n apply =
      Routine.repeat' (fun _ => Producer.nextSequences transport n >>= managedAnswer apply) () :=
  rfl

theorem Straight.managedRound {n : Nat} {apply : ProducerProcess interface Int}
    (straight : Straight apply) :
    Straight (Producer.nextSequences transport n >>= managedAnswer apply) := by
  apply Straight.bind (Straight.nextSequences n)
  intro reserved
  cases reserved with
  | ok sequence => exact Straight.bind straight (fun _ => Straight.pure _)
  | error missing =>
      apply Straight.bind Straight.checkRequiredConsumerLiveness
      intro checked
      cases checked with
      | error error => exact Straight.pure _
      | ok _ => exact Straight.bind (Straight.act _) (fun _ => Straight.pure _)

theorem ready_run {α : Type} {rest : Except RequiredConsumerError Unit →
      ProducerProcess interface α} {self : Producer}
    (started : ∀ state, self.requiredConsumerLiveness = some state →
      state.hasCompletedStartup = true) :
    (Producer.ensureRequiredConsumersReady >>= rest) self = rest (.ok ()) self := by
  unfold Producer.ensureRequiredConsumersReady
  rw [bind_assoc, get_bind]
  cases configured : self.requiredConsumerLiveness with
  | none => rfl
  | some state =>
      dsimp only
      rw [if_pos (started state configured)]
      rfl

/-! ### Batches that are answered -/

/-- The batch fits into the ring, and the sums it takes are in range; or it does not, and an
error has been recorded. -/
def Answered (ring : RingSize) (producer : Producer) (view : View interface) (n : Nat) : Prop :=
  (n ≤ ring.size ∧ view.producerSequence + n < 2 ^ 63 - 1 ∧
    (view.producerSequence + n ≤ producer.sequenceClearOfConsumers ∨
      view.producerSequence + ring.size < 2 ^ 63)) ∨
  ((ring.size < n ∨ 2 ^ 63 ≤ view.producerSequence + n) ∧
    ∃ state error, producer.requiredConsumerLiveness = some state ∧
      state.terminalError = some error)

section Rounds

variable {n : Nat} {updateFn : Nat → interface.Value → Option interface.Value}
  (readable : Readable transport passes)
  (gated : Gated transport.ring producer view view.producerSequence) (positive : 0 < n)

include readable gated positive

/-- Where the batch does not fit, the liveness policy answers. -/
theorem refused_settles
    (cleared : Cleared transport producer view.producerSequence)
    (refused : transport.ring.size < n ∨ 2 ^ 63 ≤ view.producerSequence + n)
    {apply : ProducerProcess interface Int}
    {post : Unit ⊕ Except RequiredConsumerError Int → Producer → View interface → Prop}
    (answers : ∀ missing, Settles passes (Steady producer view)
      (managedAnswer apply (.error missing)) post) :
    Settles passes (Steady producer view)
      (Producer.nextSequences transport n >>= managedAnswer apply) post := by
  have size := transport.ring.inRange
  have missing := nextSequences_fails readable gated positive (by
    by_cases near : n < 2 ^ 63 ∧ view.producerSequence + n < 2 ^ 63
    · apply Or.inr
      intro granted
      have room := gated.cached_free cleared positive granted
      rw [free_caughtUp] at room
      omega
    · exact .inl near)
  apply Machine.Settles.bind missing
  intro reserved
  apply Machine.Settles.given _ (fun _ _ held => held.1)
  intro same
  rw [same]
  exact (answers _).strengthen (fun _ _ held => held.2)

theorem granted_round (returns : ∀ index, Returns (updateFn index))
    (fits : n ≤ transport.ring.size) (next : view.producerSequence + n < 2 ^ 63 - 1)
    (sum : view.producerSequence + n ≤ producer.sequenceClearOfConsumers ∨
      view.producerSequence + transport.ring.size < 2 ^ 63) :
    Settles passes (Steady producer view)
      (Producer.nextSequences transport n >>=
        managedAnswer (Producer.applyBatchUpdates transport n updateFn))
      (fun result _ _ => ∃ value, result = .inr value) := by
  have size := transport.ring.inRange
  have room : n ≤ free transport.ring view view.producerSequence := by
    rw [free_caughtUp]
    omega
  have counted : InRange n := by
    unfold InRange
    omega
  have inRange : InRange (view.producerSequence + n) := .of_fits gated (by omega)
  have granted := gated.grantable (.inr room) (by omega)
  apply reserved_succeeds readable gated positive counted inRange rfl granted
  · intro cleared
    have placed : ({ producer with sequenceClearOfConsumers := cleared } : Producer).sequence =
        view.producerSequence + 1 := gated.placed
    exact applyBatchUpdates_settles placed gated.sequence_nonneg positive counted inRange
      returns (gated.next_range.mpr next)
  · exact Machine.Settles.pure _ (fun _ _ _ => ⟨_, rfl⟩)

theorem overflowing_round (returns : ∀ index, Returns (updateFn index))
    (fits : n ≤ transport.ring.size) (last : view.producerSequence + n < 2 ^ 63)
    (overflows : view.producerSequence + n = 2 ^ 63 - 1 ∨
      (producer.sequenceClearOfConsumers < view.producerSequence + n ∧
        ¬ InRange (view.producerSequence + transport.ring.size))) :
    Leads passes (Steady producer view)
      (Producer.nextSequences transport n >>=
        managedAnswer (Producer.applyBatchUpdates transport n updateFn))
      (fun _ _ _ => False) := by
  have size := transport.ring.inRange
  have room : n ≤ free transport.ring view view.producerSequence := by
    rw [free_caughtUp]
    omega
  have counted : InRange n := by
    unfold InRange
    omega
  have inRange : InRange (view.producerSequence + n) := .of_fits gated last
  apply reserved_jams readable gated positive counted inRange rfl (.inr room) overflows
  intro cleared outOfRange
  have placed : ({ producer with sequenceClearOfConsumers := cleared } : Producer).sequence =
      view.producerSequence + 1 := gated.placed
  exact applyBatchUpdates_jams placed gated.sequence_nonneg positive counted inRange returns
    outOfRange

end Rounds

/-! ### Whole publications -/

theorem Gated.withLiveness {ring : RingSize} {least : Int}
    (gated : Gated ring producer view least) (liveness : Option RequiredConsumerLivenessState) :
    Gated ring { producer with requiredConsumerLiveness := liveness } view least :=
  ⟨gated.everyone, gated.lowest, gated.floor, gated.behind, gated.within, gated.placed,
    gated.inRange⟩

/-- The batch does not fit and no consumer is late: the loop goes on for ever. -/
theorem managedLoop_spins {n : Nat} (readable : Readable transport passes)
    (gated : Gated transport.ring producer view view.producerSequence)
    (cleared : Cleared transport producer view.producerSequence) (positive : 0 < n)
    (refused : transport.ring.size < n ∨ 2 ^ 63 ≤ view.producerSequence + n)
    (patient : Patient producer producer.requiredConsumerLiveness)
    (apply : ProducerProcess interface Int) :
    Leads passes (Steady producer view) (Producer.publishManagedLoop transport n apply)
      (fun _ _ _ => False) := by
  have round : Leads passes (Spinning producer view)
      (Producer.nextSequences transport n >>= managedAnswer apply)
      (fun result now seen => Spinning producer view now seen ∧ ∃ again, result = .inl again) := by
    intro self world ⟨liveness, patient, steady⟩
    have gated' := gated.withLiveness liveness
    have answers : ∀ missing, Settles passes
        (Steady { producer with requiredConsumerLiveness := liveness } view)
        (managedAnswer apply (.error missing)) (fun result now seen =>
          Spinning producer view now seen ∧ ∃ again, result = .inl again) := by
      intro missing
      apply Machine.Settles.bind (check_passes gated'.lowest patient)
      intro checked
      apply Machine.Settles.given _ (fun _ _ held => held.1)
      intro passed
      rw [passed]
      apply Machine.Settles.bind (pause_settles.strengthen (fun _ _ held => held.2))
      intro _
      exact Machine.Settles.pure _ (fun _ _ spinning => ⟨spinning, _, rfl⟩)
    exact (refused_settles readable gated' positive cleared refused answers).leads self world
      steady
  rw [publishManagedLoop_eq]
  apply (Machine.Leads.endless (fun _ : Unit => round) ()).strengthen
  intro self world steady
  exact ⟨producer.requiredConsumerLiveness, patient, steady⟩

theorem publishBatchManaged_run {n : Nat}
    {updateFn : Nat → interface.Value → Option interface.Value}
    (caughtUp : CaughtUp transport producer view) (positive : 0 < n)
    (now : Producer) (seen : View interface) (exactly : Exactly producer view now seen) :
    Producer.publishBatchManaged transport n updateFn now =
      Producer.publishManagedLoop transport n (Producer.applyBatchUpdates transport n updateFn)
        now := by
  unfold Producer.publishBatchManaged
  rw [if_neg (Nat.ne_of_gt positive), exactly.1, ready_run caughtUp.started]

section Batch

variable {n : Nat} {updateFn : Nat → interface.Value → Option interface.Value}
  (readable : Readable transport passes) (caughtUp : CaughtUp transport producer view)
  (positive : 0 < n) (returns : ∀ index, Returns (updateFn index))

include readable caughtUp positive returns

theorem managedLoop_answers (answered : Answered transport.ring producer view n) :
    Terminates passes (Steady producer view)
      (Producer.publishManagedLoop transport n (Producer.applyBatchUpdates transport n updateFn))
      (fun _ _ _ => True) := by
  have settles : Settles passes (Steady producer view)
      (Producer.nextSequences transport n >>=
        managedAnswer (Producer.applyBatchUpdates transport n updateFn))
      (fun result _ _ => ∃ value, result = .inr value) := by
    rcases answered with ⟨fits, next, sum⟩ | ⟨refused, state, error, liveness, failed⟩
    · exact granted_round readable caughtUp.gated positive returns fits next sum
    · apply refused_settles readable caughtUp.gated positive caughtUp.cleared refused
      intro missing
      apply Machine.Settles.bind (check_fails liveness failed)
      intro checked
      apply Machine.Settles.given _ (fun _ _ held => held)
      intro same
      rw [same]
      exact Machine.Settles.pure _ (fun _ _ _ => ⟨_, rfl⟩)
  rw [publishManagedLoop_eq]
  apply Machine.Terminates.once Oracle.silent
  apply ((Straight.applyBatchUpdates n updateFn).managedRound.terminates settles).conseq
    (fun _ _ held => held)
  intro result now world ⟨value, same⟩
  rw [same]
  exact trivial

theorem managedLoop_unanswered (unanswered : ¬ Answered transport.ring producer view n) :
    Leads passes (Steady producer view)
      (Producer.publishManagedLoop transport n (Producer.applyBatchUpdates transport n updateFn))
      (fun _ _ _ => False) := by
  obtain ⟨outOfRange, unrecorded⟩ := not_or.mp unanswered
  by_cases refused : transport.ring.size < n ∨ 2 ^ 63 ≤ view.producerSequence + n
  · apply managedLoop_spins readable caughtUp.gated caughtUp.cleared positive refused
    intro state liveness
    constructor
    · cases failed : state.terminalError with
      | none => rfl
      | some error => exact absurd ⟨refused, state, error, liveness, failed⟩ unrecorded
    · exact caughtUp.required state liveness
  · obtain ⟨fits, last⟩ := not_or.mp refused
    have sum := sum_inRange_iff caughtUp.gated
    have round := overflowing_round readable caughtUp.gated positive returns
      (Nat.not_lt.mp fits) (Int.not_le.mp last) (by
        rw [sum]
        omega)
    rw [publishManagedLoop_eq]
    exact Machine.Leads.endless (fun _ : Unit => round.conseq (fun _ _ held => held)
      (fun _ _ _ impossible => impossible.elim)) ()

end Batch

/-- A managed publication of a batch comes to an end exactly where the batch fits and the
sums are in range, or an error has been recorded. -/
theorem managed_batch_answers_iff {world : World interface} {n : Nat}
    {updateFn : Nat → interface.Value → Option interface.Value}
    (readable : Readable transport passes) (caughtUp : CaughtUp transport producer world.view)
    (positive : 0 < n) (returns : ∀ index, Returns (updateFn index)) :
    Terminates passes (Exactly producer world.view)
        (Producer.publishBatchManaged transport n updateFn) (fun _ _ _ => True) ↔
      Answered transport.ring producer world.view n := by
  constructor
  · intro terminates
    apply Classical.byContradiction
    intro unanswered
    have jams : Leads passes (Exactly producer world.view)
        (Producer.publishBatchManaged transport n updateFn) (fun _ _ _ => False) := by
      apply Machine.Leads.instead
      · exact fun now later => publishBatchManaged_run caughtUp positive now later.view
      · exact (managedLoop_unanswered readable caughtUp positive returns unanswered).strengthen
          (fun now later => caughtUp.gated.exactly now later.view)
    exact not_terminates jams ⟨rfl, rfl⟩ terminates
  · intro answered
    apply Machine.Terminates.instead
    · exact fun now later => publishBatchManaged_run caughtUp positive now later.view
    · exact (managedLoop_answers readable caughtUp positive returns answered).conseq
        (fun now later => caughtUp.gated.exactly now later.view) (fun _ _ _ held => held)

/-! ### A batch of two events for a ring of one slot -/

section Example

def requiring (last : Int) : Producer :=
  { upTo last with
    requiredConsumerLiveness := some ((RequiredConsumerLivenessState.new
      { requiredConsumerIds := ["reader"]
        startupWaitTimeout := 10
        progressTimeout := 10
        progressCheckInterval := 1
        shutdownGracePeriod := 0
        failureAction := .gracefulShutdown
        alertHook := false } 0).markStartupCompleted 0) }

theorem requiring_caughtUp {last : Int} (low : -1 ≤ last) (high : last < 2 ^ 63 - 1) :
    CaughtUp oneSlot (requiring last) (caughtUp last).view where
  gated := (upTo_gated low high).withLiveness _
  cleared := .inl (by
    change last < last + 1
    omega)
  started := by
    intro state same
    cases same
    rfl
  required := by
    intro state same
    cases same
    exact fun _ member => member

theorem managed_batch_answers_one :
    Terminates .reliable (Exactly (requiring 6) (caughtUp 6).view)
        (Producer.publishBatchManaged oneSlot 1 fun _ => some) (fun _ _ _ => True) ↔
      Answered oneSlot.ring (requiring 6) (caughtUp 6).view 1 :=
  managed_batch_answers_iff (fun _ => rfl) (requiring_caughtUp (by decide) (by decide))
    Nat.one_pos (fun _ _ => rfl)

/-- Two events never fit, and the reader has nothing to catch up with. -/
theorem managed_batch_spins :
    CaughtUp oneSlot (requiring 6) (caughtUp 6).view ∧
      ¬ Terminates .reliable (Exactly (requiring 6) (caughtUp 6).view)
        (Producer.publishBatchManaged oneSlot 2 fun _ => some) (fun _ _ _ => True) := by
  have caughtUp : CaughtUp oneSlot (requiring 6) (caughtUp 6).view :=
    requiring_caughtUp (by decide) (by decide)
  have readable : Readable oneSlot .reliable := fun _ => rfl
  have patient : Patient (requiring 6) (requiring 6).requiredConsumerLiveness := by
    intro state same
    cases same
    exact ⟨rfl, fun _ member => member⟩
  constructor
  · exact caughtUp
  · have jams : Leads .reliable (Exactly (requiring 6) (Ring.caughtUp 6).view)
        (Producer.publishBatchManaged oneSlot 2 fun _ => some) (fun _ _ _ => False) := by
      apply Machine.Leads.instead
      · exact fun now later =>
          publishBatchManaged_run caughtUp Nat.two_pos now later.view
      · exact (managedLoop_spins readable caughtUp.gated caughtUp.cleared Nat.two_pos
          (.inl (by decide)) patient _).strengthen
            (fun now later => caughtUp.gated.exactly now later.view)
    exact not_terminates jams ⟨rfl, rfl⟩

end Example

end Ring
