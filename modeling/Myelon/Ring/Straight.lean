/-
The operations of a producer that have no unbounded loop.

Scans, reservations, single attempts and evaluations go over lists only, so each of them
halts as soon as it is never stuck.
-/

import Myelon.Interleaving.Termination
import Myelon.Ring.Solitary

namespace Ring

open Interleaving

variable {interface : Interface} {transport : Transport} {State α β : Type}

abbrev Straight (process : Process interface State α) : Prop :=
  Routine.LoopFree process

namespace Straight

theorem pure (value : α) : Straight (Pure.pure value : Process interface State α) :=
  Routine.LoopFree.pure value

theorem get : Straight (MonadState.get : Process interface State State) :=
  Routine.LoopFree.get

theorem modifyGet (change : State → α × State) :
    Straight (MonadStateOf.modifyGet change : Process interface State α) :=
  Routine.LoopFree.modifyGet change

theorem bind {process : Process interface State α} {rest : α → Process interface State β}
    (first : Straight process) (second : ∀ value, Straight (rest value)) :
    Straight (process >>= rest) :=
  Routine.LoopFree.bind first second

theorem onlyIf {condition : Prop} [Decidable condition] {body : Process interface State Unit}
    (straight : Straight body) : Straight (Ring.onlyIf condition body) := by
  unfold Ring.onlyIf
  split
  · exact straight
  · exact pure ()

variable [Viewed State]

theorem act (action : Action interface) :
    Straight (Ring.act action : Process interface State action.Result) :=
  ⟨fun _ _ => trivial⟩

theorem panics : Straight (panic' : Process interface State α) :=
  bind (act .panic) (fun impossible => nomatch (impossible : Empty))

theorem expect (condition : Prop) [Decidable condition] :
    Straight (Ring.expect condition : Process interface State Unit) := by
  unfold Ring.expect
  split
  · exact pure ()
  · exact panics

theorem checked (value : Int) : Straight (Ring.checked value : Process interface State Int) := by
  unfold Ring.checked
  split
  · exact pure value
  · exact panics

/-! ### The barriers -/

theorem current : Straight (ConsumerBarrier.current : ProducerProcess interface _) :=
  bind get (fun _ => pure _)

theorem update (change : ConsumerBarrier → ConsumerBarrier) :
    Straight (ConsumerBarrier.update change : ProducerProcess interface Unit) :=
  modifyGet _

theorem discoverConsumerId (consumerId : ConsumerId) :
    Straight (ConsumerBarrier.discoverConsumerId consumerId : ProducerProcess interface Bool) := by
  apply bind current
  intro barrier
  split
  · exact pure true
  · apply bind (act _)
    intro attached
    split
    · exact bind (update _) (fun _ => pure true)
    · exact pure false

theorem discoverNames (names : List ConsumerId) :
    Straight (ConsumerBarrier.discoverNames names : ProducerProcess interface Unit) :=
  Routine.LoopFree.each (fun name => bind (discoverConsumerId name) (fun _ => pure ())) names

theorem consumerSequence (consumerId : ConsumerId) :
    Straight (ConsumerBarrier.consumerSequence consumerId :
      ProducerProcess interface (Option Int)) := by
  apply bind (discoverConsumerId consumerId)
  intro present
  split
  · exact bind (act _) (fun _ => pure _)
  · exact pure none

theorem loadMinimum (counts : Int → Bool) (order : List ConsumerId) :
    Straight (ConsumerBarrier.loadMinimum counts order : ProducerProcess interface Int) :=
  Routine.LoopFree.fold (fun _ _ => bind (act _) (fun _ => pure _)) order _

theorem scan (maxConsumers : Nat) (consumerPrefix : Option String) :
    Straight (SharedConsumerBarrier.scan transport maxConsumers consumerPrefix :
      ProducerProcess interface Unit) := by
  cases consumerPrefix with
  | some consumerPrefix => exact bind current (fun _ => discoverNames _)
  | none =>
      have registered : Straight (SharedConsumerBarrier.discoverWithRegisteredSlots maxConsumers :
          ProducerProcess interface Nat) := by
        apply bind (act _)
        intro registration
        cases registration with
        | none => exact pure 0
        | some registered => exact bind (discoverNames _) (fun _ => pure _)
      apply bind registered
      intro slots
      apply bind current
      intro barrier
      split
      · exact bind current (fun _ => discoverNames _)
      · exact pure ()

theorem discoverConsumers :
    Straight (SharedConsumerBarrier.discoverConsumers transport :
      ProducerProcess interface Unit) := by
  apply bind (act _)
  intro now
  apply bind current
  intro barrier
  split
  · exact pure ()
  · apply bind (update _)
    intro _
    apply bind (scan _ _)
    intro _
    exact update _

theorem discoverUnlessCompleted :
    Straight (SharedConsumerBarrier.discoverUnlessCompleted transport :
      ProducerProcess interface Unit) := by
  apply bind current
  intro barrier
  split
  · exact pure ()
  · split
    · exact pure ()
    · exact discoverConsumers

theorem getMinConsumerSequence :
    Straight (SharedConsumerBarrier.getMinConsumerSequence transport :
      ProducerProcess interface Int) := by
  have discovered : Straight (SharedConsumerBarrier.discoveredMinSequence :
      ProducerProcess interface (Option Int)) := by
    apply bind current
    intro barrier
    apply bind (act _)
    intro order
    exact bind (loadMinimum _ order) (fun _ => pure _)
  apply bind discoverUnlessCompleted
  intro _
  apply bind discovered
  intro minimum
  cases minimum with
  | some minimum => exact pure minimum
  | none =>
      apply bind current
      intro barrier
      split
      · exact pure (-1)
      · exact act _

theorem discoverEntries (entries : List DirectoryEntry) (discovered : Nat) :
    Straight (MmapConsumerBarrier.discoverEntries entries discovered :
      ProducerProcess interface (Option Nat)) := by
  induction entries generalizing discovered with
  | nil => exact pure _
  | cons entry rest ih =>
      cases entry with
      | unreadable => exact pure none
      | foreign => exact ih discovered
      | cursorFile consumerId accepted =>
          apply bind current
          intro barrier
          split
          · exact ih discovered
          · split
            · apply bind (act _)
              intro attached
              split
              · exact bind (update _) (fun _ => ih _)
              · exact ih discovered
            · exact pure none

theorem bestEffortMinConsumerSequence :
    Straight (MmapConsumerBarrier.bestEffortMinConsumerSequence :
      ProducerProcess interface Int) := by
  have listed : Straight (MmapConsumerBarrier.discoverConsumers :
      ProducerProcess interface (Option Nat)) := by
    apply bind (act _)
    intro entries
    cases entries with
    | none => exact pure none
    | some entries => exact discoverEntries entries 0
  have minimum : Straight (MmapConsumerBarrier.minConsumerSequence :
      ProducerProcess interface (Option Int)) := by
    apply bind listed
    intro discovered
    cases discovered with
    | none => exact pure none
    | some discovered =>
        apply bind current
        intro barrier
        split
        · exact bind (act _) (fun _ => pure _)
        · apply bind (act _)
          intro order
          exact bind (loadMinimum _ order) (fun _ => pure _)
  apply bind minimum
  intro minimum
  cases minimum with
  | some minimum => exact pure minimum
  | none => exact act _

theorem gatingSequence :
    Straight (ConsumerBarrier.gatingSequence transport : ProducerProcess interface Int) := by
  unfold ConsumerBarrier.gatingSequence
  split
  · exact getMinConsumerSequence
  · exact bestEffortMinConsumerSequence

/-! ### Reservation and publication -/

theorem refreshClearanceWindow (n : Int) :
    Straight (Producer.refreshClearanceWindow transport n : ProducerProcess interface _) := by
  apply bind get
  intro producer
  apply bind (checked _)
  intro lastPublished
  apply bind gatingSequence
  intro rear
  apply bind (bind (checked _) (fun _ => checked _))
  intro slots
  split
  · exact bind (checked _) (fun _ => pure _)
  · exact bind (checked _) (fun _ => modifyGet _)

theorem updateMinConsumerClearanceWindow (n nNext : Int) :
    Straight (Producer.updateMinConsumerClearanceWindow transport n nNext :
      ProducerProcess interface _) := by
  apply bind get
  intro producer
  split
  · exact pure _
  · exact refreshClearanceWindow n

theorem nextSequences (n : Nat) :
    Straight (Producer.nextSequences transport n : ProducerProcess interface _) := by
  unfold Producer.nextSequences
  split
  · apply bind (expect _)
    intro _
    apply bind get
    intro producer
    split
    · exact pure _
    · apply bind (updateMinConsumerClearanceWindow _ _)
      intro cleared
      cases cleared with
      | error missing => exact pure _
      | ok _ => exact pure _
  · exact pure _

theorem writeSlot (sequence : Int) (update : interface.Value → Option interface.Value) :
    Straight (Producer.writeSlot transport sequence update : ProducerProcess interface Unit) := by
  apply bind (bind (expect _) (fun _ => pure _))
  intro slot
  exact act _

theorem storeSequence (sequence n : Int) :
    Straight (Producer.storeSequence sequence n : ProducerProcess interface Unit) := by
  apply bind (act _)
  intro _
  apply bind get
  intro producer
  exact bind (checked _) (fun _ => modifyGet _)

theorem applyUpdate (update : interface.Value → Option interface.Value) :
    Straight (Producer.applyUpdate transport update : ProducerProcess interface Int) := by
  apply bind get
  intro producer
  apply bind (expect _)
  intro _
  apply bind (writeSlot _ update)
  intro _
  exact bind (storeSequence _ 1) (fun _ => pure _)

theorem applyBatchUpdates (n : Nat)
    (updateFn : Nat → interface.Value → Option interface.Value) :
    Straight (Producer.applyBatchUpdates transport n updateFn : ProducerProcess interface Int) := by
  apply bind (expect _)
  intro _
  apply bind (expect _)
  intro _
  apply bind get
  intro producer
  apply bind (checked _)
  intro upper
  apply bind (Routine.LoopFree.each (fun index => writeSlot _ (updateFn index)) _)
  intro _
  exact bind (storeSequence _ _) (fun _ => pure _)

theorem tryPublish (update : interface.Value → Option interface.Value) :
    Straight (Producer.tryPublish transport update : ProducerProcess interface _) := by
  apply bind get
  intro producer
  apply bind (nextSequences 1)
  intro reserved
  cases reserved with
  | error missing => exact bind (onlyIf (act _)) (fun _ => pure _)
  | ok sequence =>
      apply bind (applyUpdate update)
      intro sequence
      exact bind (onlyIf (act _)) (fun _ => pure _)

theorem tryBatchPublish (n : Nat)
    (updateFn : Nat → interface.Value → Option interface.Value) :
    Straight (Producer.tryBatchPublish transport n updateFn : ProducerProcess interface _) := by
  unfold Producer.tryBatchPublish
  split
  · apply bind get
    intro producer
    exact bind (checked _) (fun _ => pure _)
  · apply bind (nextSequences n)
    intro reserved
    cases reserved with
    | error missing => exact pure _
    | ok sequence => exact bind (applyBatchUpdates n updateFn) (fun _ => pure _)

/-! ### The required consumers -/

theorem emitAlert (config : RequiredConsumerLivenessConfig)
    (progress : RequiredConsumerProgress) (alert : RequiredConsumerAlert) :
    Straight (RequiredConsumerLivenessState.emitAlert (fun alert => Ring.act (.alert alert))
      config progress alert : ProducerProcess interface Unit) := by
  unfold RequiredConsumerLivenessState.emitAlert
  cases !progress.alertEmitted && config.alertHook with
  | true => exact act _
  | false => exact pure ()

theorem evaluateConsumers (now : Nat) (producerSequence : Int) (consumerIds : List ConsumerId)
    (state : RequiredConsumerLivenessState) :
    Straight (RequiredConsumerLivenessState.evaluateConsumers ConsumerBarrier.consumerSequence
      (fun alert => Ring.act (.alert alert)) now producerSequence consumerIds state :
        ProducerProcess interface _) := by
  induction consumerIds generalizing state with
  | nil => exact pure _
  | cons consumerId rest ih =>
      apply bind (consumerSequence consumerId)
      intro observed
      dsimp only
      split
      · exact ih _
      · split
        · exact ih _
        · apply bind (emitAlert _ _ _)
          intro _
          split
          · exact ih _
          · exact pure _

theorem checkRequiredConsumerLiveness :
    Straight (Producer.checkRequiredConsumerLiveness : ProducerProcess interface _) := by
  apply bind get
  intro producer
  split
  · exact pure _
  · have evaluates : ∀ (now : Nat) producerSequence state, Straight
        (RequiredConsumerLivenessState.evaluateBlocked ConsumerBarrier.consumerSequence
          (fun alert => Ring.act (.alert alert)) now producerSequence state :
            ProducerProcess interface _) := by
      intro now producerSequence state
      unfold RequiredConsumerLivenessState.evaluateBlocked
      split
      · exact pure _
      · split
        · exact evaluateConsumers _ _ _ _
        · exact pure _
    apply bind (act _)
    intro now
    apply bind (act _)
    intro producerSequence
    apply bind (evaluates _ _ _)
    intro evaluated
    apply bind (modifyGet _)
    intro _
    split
    · exact pure _
    · exact pure _

end Straight

/-! ### Processes that terminate -/

variable {passes : DirectoryPasses} [Viewed State] {pre : State → View interface → Prop}
  {process : Process interface State α} {post : α → State → View interface → Prop}

/-- A process every run of which comes to an end, seen through the view of the world. -/
abbrev Terminates (passes : DirectoryPasses) (pre : State → View interface → Prop)
    (process : Process interface State α) (post : α → State → View interface → Prop) : Prop :=
  (solitary interface passes).Terminates (fun self world => pre self world.view) process
    (fun value self world => post value self world.view)

theorem Straight.terminates (straight : Straight process)
    (settles : Settles passes pre process post) : Terminates passes pre process post :=
  Machine.Terminates.of_settles Oracle.silent straight settles

theorem not_terminates (jams : Leads passes pre process (fun _ _ _ => False)) {self : State}
    {world : World interface} (held : pre self world.view) :
    ¬ Terminates passes pre process post :=
  Machine.Terminates.not_of_leads Oracle.silent jams held

end Ring
