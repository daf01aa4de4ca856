/-
What the operations of a producer leave alone.

An assertion about the producer that outlasts what is found survives every look at the
consumers, one that does not speak of the clearance survives a reservation as
well, and one that does not speak of the events survives a publication.
-/

import Myelon.Ring.Contract

namespace Ring

open Interleaving

/-- The actions with which the producer looks around. What it finds it may count. -/
def Action.looks {interface : Interface} : Action interface → Bool
  | .nextProducerRequest => false
  | .alert _ => false
  | .attachConsumerSequence _ => true
  | .addCounter counter _ => decide (counter = .producerFullEvents)
  | .recordMax _ _ => false
  | action => action.quiet

def Action.publishes {interface : Interface} : Action interface → Bool
  | .updateSlot _ _ _ => true
  | .storeProducerSequence _ => true
  | _ => false

variable {transport : Transport} {application : Application transport}
variable {passes : DirectoryPasses} {contract : Contract (application.machine passes)}
variable {pre : Producer → World application.interface → Prop} {α β : Type}

abbrev FrameTriple (contract : Contract (application.machine passes))
    (pre : Producer → World application.interface → Prop)
    (routine : ProducerProcess application.interface α)
    (post : α → Producer → World application.interface → Prop) : Prop :=
  contract.Triple .producer pre routine post

abbrev Leaves (contract : Contract (application.machine passes))
    (pre : Producer → World application.interface → Prop)
    (routine : ProducerProcess application.interface α) : Prop :=
  contract.Triple .producer pre routine (fun _ => pre)

namespace Leaves

theorem bind {routine : ProducerProcess application.interface α}
    {rest : α → ProducerProcess application.interface β} (first : Leaves contract pre routine)
    (second : ∀ value, Leaves contract pre (rest value)) :
    Leaves contract pre (routine >>= rest) :=
  Contract.Triple.bind first second

theorem pure (value : α) :
    Leaves contract pre (Pure.pure value : ProducerProcess application.interface α) :=
  Contract.Triple.pure value (fun _ _ held => held)

theorem get :
    Leaves contract pre (MonadState.get : ProducerProcess application.interface Producer) :=
  Contract.Triple.get.weaken (fun _ _ _ held => held.2)

theorem seen : FrameTriple contract pre ConsumerBarrier.current
    (fun barrier producer world => barrier = producer.consumerBarrier ∧ pre producer world) :=
  Contract.Triple.bind Contract.Triple.get (fun producer =>
    Contract.Triple.pure producer.consumerBarrier (by
      rintro self world ⟨rfl, held⟩
      exact ⟨rfl, held⟩))

theorem current : Leaves contract pre ConsumerBarrier.current :=
  seen.weaken (fun _ _ _ held => held.2)

theorem onlyIf {condition : Prop} [Decidable condition]
    {body : ProducerProcess application.interface Unit} (leaves : Leaves contract pre body) :
    Leaves contract pre (Ring.onlyIf condition body) :=
  onlyIf_triple (fun _ => leaves) (fun _ _ _ held => held)

theorem rounds {γ : Type} {body : γ → ProducerProcess application.interface (γ ⊕ β)}
    (round : ∀ state, Leaves contract pre (body state)) (state : γ) :
    Leaves contract pre (Routine.repeat' body state) := by
  refine Contract.Triple.repeat' (fun _ => pre) (fun again => ?_) state
  apply (round again).weaken
  intro result producer world held
  cases result <;> exact held

theorem each {body : α → ProducerProcess application.interface Unit} {items : List α}
    (item : ∀ item, Leaves contract pre (body item)) :
    Leaves contract pre (Routine.each body items) :=
  Contract.Triple.each item

end Leaves

/-! ### Assertions that last while the producer looks around -/

structure Lasting (contract : Contract (application.machine passes))
    (pre : Producer → World application.interface → Prop) : Prop where
  stable : ∀ producer before after, contract.rely .producer before after →
    pre producer before → pre producer after
  allowed : ∀ self action world, action.looks = true →
    contract.guarantee .producer self action world
  performed : ∀ producer action oracle before result after, action.looks = true →
    contract.condition .producer (.producer producer) action before →
    perform passes action oracle before = some (result, after) → pre producer before →
    pre producer after

namespace Lasting

variable (lasting : Lasting contract pre)

include lasting

theorem acted {action : Action application.interface}
    {post : action.Result → Producer → World application.interface → Prop}
    (looks : action.looks = true)
    (outcome : ∀ producer world oracle result after, pre producer world → pre producer after →
      contract.condition .producer (.producer producer) action world →
      contract.accepts .producer (.producer producer) action oracle world →
      perform passes action oracle world = some (result, after) → post result producer after) :
    FrameTriple contract pre (Ring.act action) post := by
  apply Contract.Triple.performAccepted
  intro producer world before held relied _holds met
  refine ⟨lasting.allowed _ _ _ looks, fun oracle result after accepted performed => ?_⟩
  have here := lasting.stable producer world before relied held
  exact outcome producer before oracle result after here
    (lasting.performed producer action oracle before result after looks met performed here) met
    accepted performed

theorem act {action : Action application.interface} (looks : action.looks = true) :
    Leaves contract pre (Ring.act action) :=
  lasting.acted looks (fun _ _ _ _ _ _ held _ _ _ => held)

theorem panics {post : α → Producer → World application.interface → Prop} :
    FrameTriple contract pre (panic' : ProducerProcess application.interface α) post :=
  Contract.Triple.bind (lasting.act rfl) (fun impossible => nomatch (impossible : Empty))

theorem expect {condition : Prop} [Decidable condition] :
    Leaves contract pre (Ring.expect condition) := by
  unfold Ring.expect
  split
  · exact Leaves.pure ()
  · exact lasting.panics

theorem checked (value : Int) :
    FrameTriple contract pre (Ring.checked value)
      (fun result producer world => (result = value ∧ InRange value) ∧ pre producer world) := by
  unfold Ring.checked
  split
  · rename_i inRange
    exact Contract.Triple.pure value (fun _ _ held => ⟨⟨rfl, inRange⟩, held⟩)
  · exact lasting.panics

theorem computed (value : Int) : Leaves contract pre (Ring.checked value) :=
  (lasting.checked value).weaken (fun _ _ _ held => held.2)

theorem count (attached : Bool) :
    Leaves contract pre (Producer.count attached .producerFullEvents) :=
  Leaves.onlyIf (lasting.act rfl)

end Lasting

/-! ### Assertions that outlast what is found -/

structure Looking (contract : Contract (application.machine passes))
    (pre : Producer → World application.interface → Prop) : Prop where
  lasting : Lasting contract pre
  barrier : ∀ producer world barrier,
    producer.consumerBarrier.consumerCursors ⊆ barrier.consumerCursors → pre producer world →
    pre { producer with consumerBarrier := barrier } world

namespace Looking

variable (looking : Looking contract pre)

include looking

theorem act {action : Action application.interface} (looks : action.looks = true) :
    Leaves contract pre (Ring.act action) :=
  looking.lasting.act looks

theorem update {change : ConsumerBarrier → ConsumerBarrier}
    (grows : ∀ barrier, barrier.consumerCursors ⊆ (change barrier).consumerCursors) :
    Leaves contract pre (ConsumerBarrier.update change) := by
  intro producer world held fuel
  cases fuel with
  | zero => trivial
  | succ fuel => exact looking.barrier producer world _ (grows _) held

theorem insert (consumerId : ConsumerId) :
    Leaves contract pre (ConsumerBarrier.update (·.insert consumerId)) :=
  looking.update (fun _ => List.subset_cons_self _ _)

/-! ### The looks of the two barriers -/

theorem discoverConsumerId (consumerId : ConsumerId) :
    Leaves contract pre (ConsumerBarrier.discoverConsumerId consumerId) := by
  apply Leaves.bind Leaves.current
  intro barrier
  split
  · exact Leaves.pure true
  · apply Leaves.bind (looking.act rfl)
    intro attached
    split
    · exact Leaves.bind (looking.insert _) (fun _ => Leaves.pure true)
    · exact Leaves.pure false

theorem discoverNames (names : List ConsumerId) :
    Leaves contract pre (ConsumerBarrier.discoverNames names) :=
  Leaves.each (fun consumerName =>
    Leaves.bind (looking.discoverConsumerId consumerName) (fun _ => Leaves.pure ()))

theorem consumerSequence (consumerId : ConsumerId) :
    Leaves contract pre (ConsumerBarrier.consumerSequence consumerId) := by
  apply Leaves.bind (looking.discoverConsumerId consumerId)
  intro present
  split
  · exact Leaves.bind (looking.act rfl) (fun _ => Leaves.pure _)
  · exact Leaves.pure none

theorem loadMinimum (counts : Int → Bool) (order : List ConsumerId) :
    Leaves contract pre (ConsumerBarrier.loadMinimum counts order) := by
  refine Contract.Triple.fold (fun _ _ => pre) order ?_ _
  intro consumerId rest minimum
  exact Leaves.bind (looking.act rfl) (fun _ => Leaves.pure _)

theorem scan (maxConsumers : Nat) (consumerPrefix : Option String) :
    Leaves contract pre (SharedConsumerBarrier.scan transport maxConsumers consumerPrefix) := by
  cases consumerPrefix with
  | some consumerPrefix =>
      exact Leaves.bind Leaves.current (fun _ => looking.discoverNames _)
  | none =>
      apply Leaves.bind
      · apply Leaves.bind (looking.act rfl)
        intro registration
        cases registration with
        | none => exact Leaves.pure 0
        | some registered =>
            exact Leaves.bind (looking.discoverNames _) (fun _ => Leaves.pure _)
      · intro registeredSlots
        apply Leaves.bind Leaves.current
        intro barrier
        split
        · exact Leaves.bind Leaves.current (fun _ => looking.discoverNames _)
        · exact Leaves.pure ()

theorem discoverConsumers :
    Leaves contract pre (SharedConsumerBarrier.discoverConsumers transport) := by
  apply Leaves.bind (looking.act rfl)
  intro now
  apply Leaves.bind Leaves.current
  intro barrier
  split
  · exact Leaves.pure ()
  · apply Leaves.bind
    · apply looking.update
      exact fun _ => List.Subset.refl _
    intro _
    apply Leaves.bind (looking.scan _ _)
    intro _
    apply looking.update
    intro found
    split
    · exact List.Subset.refl _
    · exact List.Subset.refl _

theorem discoverUnlessCompleted :
    Leaves contract pre (SharedConsumerBarrier.discoverUnlessCompleted transport) := by
  apply Leaves.bind Leaves.current
  intro barrier
  split
  · exact Leaves.pure ()
  · split
    · exact Leaves.pure ()
    · exact looking.discoverConsumers

theorem discoverEntries (entries : List DirectoryEntry) (discovered : Nat) :
    Leaves contract pre (MmapConsumerBarrier.discoverEntries entries discovered) := by
  induction entries generalizing discovered with
  | nil => exact Leaves.pure _
  | cons entry rest ih =>
      cases entry with
      | unreadable => exact Leaves.pure none
      | foreign => exact ih discovered
      | cursorFile consumerId accepted =>
          apply Leaves.bind Leaves.current
          intro barrier
          split
          · exact ih discovered
          · split
            · apply Leaves.bind (looking.act rfl)
              intro attached
              split
              · exact Leaves.bind (looking.insert _) (fun _ => ih (discovered + 1))
              · exact ih discovered
            · exact Leaves.pure none

theorem discoverDirectory : Leaves contract pre MmapConsumerBarrier.discoverConsumers := by
  apply Leaves.bind (looking.act rfl)
  intro readDir
  cases readDir with
  | none => exact Leaves.pure none
  | some entries => exact looking.discoverEntries entries 0

theorem minSequenceFallback : Leaves contract pre SharedConsumerBarrier.minSequenceFallback := by
  apply Leaves.bind Leaves.current
  intro barrier
  split
  · exact Leaves.pure _
  · exact looking.act rfl

theorem discoveredMinSequence :
    Leaves contract pre SharedConsumerBarrier.discoveredMinSequence :=
  Leaves.bind Leaves.current (fun _ => Leaves.bind (looking.act rfl) (fun order =>
    Leaves.bind (looking.loadMinimum _ order) (fun _ => Leaves.pure _)))

theorem getMinConsumerSequence :
    Leaves contract pre (SharedConsumerBarrier.getMinConsumerSequence transport) := by
  apply Leaves.bind looking.discoverUnlessCompleted
  intro _
  apply Leaves.bind looking.discoveredMinSequence
  intro discoveredMin
  cases discoveredMin with
  | some minSequence => exact Leaves.pure minSequence
  | none => exact looking.minSequenceFallback

theorem minConsumerSequence : Leaves contract pre MmapConsumerBarrier.minConsumerSequence := by
  apply Leaves.bind looking.discoverDirectory
  intro discovered
  cases discovered with
  | none => exact Leaves.pure none
  | some found =>
      apply Leaves.bind Leaves.current
      intro barrier
      split
      · exact Leaves.bind (looking.act rfl) (fun _ => Leaves.pure _)
      · exact Leaves.bind (looking.act rfl) (fun order =>
          Leaves.bind (looking.loadMinimum _ order) (fun _ => Leaves.pure _))

theorem gatingSequence : Leaves contract pre (ConsumerBarrier.gatingSequence transport) := by
  unfold ConsumerBarrier.gatingSequence
  split
  · exact looking.getMinConsumerSequence
  · apply Leaves.bind looking.minConsumerSequence
    intro minimum
    cases minimum with
    | some minimum => exact Leaves.pure minimum
    | none => exact looking.act rfl

theorem bestEffortConsumerCount :
    Leaves contract pre (ConsumerBarrier.bestEffortConsumerCount transport) := by
  unfold ConsumerBarrier.bestEffortConsumerCount
  split
  · exact Leaves.bind looking.discoverUnlessCompleted (fun _ =>
      Leaves.bind Leaves.current (fun _ => Leaves.pure _))
  · exact Leaves.bind looking.discoverDirectory (fun _ =>
      Leaves.bind Leaves.current (fun _ => Leaves.pure _))

/-! ### Operations that only look -/

theorem isConsumed (sequence : Int) :
    Leaves contract pre (Producer.isConsumed transport sequence) :=
  Leaves.bind looking.gatingSequence (fun _ => Leaves.pure _)

theorem waitForConsumerId (consumerId : ConsumerId) (timeout : Nat) :
    Leaves contract pre (Producer.waitForConsumerId consumerId timeout) := by
  apply Leaves.bind looking.lasting.expect
  intro _
  apply Leaves.bind (looking.act rfl)
  intro start
  apply Leaves.rounds
  intro round
  apply Leaves.bind (looking.discoverConsumerId consumerId)
  intro found
  split
  · exact Leaves.pure _
  · apply Leaves.bind (looking.act rfl)
    intro now
    split
    · exact Leaves.pure _
    · exact Leaves.bind (looking.act rfl) (fun _ => Leaves.pure _)

theorem waitUntilConsumed (sequence : Int) (timeout : Nat) :
    Leaves contract pre (Producer.waitUntilConsumedWithStrategy transport sequence timeout) := by
  apply Leaves.bind (looking.act rfl)
  intro start
  apply Leaves.rounds
  intro round
  apply Leaves.bind (looking.act rfl)
  intro now
  split
  · apply Leaves.bind (looking.isConsumed sequence)
    intro consumed
    split
    · exact Leaves.pure _
    · exact Leaves.bind (looking.act rfl) (fun _ => Leaves.pure _)
  · exact Leaves.pure _

/-! ### The required consumers -/

theorem missingRequiredConsumers (consumerIds : List ConsumerId) :
    Leaves contract pre (RequiredConsumerLivenessState.missingRequiredConsumers
      ConsumerBarrier.discoverConsumerId consumerIds) := by
  induction consumerIds with
  | nil => exact Leaves.pure _
  | cons consumerId rest ih =>
      exact Leaves.bind (looking.discoverConsumerId consumerId) (fun _ =>
        Leaves.bind ih (fun _ => Leaves.pure _))

theorem knowing (found : List ConsumerId) :
    Looking contract (fun producer world =>
      found ⊆ producer.consumerBarrier.consumerCursors ∧ pre producer world) where
  lasting :=
    { stable := fun producer before after relied held =>
        ⟨held.1, looking.lasting.stable producer before after relied held.2⟩
      allowed := looking.lasting.allowed
      performed := fun producer action oracle before result after looks met performed held =>
        ⟨held.1, looking.lasting.performed producer action oracle before result after looks met
          performed held.2⟩ }
  barrier := fun producer world barrier grows held =>
    ⟨List.Subset.trans held.1 grows, looking.barrier producer world barrier grows held.2⟩

theorem discoverConsumerId_knows (consumerId : ConsumerId) :
    FrameTriple contract pre (ConsumerBarrier.discoverConsumerId consumerId)
      (fun present producer world =>
        (present = true → consumerId ∈ producer.consumerBarrier.consumerCursors) ∧
          pre producer world) := by
  apply Contract.Triple.bind Leaves.seen
  intro barrier
  split
  · rename_i known
    apply Contract.Triple.pure
    rintro producer world ⟨rfl, held⟩
    exact ⟨fun _ => known, held⟩
  · apply Contract.Triple.bind ((looking.act rfl).strengthen (fun _ _ held => held.2))
    intro attached
    split
    · have inserts : FrameTriple contract pre
          (ConsumerBarrier.update (·.insert consumerId))
          (fun _ producer world =>
            consumerId ∈ producer.consumerBarrier.consumerCursors ∧ pre producer world) := by
        intro producer world held fuel
        cases fuel with
        | zero => trivial
        | succ fuel =>
            exact ⟨List.mem_cons_self,
              looking.barrier producer world _ (List.subset_cons_self _ _) held⟩
      apply Contract.Triple.bind inserts
      intro _
      exact Contract.Triple.pure _ (fun _ _ held => ⟨fun _ => held.1, held.2⟩)
    · exact Contract.Triple.pure _ (fun _ _ held =>
        ⟨fun impossible => absurd impossible Bool.false_ne_true, held⟩)

omit looking in
theorem missingRequiredConsumers_knows {pre : Producer → World application.interface → Prop}
    (looking : Looking contract pre) (consumerIds : List ConsumerId) :
    FrameTriple contract pre
      (RequiredConsumerLivenessState.missingRequiredConsumers ConsumerBarrier.discoverConsumerId
        consumerIds)
      (fun missing producer world => (∀ consumerId ∈ consumerIds, consumerId ∈ missing ∨
          consumerId ∈ producer.consumerBarrier.consumerCursors) ∧ pre producer world) := by
  induction consumerIds generalizing pre with
  | nil =>
      exact Contract.Triple.pure _ (fun _ _ held =>
        ⟨fun _ impossible => absurd impossible List.not_mem_nil, held⟩)
  | cons consumerId rest ih =>
      apply Contract.Triple.bind (looking.discoverConsumerId_knows consumerId)
      intro present
      cases present with
      | true =>
          apply Contract.Triple.bind ((ih (looking.knowing [consumerId])).strengthen
            (fun _ _ held => ⟨List.cons_subset.mpr ⟨held.1 rfl, List.nil_subset _⟩, held.2⟩))
          intro missing
          apply Contract.Triple.pure
          rintro producer world ⟨others, known, held⟩
          refine ⟨fun other member => ?_, held⟩
          rcases List.mem_cons.mp member with rfl | later
          · exact .inr (known List.mem_cons_self)
          · exact others other later
      | false =>
          apply Contract.Triple.bind ((ih looking).strengthen (fun _ _ held => held.2))
          intro missing
          apply Contract.Triple.pure
          rintro producer world ⟨others, held⟩
          refine ⟨fun other member => ?_, held⟩
          rcases List.mem_cons.mp member with rfl | later
          · exact .inl List.mem_cons_self
          · exact (others other later).imp_left (fun missed => List.mem_cons_of_mem _ missed)

/-- A look at a consumer that is known shows its cursor. -/
theorem consumerSequence_shows {consumerId : ConsumerId}
    {fact : Int → Producer → World application.interface → Prop}
    (known : ∀ producer world, pre producer world →
      consumerId ∈ producer.consumerBarrier.consumerCursors)
    (outcome : ∀ producer world oracle sequence after, pre producer world → pre producer after →
      contract.condition .producer (.producer producer) (.loadConsumerSequence consumerId) world →
      perform passes (.loadConsumerSequence consumerId) oracle world = some (sequence, after) →
      fact sequence producer after) :
    FrameTriple contract pre (ConsumerBarrier.consumerSequence consumerId)
      (fun observed producer world =>
        ∃ sequence, observed = some sequence ∧ fact sequence producer world) := by
  have present : FrameTriple contract pre (ConsumerBarrier.discoverConsumerId consumerId)
      (fun present producer world => present = true ∧ pre producer world) := by
    apply Contract.Triple.bind Leaves.seen
    intro barrier
    split
    · exact Contract.Triple.pure _ (fun _ _ held => ⟨rfl, held.2⟩)
    · rename_i absent
      apply Contract.Triple.given False
      · rintro producer world ⟨rfl, held⟩
        exact absent (known producer world held)
      · exact False.elim
  apply Contract.Triple.bind present
  intro found
  apply Contract.Triple.given (found = true) (fun _ _ held => held.1)
  rintro rfl
  rw [if_pos rfl]
  have loads : FrameTriple contract pre
      (Ring.act (.loadConsumerSequence consumerId) :
        ProducerProcess application.interface Int) fact :=
    looking.lasting.acted rfl (fun producer world oracle sequence after held kept met _accepted
      performed => outcome producer world oracle sequence after held kept met performed)
  apply Contract.Triple.bind (loads.strengthen (fun _ _ held => held.2))
  intro sequence
  exact Contract.Triple.pure _ (fun _ _ held => ⟨sequence, rfl, held⟩)

theorem seedProgress (now : Nat) (consumerIds : List ConsumerId)
    (state : RequiredConsumerLivenessState) :
    Leaves contract pre (RequiredConsumerLivenessState.seedProgress
      ConsumerBarrier.consumerSequence now consumerIds state) := by
  induction consumerIds generalizing state with
  | nil => exact Leaves.pure _
  | cons consumerId rest ih =>
      exact Leaves.bind (looking.consumerSequence consumerId) (fun _ => ih _)

structure EvaluatedFrom (state : RequiredConsumerLivenessState)
    (result : Option RequiredConsumerError × RequiredConsumerLivenessState) : Prop where
  hasCompletedStartup : result.2.hasCompletedStartup = state.hasCompletedStartup
  terminalError : ∀ error, result.1 = some error → result.2.terminalError = some error

omit looking in
theorem emitAlert (alerts : ∀ alert, Leaves contract pre (Ring.act (.alert alert)))
    (config : RequiredConsumerLivenessConfig) (progress : RequiredConsumerProgress)
    (alert : RequiredConsumerAlert) :
    Leaves contract pre
      (RequiredConsumerLivenessState.emitAlert (fun alert => Ring.act (.alert alert)) config
        progress alert) := by
  unfold RequiredConsumerLivenessState.emitAlert
  cases !progress.alertEmitted && config.alertHook with
  | true => exact alerts alert
  | false => exact Leaves.pure ()

theorem evaluateConsumers (alerts : ∀ alert, Leaves contract pre (Ring.act (.alert alert)))
    (now : Nat) (producerSequence : Int) (consumerIds : List ConsumerId)
    (state : RequiredConsumerLivenessState) :
    FrameTriple contract pre
      (RequiredConsumerLivenessState.evaluateConsumers ConsumerBarrier.consumerSequence
        (fun alert => Ring.act (.alert alert)) now producerSequence consumerIds state)
      (fun result producer world => EvaluatedFrom state result ∧ pre producer world) := by
  induction consumerIds generalizing state with
  | nil =>
      refine Contract.Triple.pure _ (fun _ _ held => ⟨⟨rfl, fun _ impossible => ?_⟩, held⟩)
      cases impossible
  | cons consumerId rest ih =>
      have goesOn : ∀ progress, FrameTriple contract pre
          (RequiredConsumerLivenessState.evaluateConsumers ConsumerBarrier.consumerSequence
            (fun alert => Ring.act (.alert alert)) now producerSequence rest
            (state.withProgress consumerId progress))
          (fun result producer world => EvaluatedFrom state result ∧ pre producer world) :=
        fun progress => (ih (state.withProgress consumerId progress)).weaken
          (fun _ _ _ held => ⟨⟨held.1.hasCompletedStartup, held.1.terminalError⟩, held.2⟩)
      apply Contract.Triple.bind (looking.consumerSequence consumerId)
      intro observed
      dsimp only
      split
      · exact goesOn _
      · split
        · exact ih state
        · apply Contract.Triple.bind (emitAlert alerts _ _ _)
          intro _
          split
          · exact goesOn _
          · exact Contract.Triple.pure _ (fun _ _ held => ⟨⟨rfl, fun _ same => same⟩, held⟩)

theorem evaluateBlocked (alerts : ∀ alert, Leaves contract pre (Ring.act (.alert alert)))
    (now : Nat) (producerSequence : Int)
    (state : RequiredConsumerLivenessState) :
    FrameTriple contract pre
      (RequiredConsumerLivenessState.evaluateBlocked ConsumerBarrier.consumerSequence
        (fun alert => Ring.act (.alert alert)) now producerSequence state)
      (fun result producer world => EvaluatedFrom state result ∧ pre producer world) := by
  unfold RequiredConsumerLivenessState.evaluateBlocked
  split
  · rename_i error terminal
    refine Contract.Triple.pure _ (fun _ _ held => ⟨⟨rfl, fun other same => ?_⟩, held⟩)
    cases same
    exact terminal
  · split
    · exact (looking.evaluateConsumers alerts now producerSequence _ _).weaken
        (fun _ _ _ held => ⟨⟨held.1.hasCompletedStartup, held.1.terminalError⟩, held.2⟩)
    · refine Contract.Triple.pure _ (fun _ _ held => ⟨⟨rfl, fun _ impossible => ?_⟩, held⟩)
      cases impossible

end Looking

/-! ### Assertions that do not speak of the clearance -/

structure Reserving (contract : Contract (application.machine passes))
    (pre : Producer → World application.interface → Prop) : Prop where
  looking : Looking contract pre
  clearance : ∀ producer world cleared, pre producer world →
    pre { producer with sequenceClearOfConsumers := cleared } world

namespace Reserving

variable (reserving : Reserving contract pre)

include reserving

theorem refreshClearanceWindow (n : Int) :
    Leaves contract pre (Producer.refreshClearanceWindow transport n) := by
  have looking := reserving.looking
  apply Leaves.bind Leaves.get
  intro producer
  apply Leaves.bind (looking.lasting.computed _)
  intro lastPublished
  apply Leaves.bind looking.gatingSequence
  intro rearSequenceRead
  apply Leaves.bind (Leaves.bind (looking.lasting.computed _) (fun _ => looking.lasting.computed _))
  intro freeSlots
  split
  · exact Leaves.bind (looking.lasting.computed _) (fun _ => Leaves.pure _)
  · apply Leaves.bind (looking.lasting.computed _)
    intro cleared producer world held fuel
    cases fuel with
    | zero => trivial
    | succ fuel => exact reserving.clearance producer world cleared held

theorem nextSequences (n : Nat) :
    Leaves contract pre (Producer.nextSequences transport n) := by
  have looking := reserving.looking
  unfold Producer.nextSequences
  split
  · apply Leaves.bind looking.lasting.expect
    intro _
    apply Leaves.bind Leaves.get
    intro producer
    split
    · exact Leaves.pure _
    · apply Leaves.bind
      · apply Leaves.bind Leaves.get
        intro producer
        split
        · exact Leaves.pure _
        · exact reserving.refreshClearanceWindow _
      · intro cleared
        cases cleared with
        | error missing => exact Leaves.pure _
        | ok => exact Leaves.pure _
  · exact Leaves.pure _

theorem awaitSlot : Leaves contract pre (Producer.awaitSlot transport) := by
  apply Leaves.rounds
  intro spun
  apply Leaves.bind Leaves.get
  intro producer
  apply Leaves.bind (reserving.nextSequences 1)
  intro reserved
  cases reserved with
  | ok sequence => exact Leaves.pure _
  | error missing =>
      exact Leaves.bind (reserving.looking.lasting.count _) (fun _ =>
        Leaves.bind (reserving.looking.act rfl) (fun _ => Leaves.pure _))

end Reserving

/-! ### Assertions that do not speak of the required consumers -/

/-- What holds after a call that may fail: an assertion of its own where it succeeds, and
where it fails the one before it. -/
def Either {interface : Interface} {ε α : Type} (pre : Producer → World interface → Prop)
    (post : α → Producer → World interface → Prop) :
    Except ε α → Producer → World interface → Prop
  | .ok value => post value
  | .error _ => pre

structure Managing (contract : Contract (application.machine passes))
    (pre : Producer → World application.interface → Prop) : Prop where
  reserving : Reserving contract pre
  alerts : ∀ alert, Leaves contract pre (Ring.act (.alert alert))
  liveness : ∀ producer world state, pre producer world →
    pre { producer with requiredConsumerLiveness := some state } world

namespace Managing

variable (managing : Managing contract pre)

include managing

theorem setLiveness (state : RequiredConsumerLivenessState) :
    Leaves contract pre (Producer.setLiveness state) := by
  intro producer world held fuel
  cases fuel with
  | zero => trivial
  | succ fuel => exact managing.liveness producer world state held

theorem completeStartup (state : RequiredConsumerLivenessState) :
    Leaves contract pre (Producer.completeStartup state) := by
  have looking := managing.reserving.looking
  apply Leaves.bind (looking.act rfl)
  intro now
  exact Leaves.bind (looking.seedProgress now _ state) (fun _ => managing.setLiveness _)

theorem awaitRequiredConsumers (state : RequiredConsumerLivenessState) (deadline : Nat) :
    Leaves contract pre (Producer.awaitRequiredConsumers state deadline) := by
  have looking := managing.reserving.looking
  apply Leaves.rounds
  intro round
  apply Leaves.bind (looking.missingRequiredConsumers _)
  intro missing
  split
  · exact Leaves.bind (managing.completeStartup state) (fun _ => Leaves.pure _)
  · apply Leaves.bind (looking.act rfl)
    intro now
    split
    · exact Leaves.pure _
    · exact Leaves.bind (looking.act rfl) (fun _ => Leaves.pure _)

theorem ensureRequiredConsumersReady :
    Leaves contract pre Producer.ensureRequiredConsumersReady := by
  have looking := managing.reserving.looking
  apply Leaves.bind Leaves.get
  intro producer
  split
  · exact Leaves.pure _
  · split
    · exact Leaves.pure _
    · exact Leaves.bind (looking.act rfl) (fun _ => managing.awaitRequiredConsumers _ _)

theorem checkRequiredConsumerLiveness :
    Leaves contract pre Producer.checkRequiredConsumerLiveness := by
  have looking := managing.reserving.looking
  apply Leaves.bind Leaves.get
  intro producer
  split
  · exact Leaves.pure _
  · apply Leaves.bind (looking.act rfl)
    intro now
    apply Leaves.bind (looking.act rfl)
    intro producerSequence
    apply Leaves.bind ((looking.evaluateBlocked managing.alerts now _ _).weaken
      (fun _ _ _ held => held.2))
    intro evaluated
    apply Leaves.bind (managing.setLiveness _)
    intro _
    split
    · exact Leaves.pure _
    · exact Leaves.pure _

variable {post : Int → Producer → World application.interface → Prop}

theorem publishManagedLoop {apply : ProducerProcess application.interface Int} (n : Nat)
    (applied : FrameTriple contract pre apply post) :
    FrameTriple contract pre (Producer.publishManagedLoop transport n apply) (Either pre post) := by
  apply Contract.Triple.repeat' (fun _ => pre)
  intro round
  apply Contract.Triple.bind (managing.reserving.nextSequences n)
  intro reserved
  cases reserved with
  | ok last =>
      apply Contract.Triple.bind applied
      intro sequence
      exact Contract.Triple.pure _ (fun _ _ held => held)
  | error missing =>
      apply Contract.Triple.bind managing.checkRequiredConsumerLiveness
      intro checked
      cases checked with
      | error error => exact Contract.Triple.pure _ (fun _ _ held => held)
      | ok =>
          apply Contract.Triple.bind (managing.reserving.looking.act rfl)
          intro _
          exact Contract.Triple.pure _ (fun _ _ held => held)

theorem publishManaged
    {update : application.interface.Value → Option application.interface.Value}
    (applied : FrameTriple contract pre (Producer.applyUpdate transport update) post) :
    FrameTriple contract pre (Producer.publishManaged transport update) (Either pre post) := by
  apply Contract.Triple.bind managing.ensureRequiredConsumersReady
  intro ready
  cases ready with
  | error error => exact Contract.Triple.pure _ (fun _ _ held => held)
  | ok => exact managing.publishManagedLoop 1 applied

theorem publishBatchManaged {n : Nat} (some : n ≠ 0)
    {updateFn : Nat → application.interface.Value → Option application.interface.Value}
    (applied : FrameTriple contract pre (Producer.applyBatchUpdates transport n updateFn) post) :
    FrameTriple contract pre (Producer.publishBatchManaged transport n updateFn)
      (Either pre post) := by
  unfold Producer.publishBatchManaged
  rw [if_neg some]
  apply Contract.Triple.bind managing.ensureRequiredConsumersReady
  intro ready
  cases ready with
  | error error => exact Contract.Triple.pure _ (fun _ _ held => held)
  | ok => exact managing.publishManagedLoop n applied

end Managing

/-! ### Assertions that do not speak of the events -/

structure Publishing (contract : Contract (application.machine passes))
    (pre : Producer → World application.interface → Prop) : Prop where
  reserving : Reserving contract pre
  allowed : ∀ producer action world, action.publishes = true → pre producer world →
    contract.guarantee .producer (.producer producer) action world
  published : ∀ producer action oracle before result after, action.publishes = true →
    perform passes action oracle before = some (result, after) → pre producer before →
    pre producer after
  counts : Leaves contract pre (Ring.act (.addCounter .eventsPublished 1))
  sequence : ∀ producer world next, pre producer world →
    pre { producer with sequence := next } world

namespace Publishing

variable (publishing : Publishing contract pre)

include publishing

theorem act {action : Action application.interface} (publishes : action.publishes = true) :
    Leaves contract pre (Ring.act action) := by
  apply Contract.Triple.perform
  intro producer world before held relied _holds _met
  have here := publishing.reserving.looking.lasting.stable producer world before relied held
  refine ⟨publishing.allowed _ _ _ publishes here, fun oracle result after performed => ?_⟩
  exact publishing.published producer action oracle before result after publishes performed here

theorem writeSlot (sequence : Int)
    (update : application.interface.Value → Option application.interface.Value) :
    Leaves contract pre (Producer.writeSlot transport sequence update) :=
  Leaves.bind (Leaves.bind publishing.reserving.looking.lasting.expect (fun _ => Leaves.pure _))
    (fun _ => publishing.act rfl)

theorem storeSequence (sequence n : Int) :
    Leaves contract pre (Producer.storeSequence sequence n) := by
  apply Leaves.bind (publishing.act rfl)
  intro _
  apply Leaves.bind Leaves.get
  intro producer
  apply Leaves.bind (publishing.reserving.looking.lasting.computed _)
  intro next producer world held fuel
  cases fuel with
  | zero => trivial
  | succ fuel => exact publishing.sequence producer world next held

theorem applyUpdate
    (update : application.interface.Value → Option application.interface.Value) :
    Leaves contract pre (Producer.applyUpdate transport update) := by
  apply Leaves.bind Leaves.get
  intro producer
  apply Leaves.bind publishing.reserving.looking.lasting.expect
  intro _
  exact Leaves.bind (publishing.writeSlot _ _) (fun _ =>
    Leaves.bind (publishing.storeSequence _ _) (fun _ => Leaves.pure _))

theorem applyBatchUpdates (n : Nat)
    (updateFn : Nat → application.interface.Value → Option application.interface.Value) :
    Leaves contract pre (Producer.applyBatchUpdates transport n updateFn) := by
  have looking := publishing.reserving.looking
  apply Leaves.bind looking.lasting.expect
  intro _
  apply Leaves.bind looking.lasting.expect
  intro _
  apply Leaves.bind Leaves.get
  intro producer
  apply Leaves.bind (looking.lasting.computed _)
  intro upper
  exact Leaves.bind (Leaves.each (fun _ => publishing.writeSlot _ _)) (fun _ =>
    Leaves.bind (publishing.storeSequence _ _) (fun _ => Leaves.pure _))

theorem tryPublish
    (update : application.interface.Value → Option application.interface.Value) :
    Leaves contract pre (Producer.tryPublish transport update) := by
  apply Leaves.bind Leaves.get
  intro producer
  apply Leaves.bind (publishing.reserving.nextSequences 1)
  intro reserved
  cases reserved with
  | error missing =>
      exact Leaves.bind (publishing.reserving.looking.lasting.count _) (fun _ => Leaves.pure _)
  | ok sequence =>
      exact Leaves.bind (publishing.applyUpdate update) (fun _ =>
        Leaves.bind (Leaves.onlyIf publishing.counts) (fun _ => Leaves.pure _))

theorem publish
    (update : application.interface.Value → Option application.interface.Value) :
    Leaves contract pre (Producer.publish transport update) := by
  apply Leaves.bind publishing.reserving.awaitSlot
  intro _
  apply Leaves.bind (publishing.applyUpdate update)
  intro _
  exact Leaves.bind Leaves.get (fun _ => Leaves.onlyIf publishing.counts)

theorem tryBatchPublish (n : Nat)
    (updateFn : Nat → application.interface.Value → Option application.interface.Value) :
    Leaves contract pre (Producer.tryBatchPublish transport n updateFn) := by
  unfold Producer.tryBatchPublish
  split
  · apply Leaves.bind Leaves.get
    intro producer
    exact Leaves.bind (publishing.reserving.looking.lasting.computed _) (fun _ => Leaves.pure _)
  · apply Leaves.bind (publishing.reserving.nextSequences n)
    intro reserved
    cases reserved with
    | error missing => exact Leaves.pure _
    | ok last =>
        exact Leaves.bind (publishing.applyBatchUpdates n updateFn) (fun _ => Leaves.pure _)

theorem publishWithTimeout (timeout : Nat)
    (update : application.interface.Value → Option application.interface.Value) :
    Leaves contract pre (Producer.publishWithTimeout transport timeout update) := by
  have looking := publishing.reserving.looking
  apply Leaves.bind looking.lasting.expect
  intro _
  apply Leaves.bind (looking.act rfl)
  intro start
  apply Leaves.rounds
  intro round
  apply Leaves.bind (publishing.reserving.nextSequences 1)
  intro reserved
  cases reserved with
  | ok sequence => exact Leaves.bind (publishing.applyUpdate update) (fun _ => Leaves.pure _)
  | error missing =>
      apply Leaves.bind (looking.act rfl)
      intro now
      split
      · exact Leaves.pure _
      · exact Leaves.bind (looking.act rfl) (fun _ => Leaves.pure _)

end Publishing
end Ring
