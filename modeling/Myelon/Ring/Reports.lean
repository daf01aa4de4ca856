/-
Where the reports of the liveness policy come from.

A consumer is reported, in an alert or for good, only in an evaluation that has looked at its
cursor and found it where it was. What is borne out by every such look is borne out by every
report.
-/

import Myelon.Ring.Blame

namespace Ring

open Interleaving

namespace RequiredConsumerLivenessState

/-- A look at that time which finds the cursor there is followed by a report, or by none only
because there has been one. -/
def Reports (state : RequiredConsumerLivenessState) (now : Nat) (producerSequence : Int)
    (consumerId : ConsumerId) (sequence : Int) : Prop :=
  consumerId ∈ state.config.requiredConsumerIds ∧ state.terminalError = none ∧
  state.shouldCheck now = true ∧ sequence < producerSequence ∧
  sequence ≤ (state.consumers consumerId).lastObservedSequence ∧
  state.config.progressTimeout ≤ now - (state.consumers consumerId).lastProgressAt

theorem shouldCheck_later {state : RequiredConsumerLivenessState} {now later : Nat}
    (due : state.shouldCheck now = true) (past : now ≤ later) :
    state.shouldCheck later = true := by
  simp only [shouldCheck, ge_iff_le, decide_eq_true_eq] at due ⊢
  omega

theorem Reports.later {state : RequiredConsumerLivenessState} {now later : Nat}
    {producerSequence sequence : Int} {consumerId : ConsumerId}
    (reports : state.Reports now producerSequence consumerId sequence) (past : now ≤ later) :
    state.Reports later producerSequence consumerId sequence := by
  obtain ⟨required, unrecorded, due, behind, still, late⟩ := reports
  exact ⟨required, unrecorded, shouldCheck_later due past, behind, still, by omega⟩

end RequiredConsumerLivenessState

open RequiredConsumerLivenessState

variable {transport : Transport} {Value : Type} {passes : DirectoryPasses}
variable {consumerCounters : ConsumerCounters}

/-! ### What the consumers do to the producer -/

structure World.Onward {interface : Interface} (before after : World interface) : Prop where
  clock : before.clock ≤ after.clock
  producerSequence : after.producerSequence = before.producerSequence

theorem perform_clock_le {interface : Interface} {action : Action interface}
    {oracle : Oracle interface} {before after : World interface} {result : action.Result}
    (performed : perform passes action oracle before = some (result, after)) :
    before.clock ≤ after.clock := by
  by_cases reads : action = .instantNow
  · subst reads
    cases oracle <;> cases performed
    exact Nat.le_add_right _ _
  · exact Nat.le_of_eq (perform_clock reads performed).symm

theorem perform_onward {interface : Interface} {action : Action interface}
    {oracle : Oracle interface} {before after : World interface} {result : action.Result}
    (unpublished : action.publishes = false)
    (performed : perform passes action oracle before = some (result, after)) :
    before.Onward after := by
  refine ⟨perform_clock_le performed, ?_⟩
  by_cases quiet : action.quiet = true
  · exact (perform_quiet quiet performed).producerSequence
  cases action
  case storeConsumerSequence consumerId sequence =>
    cases performed
    rfl
  case attachConsumerSequence consumerId =>
    simp only [perform] at performed
    split at performed <;> cases performed <;> rfl
  case newOrAttachConsumerSequence consumerId =>
    simp only [perform] at performed
    split at performed <;> cases performed <;> rfl
  case storeProducerSequence => cases unpublished
  case updateSlot => cases unpublished
  case refused => cases oracle <;> cases performed
  all_goals first
    | exact absurd rfl quiet
    | (cases performed; rfl)

theorem looks_onward {interface : Interface} {action : Action interface}
    {oracle : Oracle interface} {before after : World interface} {result : action.Result}
    (looks : action.looks = true)
    (performed : perform passes action oracle before = some (result, after)) :
    before.Onward after := by
  apply perform_onward _ performed
  cases action
  case updateSlot => cases looks
  case storeProducerSequence => cases looks
  all_goals rfl

/-! ### The contract -/

variable (borneOut : ConsumerId → Nat → Nat → Prop)

/-- Every look that is followed by a report bears out what the report says of the time until
then. -/
def LooksBearOut : Party → Self → Action (plain Value) → World (plain Value) → Prop
  | .producer, .producer producer, .loadConsumerSequence consumerId, world =>
      ∀ state, producer.requiredConsumerLiveness = some state →
        state.Reports world.clock world.producerSequence consumerId
          (world.cursor consumerId) →
        ∀ now ≤ world.clock, (state.consumers consumerId).lastProgressAt < now →
          borneOut consumerId (now - (state.consumers consumerId).lastProgressAt) now
  | _, _, _, _ => True

/-- The stall is as long as the timeout, and is borne out unless it is no time at all. -/
def Stalled (config : RequiredConsumerLivenessConfig) (consumerId : ConsumerId)
    (stalledFor now : Nat) : Prop :=
  config.progressTimeout ≤ stalledFor ∧ (0 < stalledFor → borneOut consumerId stalledFor now)

/-- An alert says how long it is after the last progress. A shutdown is triggered when the
policy has checked for the last time. -/
def reportGuarantee (self : Self) : Action (plain Value) → Prop
  | .alert alert => ∃ producer state, self = .producer producer ∧
      producer.requiredConsumerLiveness = some state ∧
      Stalled borneOut state.config alert.consumerId alert.stalledFor
        ((state.consumers alert.consumerId).lastProgressAt + alert.stalledFor)
  | .reply (.managed (.error (.gracefulShutdownTriggered consumerId _ stalledFor))) =>
      ∃ producer state, self = .producer producer ∧
        producer.requiredConsumerLiveness = some state ∧
        Stalled borneOut state.config consumerId stalledFor state.lastCheckAt
  | _ => True

def reporting (transport : Transport) (Value : Type) (consumerCounters : ConsumerCounters)
    (passes : DirectoryPasses) :
    Contract ((plainApplication transport Value consumerCounters).machine passes) where
  condition := LooksBearOut borneOut
  guarantee := fun party self action _world => match party with
    | .producer => reportGuarantee borneOut self action
    | .consumer _ => action.publishes = false
  invariant := fun _ => True
  rely := fun party before after => match party with
    | .producer => before.Onward after
    | .consumer _ => True
  relyRefl := by
    intro party world
    cases party with
    | producer => exact ⟨Nat.le_refl _, rfl⟩
    | consumer consumerId => trivial
  relyTrans := by
    intro party first second third left right
    cases party with
    | producer =>
        exact ⟨Nat.le_trans left.clock right.clock,
          right.producerSequence.trans left.producerSequence⟩
    | consumer consumerId => trivial
  performed := by
    intro party self action oracle before result after holds _met guaranteed performed
    refine ⟨trivial, fun other different => ?_⟩
    cases other with
    | consumer consumerId => trivial
    | producer =>
        cases party with
        | producer => exact absurd rfl different
        | consumer consumerId => exact perform_onward guaranteed performed
  restarted := by
    intro party before program after holds restarted
    refine ⟨trivial, fun other _different => ?_⟩
    cases other with
    | consumer consumerId => trivial
    | producer =>
        cases party with
        | producer => cases restarted
        | consumer consumerId =>
            simp only [Application.machine] at restarted
            split at restarted
            · cases restarted
              exact ⟨Nat.le_refl _, rfl⟩
            · cases restarted

/-! ### What the producer keeps -/

/-- The required consumers are known from the startup on, and the shutdown is accounted for. -/
structure Accounts (state : RequiredConsumerLivenessState) (producer : Producer) : Prop where
  known : state.hasCompletedStartup = true →
    state.config.requiredConsumerIds ⊆ producer.consumerBarrier.consumerCursors
  calm : state.hasCompletedStartup ≠ true → state.terminalError = none
  ended : ∀ consumerId lastSequence stalledFor,
    state.terminalError =
      some (.gracefulShutdownTriggered consumerId lastSequence stalledFor) →
    Stalled borneOut state.config consumerId stalledFor state.lastCheckAt

structure Accounting (meets : Option RequiredConsumerLivenessState → Prop) (producer : Producer)
    (_world : World (plain Value)) : Prop where
  meets : meets producer.requiredConsumerLiveness
  accounts : ∀ state, producer.requiredConsumerLiveness = some state →
    Accounts borneOut state producer

section Producer

variable {borneOut} {meets : Option RequiredConsumerLivenessState → Prop} {α : Type}
variable {state now : RequiredConsumerLivenessState} {clock : Nat} {producerSequence : Int}

abbrev ReportTriple (borneOut : ConsumerId → Nat → Nat → Prop) (Value : Type)
    (transport : Transport) (consumerCounters : ConsumerCounters) (passes : DirectoryPasses)
    (pre : Producer → World (plain Value) → Prop) (routine : ProducerProcess (plain Value) α)
    (post : α → Producer → World (plain Value) → Prop) : Prop :=
  FrameTriple (reporting borneOut transport Value consumerCounters passes) pre routine post

theorem Accounts.grows {producer other : Producer} (accounts : Accounts borneOut state producer)
    (grows : producer.consumerBarrier.consumerCursors ⊆ other.consumerBarrier.consumerCursors) :
    Accounts borneOut state other where
  known := fun completed => List.Subset.trans (accounts.known completed) grows
  calm := accounts.calm
  ended := accounts.ended

theorem Accounting.grows {producer other : Producer} {before after : World (plain Value)}
    (accounting : Accounting borneOut meets producer before)
    (same : other.requiredConsumerLiveness = producer.requiredConsumerLiveness)
    (grows : producer.consumerBarrier.consumerCursors ⊆ other.consumerBarrier.consumerCursors) :
    Accounting borneOut meets other after where
  meets := by
    rw [same]
    exact accounting.meets
  accounts := by
    rw [same]
    exact fun state configured => (accounting.accounts state configured).grows grows

theorem Accounting.weaken {weaker : Option RequiredConsumerLivenessState → Prop}
    {producer : Producer} {before after : World (plain Value)}
    (accounting : Accounting borneOut meets producer before)
    (implied : meets producer.requiredConsumerLiveness →
      weaker producer.requiredConsumerLiveness) : Accounting borneOut weaker producer after :=
  ⟨implied accounting.meets, accounting.accounts⟩

theorem reporting_allows {self : Self} {action : Action (plain Value)} {world : World (plain Value)}
    (looks : action.looks = true ∨ action.publishes = true) :
    (reporting borneOut transport Value consumerCounters passes).guarantee .producer self action
      world := by
  cases action
  case alert alert => rcases looks with impossible | impossible <;> cases impossible
  case reply reply => rcases looks with impossible | impossible <;> cases impossible
  all_goals trivial

theorem accounting_reserving :
    Reserving (reporting borneOut transport Value consumerCounters passes)
      (Accounting borneOut meets) where
  looking :=
    { lasting :=
        { stable := fun _ _ _ _ accounting => accounting.grows rfl (List.Subset.refl _)
          allowed := fun _ _ _ looks => reporting_allows (.inl looks)
          performed := fun _ _ _ _ _ _ _ _ _ accounting =>
            accounting.grows rfl (List.Subset.refl _) }
      barrier := fun _ _ _ grows accounting => accounting.grows rfl grows }
  clearance := fun _ _ _ accounting => accounting.grows rfl (List.Subset.refl _)

theorem accounting_looking : Looking (reporting borneOut transport Value consumerCounters passes)
    (Accounting borneOut meets) :=
  accounting_reserving.looking

theorem accounting_publishing :
    Publishing (reporting borneOut transport Value consumerCounters passes)
      (Accounting borneOut meets) where
  reserving := accounting_reserving
  allowed := fun _ _ _ publishes _ => reporting_allows (.inr publishes)
  published := fun _ _ _ _ _ _ _ _ accounting => accounting.grows rfl (List.Subset.refl _)
  counts := by
    apply Contract.Triple.perform
    intro producer world before accounting _relied _holds _met
    exact ⟨trivial, fun _ _ _ _ => accounting.grows rfl (List.Subset.refl _)⟩
  sequence := fun _ _ _ accounting => accounting.grows rfl (List.Subset.refl _)

/-! ### An evaluation -/

structure Asking (state : RequiredConsumerLivenessState) (clock : Nat) (producerSequence : Int)
    (producer : Producer) (world : World (plain Value)) : Prop where
  configured : producer.requiredConsumerLiveness = some state
  known : state.config.requiredConsumerIds ⊆ producer.consumerBarrier.consumerCursors
  past : clock ≤ world.clock
  published : world.producerSequence = producerSequence

theorem Asking.onward {producer : Producer} {before after : World (plain Value)}
    (asking : Asking state clock producerSequence producer before)
    (onward : before.Onward after) : Asking state clock producerSequence producer after where
  configured := asking.configured
  known := asking.known
  past := Nat.le_trans asking.past onward.clock
  published := onward.producerSequence.trans asking.published

theorem asking_looking : Looking (reporting borneOut transport Value consumerCounters passes)
    (Asking state clock producerSequence) where
  lasting :=
    { stable := fun _ _ _ relied asking => asking.onward relied
      allowed := fun _ _ _ looks => reporting_allows (.inl looks)
      performed := fun _ _ _ _ _ _ looks _ performed asking =>
        asking.onward (looks_onward looks performed) }
  barrier := fun _ _ _ grows asking =>
    ⟨asking.configured, List.Subset.trans asking.known grows, asking.past, asking.published⟩

def Shown (borneOut : ConsumerId → Nat → Nat → Prop) (state : RequiredConsumerLivenessState)
    (clock : Nat) (producerSequence : Int) (consumerId : ConsumerId) (sequence : Int) : Prop :=
  state.Reports clock producerSequence consumerId sequence →
    (state.consumers consumerId).lastProgressAt < clock →
    borneOut consumerId (clock - (state.consumers consumerId).lastProgressAt) clock

theorem consumerSequence_shown {consumerId : ConsumerId}
    (required : consumerId ∈ state.config.requiredConsumerIds) :
    ReportTriple borneOut Value transport consumerCounters passes
      (Asking state clock producerSequence) (ConsumerBarrier.consumerSequence consumerId)
      (fun observed producer world => ∃ sequence, observed = some sequence ∧
        Shown borneOut state clock producerSequence consumerId sequence ∧
          Asking state clock producerSequence producer world) := by
  apply asking_looking.consumerSequence_shows (fun _ _ asking => asking.known required)
  intro producer world oracle sequence after asking kept met performed
  refine ⟨fun reports elapsed => ?_, kept⟩
  simp only [perform] at performed
  split at performed <;> cases performed
  refine met state asking.configured ?_ clock asking.past elapsed
  rw [asking.published]
  exact reports.later asking.past

structure Revised (borneOut : ConsumerId → Nat → Nat → Prop)
    (state now : RequiredConsumerLivenessState) (clock : Nat) : Prop where
  derived : Derived state now clock
  checked : now.lastCheckAt = clock

theorem Revised.notes (revised : Revised borneOut state now clock) {consumerId : ConsumerId}
    {progress : RequiredConsumerProgress}
    (continues : Continues clock (state.consumers consumerId) progress) :
    Revised borneOut state (now.withProgress consumerId progress) clock :=
  ⟨revised.derived.notes continues, revised.checked⟩

/-- A stall that is found in the course of an evaluation was one when it began, or is no time
at all. -/
theorem Revised.stalled (revised : Revised borneOut state now clock)
    (unrecorded : state.terminalError = none) (due : state.shouldCheck clock = true)
    {consumerId : ConsumerId} {sequence : Int}
    (required : consumerId ∈ state.config.requiredConsumerIds)
    (shown : Shown borneOut state clock producerSequence consumerId sequence)
    (unmoved : hasProgressed (some sequence) producerSequence (now.consumers consumerId) = none)
    (late : now.config.progressTimeout ≤ clock - (now.consumers consumerId).lastProgressAt) :
    Stalled borneOut state.config consumerId
        (clock - (now.consumers consumerId).lastProgressAt) clock ∧
      (0 < clock - (now.consumers consumerId).lastProgressAt →
        (now.consumers consumerId).lastProgressAt =
          (state.consumers consumerId).lastProgressAt) := by
  obtain ⟨still, behind⟩ := hasProgressed_unmoved unmoved
  rw [revised.derived.config] at late
  rcases revised.derived.continues consumerId with ⟨anew, _stall⟩ | ⟨since, observed, _stall⟩
  · rw [anew] at late ⊢
    exact ⟨⟨late, fun impossible => by omega⟩, fun impossible => by omega⟩
  · rw [since] at late ⊢
    rw [observed] at still
    refine ⟨⟨late, fun elapsed => ?_⟩, fun _ => rfl⟩
    exact shown ⟨required, unrecorded, due, behind, still, late⟩ (by omega)

def Evaluates (borneOut : ConsumerId → Nat → Nat → Prop) (state : RequiredConsumerLivenessState)
    (result : Option RequiredConsumerError × RequiredConsumerLivenessState)
    (producer : Producer) (_world : World (plain Value)) : Prop :=
  Looking.EvaluatedFrom state result ∧ Accounts borneOut result.2 producer

theorem Revised.passed {producer : Producer} {world : World (plain Value)}
    (revised : Revised borneOut state now clock)
    (asking : Asking state clock producerSequence producer world) :
    Evaluates borneOut state (none, now) producer world := by
  refine ⟨⟨revised.derived.hasCompletedStartup, fun _ impossible => by cases impossible⟩, ?_⟩
  constructor
  · intro _completed
    change now.config.requiredConsumerIds ⊆ _
    rw [revised.derived.config]
    exact asking.known
  · exact fun _ => revised.derived.unrecorded
  · intro consumerId lastSequence stalledFor impossible
    have unrecorded := revised.derived.unrecorded
    rw [unrecorded] at impossible
    cases impossible

theorem emitAlert_reports {consumerId : ConsumerId} {lastSequence : Int} {stalledFor : Nat}
    (config : RequiredConsumerLivenessConfig) (progress : RequiredConsumerProgress)
    (stalled : Stalled borneOut state.config consumerId stalledFor
      ((state.consumers consumerId).lastProgressAt + stalledFor)) :
    Leaves (reporting borneOut transport Value consumerCounters passes)
      (Asking state clock producerSequence)
      (emitAlert (fun alert => act (.alert alert)) config progress
        { consumerId, lastSequence, stalledFor }) := by
  unfold RequiredConsumerLivenessState.emitAlert
  cases !progress.alertEmitted && config.alertHook with
  | false => exact Leaves.pure ()
  | true =>
      apply Contract.Triple.perform
      intro producer world before asking relied _holds _met
      refine ⟨⟨producer, state, rfl, asking.configured, stalled⟩, ?_⟩
      intro oracle result after performed
      cases performed
      exact (asking.onward relied).onward ⟨Nat.le_refl _, rfl⟩

theorem evaluateConsumers_reports (completed : state.hasCompletedStartup = true)
    (unrecorded : state.terminalError = none) (due : state.shouldCheck clock = true)
    (consumerIds : List ConsumerId)
    (required : consumerIds ⊆ state.config.requiredConsumerIds)
    (revised : Revised borneOut state now clock) :
    ReportTriple borneOut Value transport consumerCounters passes
      (Asking state clock producerSequence)
      (evaluateConsumers ConsumerBarrier.consumerSequence (fun alert => act (.alert alert)) clock
        producerSequence consumerIds now)
      (Evaluates borneOut state) := by
  induction consumerIds generalizing now with
  | nil => exact Contract.Triple.pure _ (fun _ _ asking => revised.passed asking)
  | cons consumerId rest ih =>
      have here := required List.mem_cons_self
      have later : rest ⊆ state.config.requiredConsumerIds :=
        fun other member => required (List.mem_cons_of_mem consumerId member)
      apply Contract.Triple.bind (consumerSequence_shown here)
      intro observed
      apply Contract.Triple.exists
      intro sequence
      apply Contract.Triple.given (observed = some sequence ∧
        Shown borneOut state clock producerSequence consumerId sequence)
        (fun _ _ held => ⟨held.1, held.2.1⟩)
      rintro ⟨rfl, shown⟩
      dsimp only
      split
      · exact (ih later (revised.notes (.inl ⟨rfl, rfl⟩))).strengthen (fun _ _ held => held.2.2)
      · rename_i unmoved
        split
        · exact (ih later revised).strengthen (fun _ _ held => held.2.2)
        · rename_i late
          obtain ⟨stalled, since⟩ := revised.stalled unrecorded due here shown unmoved
            (Nat.le_of_not_lt late)
          apply Contract.Triple.bind
          · apply (emitAlert_reports _ _ _).strengthen (fun _ _ held => held.2.2)
            refine ⟨stalled.1, fun some => ?_⟩
            have same := since some
            have now : (state.consumers consumerId).lastProgressAt +
                (clock - (now.consumers consumerId).lastProgressAt) = clock := by omega
            rw [now]
            exact stalled.2 some
          intro _
          split
          · apply ih later (revised.notes _)
            rcases revised.derived.continues consumerId with
              ⟨since, stall⟩ | ⟨since, same, stall⟩
            · exact .inl ⟨since, stall⟩
            · exact .inr ⟨since, same, stall⟩
          · apply Contract.Triple.pure
            intro producer world asking
            refine ⟨⟨revised.derived.hasCompletedStartup, fun _ same => same⟩, ?_⟩
            constructor
            · intro _completed
              change now.config.requiredConsumerIds ⊆ _
              rw [revised.derived.config]
              exact asking.known
            · intro uncompleted
              exact absurd (revised.derived.hasCompletedStartup.trans completed) uncompleted
            · intro other lastSequence stalledFor ended
              cases ended
              change Stalled borneOut now.config _ _ now.lastCheckAt
              rw [revised.derived.config, revised.checked]
              exact stalled

/-! ### A managed call -/

theorem setLiveness_accounts (meets : Option RequiredConsumerLivenessState → Prop)
    (holds : meets (some state)) :
    ReportTriple borneOut Value transport consumerCounters passes
      (fun producer _world => Accounts borneOut state producer)
      (Producer.setLiveness state) (fun _ => Accounting borneOut meets) := by
  intro producer world accounts fuel
  cases fuel with
  | zero => trivial
  | succ fuel =>
      refine ⟨holds, ?_⟩
      intro other same
      cases same
      exact accounts.grows (List.Subset.refl _)

theorem evaluateBlocked_reports (completed : state.hasCompletedStartup = true) :
    ReportTriple borneOut Value transport consumerCounters passes
      (fun producer world => Accounts borneOut state producer ∧
        Asking state clock producerSequence producer world)
      (evaluateBlocked ConsumerBarrier.consumerSequence (fun alert => act (.alert alert)) clock
        producerSequence state)
      (Evaluates borneOut state) := by
  unfold evaluateBlocked
  split
  · rename_i error terminal
    apply Contract.Triple.pure
    intro producer world held
    refine ⟨⟨rfl, fun other same => ?_⟩, held.1⟩
    cases same
    exact terminal
  · rename_i unrecorded
    split
    · rename_i due
      have revised : Revised borneOut state { state with lastCheckAt := clock } clock :=
        ⟨⟨rfl, rfl, unrecorded, fun _ => .inr ⟨rfl, rfl, rfl⟩⟩, rfl⟩
      exact (evaluateConsumers_reports completed unrecorded due state.config.requiredConsumerIds
        (List.Subset.refl _) revised).strengthen (fun _ _ held => held.2)
    · apply Contract.Triple.pure
      intro producer world held
      exact ⟨⟨rfl, fun _ impossible => by cases impossible⟩, held.1⟩

def Recorded {β : Type} (result : Except RequiredConsumerError β) (producer : Producer) : Prop :=
  ∀ consumerId lastSequence stalledFor,
    result = .error (.gracefulShutdownTriggered consumerId lastSequence stalledFor) →
    ∃ state, producer.requiredConsumerLiveness = some state ∧
      state.terminalError =
        some (.gracefulShutdownTriggered consumerId lastSequence stalledFor)

def Concluded {β : Type} (borneOut : ConsumerId → Nat → Nat → Prop)
    (result : Except RequiredConsumerError β) (producer : Producer)
    (world : World (plain Value)) : Prop :=
  Recorded result producer ∧ Accounting borneOut Started producer world

theorem recorded_ok {β : Type} {value : β} {producer : Producer} :
    Recorded (.ok value) producer := by
  intro consumerId lastSequence stalledFor impossible
  cases impossible

theorem checkLiveness_reports :
    ReportTriple borneOut Value transport consumerCounters passes (Accounting borneOut Started)
      Producer.checkRequiredConsumerLiveness (Concluded borneOut) := by
  apply Contract.Triple.bind Contract.Triple.get
  intro producer
  split
  · apply Contract.Triple.pure
    intro self world held
    exact ⟨recorded_ok, held.2⟩
  · rename_i state configured
    apply Contract.Triple.given (state.hasCompletedStartup = true ∧
      Accounts borneOut state producer)
    · intro self world held
      obtain ⟨rfl, accounting⟩ := held
      exact ⟨accounting.meets state configured, accounting.accounts state configured⟩
    intro started
    obtain ⟨completed, accounts⟩ := started
    have clocked : ReportTriple borneOut Value transport consumerCounters passes
        (fun self world => producer = self ∧ Accounting borneOut Started self world)
        (act .instantNow)
        (fun (now : Nat) self world => producer = self ∧ now ≤ world.clock) := by
      apply Contract.Triple.perform
      intro self world before held _relied _holds _met
      refine ⟨trivial, fun oracle result after performed => ?_⟩
      cases oracle <;> cases performed
      exact ⟨held.1, Nat.le_refl _⟩
    apply Contract.Triple.bind clocked
    intro (now : Nat)
    have loaded : ReportTriple borneOut Value transport consumerCounters passes
        (fun self world => producer = self ∧ now ≤ world.clock) Producer.lastPublishedSequence
        (fun producerSequence self world => Accounts borneOut state self ∧
          Asking state now producerSequence self world) := by
      apply Contract.Triple.perform
      intro self world before held relied _holds _met
      refine ⟨trivial, fun oracle result after performed => ?_⟩
      obtain ⟨rfl, past⟩ := held
      cases performed
      exact ⟨accounts, configured, accounts.known completed, Nat.le_trans past relied.clock, rfl⟩
    apply Contract.Triple.bind loaded
    intro producerSequence
    apply Contract.Triple.bind (evaluateBlocked_reports completed)
    intro evaluated
    obtain ⟨failure, revised⟩ := evaluated
    apply Contract.Triple.given (Looking.EvaluatedFrom state (failure, revised))
      (fun _ _ held => held.1)
    intro comes
    have revises : ReportTriple borneOut Value transport consumerCounters passes
        (Evaluates borneOut state (failure, revised)) (Producer.setLiveness revised)
        (fun _ => Accounting borneOut (· = some revised)) :=
      (setLiveness_accounts (· = some revised) rfl).strengthen (fun _ _ held => held.2)
    apply Contract.Triple.bind revises
    intro _
    have starts : ∀ {self : Producer} {world : World (plain Value)},
        Accounting borneOut (· = some revised) self world →
        Accounting borneOut Started self world := by
      intro self world accounting
      apply accounting.weaken
      intro same other configured
      rw [same] at configured
      cases configured
      exact comes.hasCompletedStartup.trans completed
    cases failure with
    | none =>
        exact Contract.Triple.pure _ (fun _ _ accounting => ⟨recorded_ok, starts accounting⟩)
    | some error =>
        apply Contract.Triple.pure
        intro self world accounting
        refine ⟨?_, starts accounting⟩
        intro consumerId lastSequence stalledFor failed
        cases failed
        exact ⟨revised, accounting.meets, comes.terminalError _ rfl⟩

theorem publishManagedLoop_reports (n : Nat) {apply : ProducerProcess (plain Value) Int}
    (applies : Leaves (reporting borneOut transport Value consumerCounters passes)
      (Accounting borneOut Started) apply) :
    ReportTriple borneOut Value transport consumerCounters passes (Accounting borneOut Started)
      (Producer.publishManagedLoop transport n apply) (Concluded borneOut) := by
  refine Contract.Triple.repeat' (fun _ => Accounting borneOut Started) ?_ ()
  intro round
  apply Contract.Triple.bind (accounting_reserving.nextSequences n)
  intro reserved
  cases reserved with
  | ok last =>
      apply Contract.Triple.bind applies
      intro sequence
      exact Contract.Triple.pure _ (fun _ _ accounting => ⟨recorded_ok, accounting⟩)
  | error missing =>
      apply Contract.Triple.bind checkLiveness_reports
      intro checked
      cases checked with
      | error error =>
          apply Contract.Triple.pure
          intro producer world answers
          refine ⟨?_, answers.2⟩
          intro consumerId lastSequence stalledFor failed
          cases failed
          exact answers.1 _ _ _ rfl
      | ok =>
          apply Contract.Triple.bind ((accounting_looking.act rfl).strengthen
            (fun _ _ held => held.2))
          intro _
          exact Contract.Triple.pure _ (fun _ _ accounting => accounting)

/-! ### The startup -/

def Seeded (state now : RequiredConsumerLivenessState) (producer : Producer)
    (_world : World (plain Value)) : Prop :=
  (now.config = state.config ∧ now.terminalError = none) ∧
    state.config.requiredConsumerIds ⊆ producer.consumerBarrier.consumerCursors

theorem seeded_looking : Looking (reporting borneOut transport Value consumerCounters passes)
    (Seeded state now) where
  lasting :=
    { stable := fun _ _ _ _ seeded => seeded
      allowed := fun _ _ _ looks => reporting_allows (.inl looks)
      performed := fun _ _ _ _ _ _ _ _ _ seeded => seeded }
  barrier := fun _ _ _ grows seeded => ⟨seeded.1, List.Subset.trans seeded.2 grows⟩

theorem seedProgress_seeded (instant : Nat) (consumerIds : List ConsumerId) :
    ReportTriple borneOut Value transport consumerCounters passes (Seeded state now)
      (seedProgress ConsumerBarrier.consumerSequence instant consumerIds now)
      (Seeded state) := by
  induction consumerIds generalizing now with
  | nil => exact Contract.Triple.pure _ (fun _ _ seeded => seeded)
  | cons consumerId rest ih =>
      apply Contract.Triple.bind (seeded_looking.consumerSequence consumerId)
      intro _observed
      exact ih.strengthen (fun _ _ seeded => seeded)

theorem completeStartup_accounts :
    ReportTriple borneOut Value transport consumerCounters passes (Seeded state state)
      (Producer.completeStartup state) (fun _ => Accounting borneOut Started) := by
  apply Contract.Triple.bind (seeded_looking.act rfl)
  intro instant
  apply Contract.Triple.bind (seedProgress_seeded _ _)
  intro seeded
  have marked : Started (some (seeded.markStartupCompleted instant)) := by
    intro other same
    cases same
    rfl
  apply (setLiveness_accounts Started marked).strengthen
  intro producer world held
  obtain ⟨⟨configured, calm⟩, known⟩ := held
  constructor
  · intro _completed
    change seeded.config.requiredConsumerIds ⊆ _
    rw [configured]
    exact known
  · exact fun _ => calm
  · intro consumerId lastSequence stalledFor ended
    have impossible : seeded.terminalError = _ := ended
    rw [calm] at impossible
    cases impossible

def Readied (borneOut : ConsumerId → Nat → Nat → Prop) (ready : Except RequiredConsumerError Unit)
    (producer : Producer) (world : World (plain Value)) : Prop :=
  match ready with
  | .ok () => Accounting borneOut Started producer world
  | .error error => (∃ missing, error = .startupTimeout missing) ∧
      Accounting borneOut (fun _ => True) producer world

theorem awaitRequiredConsumers_reports (deadline : Nat)
    (uncompleted : state.hasCompletedStartup ≠ true) :
    ReportTriple borneOut Value transport consumerCounters passes
      (Accounting borneOut (· = some state)) (Producer.awaitRequiredConsumers state deadline)
      (Readied borneOut) := by
  refine Contract.Triple.repeat' (fun _ => Accounting borneOut (· = some state)) ?_ ()
  intro round
  apply Contract.Triple.bind (accounting_looking.missingRequiredConsumers_knows _)
  intro missing
  split
  · rename_i complete
    have none : missing = [] := List.isEmpty_iff.mp complete
    apply Contract.Triple.bind
    · apply completeStartup_accounts.strengthen
      intro producer world held
      obtain ⟨known, accounting⟩ := held
      have accounts := accounting.accounts state accounting.meets
      refine ⟨⟨rfl, accounts.calm uncompleted⟩, fun consumerId member => ?_⟩
      have either := known consumerId member
      rw [none] at either
      exact either.resolve_left List.not_mem_nil
    intro _
    exact Contract.Triple.pure _ (fun _ _ accounting => accounting)
  · apply Contract.Triple.bind ((accounting_looking.act rfl).strengthen
      (fun _ _ held => held.2))
    intro instant
    split
    · exact Contract.Triple.pure _ (fun _ _ accounting =>
        ⟨⟨missing, rfl⟩, accounting.weaken (fun _ => trivial)⟩)
    · apply Contract.Triple.bind (accounting_looking.act rfl)
      intro _
      exact Contract.Triple.pure _ (fun _ _ accounting => accounting)

theorem ensureReady_reports :
    ReportTriple borneOut Value transport consumerCounters passes
      (Accounting borneOut (fun _ => True)) Producer.ensureRequiredConsumersReady
      (Readied borneOut) := by
  apply Contract.Triple.bind Contract.Triple.get
  intro producer
  split
  · rename_i none
    apply Contract.Triple.pure
    intro self world held
    obtain ⟨rfl, accounting⟩ := held
    apply accounting.weaken
    intro _ state some
    rw [none] at some
    cases some
  · rename_i state configured
    split
    · rename_i completed
      apply Contract.Triple.pure
      intro self world held
      obtain ⟨rfl, accounting⟩ := held
      apply accounting.weaken
      intro _ other some
      rw [configured] at some
      cases some
      exact completed
    · rename_i uncompleted
      have asks : ReportTriple borneOut Value transport consumerCounters passes
          (fun self world => producer = self ∧ Accounting borneOut (fun _ => True) self world)
          (act .instantNow) (fun _ => Accounting borneOut (· = some state)) := by
        apply (accounting_looking.act rfl).strengthen
        intro self world held
        obtain ⟨rfl, accounting⟩ := held
        exact accounting.weaken (fun _ => configured)
      apply Contract.Triple.bind asks
      intro start
      exact awaitRequiredConsumers_reports _ uncompleted

/-! ### The requests -/

def RecordedReply (reply : ProducerReply) (producer : Producer) : Prop :=
  ∀ result, reply = .managed result → Recorded result producer

def Replied (borneOut : ConsumerId → Nat → Nat → Prop) (reply : ProducerReply)
    (producer : Producer) (world : World (plain Value)) : Prop :=
  RecordedReply reply producer ∧ Accounting borneOut (fun _ => True) producer world

theorem ProducerReply.recorded_inconclusive {reply : ProducerReply} {producer : Producer}
    (inconclusive : reply.conclusion = none) : RecordedReply reply producer := by
  intro result same
  subst same
  cases inconclusive

theorem managed_recorded {n : Nat} {apply : ProducerProcess (plain Value) Int}
    (applies : Leaves (reporting borneOut transport Value consumerCounters passes)
      (Accounting borneOut Started) apply) :
    ReportTriple borneOut Value transport consumerCounters passes
      (Accounting borneOut (fun _ => True))
      (ProducerReply.managed <$> managedCall transport n apply) (Replied borneOut) := by
  apply Contract.Triple.map
  apply Contract.Triple.through (Readied borneOut) ensureReady_reports
  intro ready
  cases ready with
  | error error =>
      apply Contract.Triple.pure
      intro producer world held
      obtain ⟨⟨missing, rfl⟩, accounting⟩ := held
      refine ⟨?_, accounting⟩
      intro result same consumerId lastSequence stalledFor failed
      cases same
      cases failed
  | ok =>
      apply (publishManagedLoop_reports n applies).weaken
      intro result producer world concluded
      refine ⟨?_, concluded.2.weaken (fun _ => trivial)⟩
      intro other same
      cases same
      exact concluded.1

theorem unmanaged_recorded {reply : α → ProducerReply} {routine : ProducerProcess (plain Value) α}
    (unmanaged : ∀ value, (reply value).conclusion = none)
    (leaves : Leaves (reporting borneOut transport Value consumerCounters passes)
      (Accounting borneOut (fun _ => True)) routine) :
    ReportTriple borneOut Value transport consumerCounters passes
      (Accounting borneOut (fun _ => True)) (reply <$> routine) (Replied borneOut) :=
  Contract.Triple.map (leaves.weaken (fun value _ _ accounting =>
    ⟨ProducerReply.recorded_inconclusive (unmanaged value), accounting⟩))

theorem serveProducer_recorded (request : ProducerRequest Value) :
    ReportTriple borneOut Value transport consumerCounters passes
      (Accounting borneOut (fun _ => True)) (serveProducer transport request)
      (Replied borneOut) := by
  have publishing : Publishing (reporting borneOut transport Value consumerCounters passes)
      (Accounting borneOut (fun _ => True)) := accounting_publishing
  have looking := publishing.reserving.looking
  cases request with
  | tryPublish update =>
      exact unmanaged_recorded (fun _ => rfl) (publishing.tryPublish update)
  | publish update =>
      apply Contract.Triple.bind (publishing.publish update)
      intro _
      exact Contract.Triple.pure _ (fun _ _ accounting =>
        ⟨ProducerReply.recorded_inconclusive rfl, accounting⟩)
  | tryBatchPublish n updateFn =>
      exact unmanaged_recorded (fun _ => rfl) (publishing.tryBatchPublish n updateFn)
  | publishWithTimeout timeout update =>
      simp only [serveProducer]
      split
      · exact unmanaged_recorded (fun _ => rfl) (publishing.publishWithTimeout timeout update)
      · exact Contract.Triple.pure _ (fun _ _ accounting =>
          ⟨ProducerReply.recorded_inconclusive rfl, accounting⟩)
  | publishManaged update =>
      exact managed_recorded (accounting_publishing.applyUpdate update)
  | publishBatchManaged n updateFn =>
      by_cases none : n = 0
      · simp only [serveProducer, Producer.publishBatchManaged, if_pos none]
        apply Contract.Triple.map
        apply Contract.Triple.bind Leaves.get
        intro producer
        apply Contract.Triple.bind (looking.lasting.computed _)
        intro last
        apply Contract.Triple.pure
        intro self world accounting
        refine ⟨?_, accounting⟩
        intro result same
        cases same
        exact recorded_ok
      · simp only [serveProducer, Producer.publishBatchManaged, if_neg none]
        exact managed_recorded (accounting_publishing.applyBatchUpdates n updateFn)
  | lastPublishedSequence => exact unmanaged_recorded (fun _ => rfl) (looking.act rfl)
  | minGatingSequence => exact unmanaged_recorded (fun _ => rfl) looking.gatingSequence
  | isConsumed sequence =>
      exact unmanaged_recorded (fun _ => rfl) (looking.isConsumed sequence)
  | waitUntilConsumedWithStrategy sequence timeout =>
      exact unmanaged_recorded (fun _ => rfl) (looking.waitUntilConsumed sequence timeout)
  | discoverConsumerId consumerId =>
      exact unmanaged_recorded (fun _ => rfl) (looking.discoverConsumerId consumerId)
  | waitForConsumerId consumerId timeout =>
      exact unmanaged_recorded (fun _ => rfl) (looking.waitForConsumerId consumerId timeout)
  | consumerSequence consumerId =>
      exact unmanaged_recorded (fun _ => rfl) (looking.consumerSequence consumerId)
  | getConsumerCount =>
      exact unmanaged_recorded (fun _ => rfl) looking.bestEffortConsumerCount

theorem reply_accounts (reply : ProducerReply) :
    ReportTriple borneOut Value transport consumerCounters passes (Replied borneOut reply)
      (act (.reply reply)) (fun _ => Accounting borneOut (fun _ => True)) := by
  apply Contract.Triple.perform
  intro producer world before held _relied _holds _met
  obtain ⟨recorded, accounting⟩ := held
  refine ⟨?_, fun _ _ _ _ => accounting.weaken id⟩
  cases reply
  case managed result =>
    cases result with
    | ok sequence => trivial
    | error error =>
        cases error with
        | startupTimeout missing => trivial
        | gracefulShutdownTriggered consumerId lastSequence stalledFor =>
            obtain ⟨state, configured, ended⟩ := recorded _ rfl _ _ _ rfl
            exact ⟨producer, state, rfl, configured,
              (accounting.accounts state configured).ended _ _ _ ended⟩
  all_goals trivial

theorem producerRound_accounts :
    ReportTriple borneOut Value transport consumerCounters passes
      (Accounting borneOut (fun _ => True))
      (plainApplication transport Value consumerCounters).producerRound
      (fun _ => Accounting borneOut (fun _ => True)) := by
  have asks : ReportTriple borneOut Value transport consumerCounters passes
      (Accounting borneOut (fun _ => True)) (act .nextProducerRequest)
      (fun _ => Accounting borneOut (fun _ => True)) := by
    apply Contract.Triple.perform
    intro producer world before accounting _relied _holds _met
    exact ⟨trivial, fun _ _ _ _ => accounting.weaken id⟩
  apply Contract.Triple.bind asks
  intro request
  exact Contract.Triple.bind (serveProducer_recorded request) (fun reply => reply_accounts reply)

end Producer

/-! ### All of them -/

theorem consumer_unpublished {consumerId : ConsumerId} {self : Self}
    {action : Action (plain Value)} {world : World (plain Value)}
    (guaranteed : (Policy.unobserved (plainApplication transport Value consumerCounters)
      passes).consumerGuarantee consumerId self world action) :
    action.publishes = false := by
  cases action
  case storeProducerSequence => cases guaranteed
  case updateSlot => cases guaranteed
  all_goals rfl

abbrev reportingToo (transport : Transport) (Value : Type) (consumerCounters : ConsumerCounters)
    (passes : DirectoryPasses) :=
  (Policy.unobserved (plainApplication transport Value consumerCounters) passes).contract.both
    (reporting borneOut transport Value consumerCounters passes)

theorem start_reporting {slots : Nat → Value} {producer : Producer}
    {attached joining : List ConsumerId} (fresh : producer.Fresh transport)
    (known : producer.consumerBarrier.consumerCursors ⊆ attached)
    (unasked : ∀ state, producer.requiredConsumerLiveness = some state →
      ∃ config now, state = .new config now) :
    (reportingToo borneOut transport Value consumerCounters passes).Upheld
      ((plainApplication transport Value consumerCounters).start slots producer attached
        joining) := by
  apply (start_unobserved fresh known).both trivial
  intro party
  cases party with
  | producer =>
      refine .inr (fun fuel => ?_)
      have accounting : Accounting borneOut (fun _ => True) producer
          ((plainApplication transport Value consumerCounters).start slots producer attached
            joining).world := by
        refine ⟨trivial, fun state configured => ?_⟩
        obtain ⟨config, now, rfl⟩ := unasked state configured
        constructor
        · intro completed
          cases completed
        · exact fun _ => rfl
        · intro consumerId lastSequence stalledFor ended
          cases ended
      exact Contract.Triple.forever producerRound_accounts accounting fuel _
  | consumer consumerId =>
      exact .inl (fun _ _ _ _holds guaranteed => consumer_unpublished guaranteed)

end Ring
