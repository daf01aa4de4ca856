/-
Who is named when a managed publication is refused for good.

The policy looks at the required consumers one after the other, and at each of them on
its own. The first whose time is over is given up. It gates the producer where those that
are further behind come before it, and their time is over too.
-/

import Myelon.Ring.Frames
import Myelon.Ring.Shutdown

namespace Ring

open Interleaving

/-! ### A consumer that the policy gives up -/

namespace RequiredConsumerLivenessState

/-- The timeout is over since the last progress, and the grace period since the stall. -/
def OutOfPatience (config : RequiredConsumerLivenessConfig) (now : Nat)
    (progress : RequiredConsumerProgress) : Prop :=
  config.progressTimeout ≤ now - progress.lastProgressAt ∧
    config.shutdownGracePeriod ≤ now - progress.stallStartedAt.getD now

def PastDue (state : RequiredConsumerLivenessState) (now : Nat) (consumerId : ConsumerId)
    (sequence : Int) : Prop :=
  sequence ≤ (state.consumers consumerId).lastObservedSequence ∧
    OutOfPatience state.config now (state.consumers consumerId)

/-- A look at the consumer that finds its cursor there may be the last one. Without a
timeout and a grace period that is any look at which something is left to consume. -/
def GivesUp (state : RequiredConsumerLivenessState) (now : Nat) (producerSequence : Int)
    (consumerId : ConsumerId) (sequence : Int) : Prop :=
  consumerId ∈ state.config.requiredConsumerIds ∧ state.terminalError = none ∧
  state.shouldCheck now = true ∧ sequence < producerSequence ∧
  (state.PastDue now consumerId sequence ∨
    state.config.progressTimeout = 0 ∧ state.config.shutdownGracePeriod = 0)

section Decided

variable {config : RequiredConsumerLivenessConfig} {state : RequiredConsumerLivenessState}
variable {now : Nat} {consumerId : ConsumerId} {sequence producerSequence : Int}

instance (progress : RequiredConsumerProgress) : Decidable (OutOfPatience config now progress) :=
  inferInstanceAs (Decidable (_ ∧ _))

instance : Decidable (state.PastDue now consumerId sequence) :=
  inferInstanceAs (Decidable (_ ∧ _))

instance : Decidable (state.GivesUp now producerSequence consumerId sequence) :=
  inferInstanceAs (Decidable (_ ∧ _ ∧ _ ∧ _ ∧ (_ ∨ _)))

end Decided

theorem hasProgressed_unmoved {sequence producerSequence : Int}
    {progress : RequiredConsumerProgress}
    (unmoved : hasProgressed (some sequence) producerSequence progress = none) :
    sequence ≤ progress.lastObservedSequence ∧ sequence < producerSequence := by
  simp only [hasProgressed] at unmoved
  split at unmoved
  · cases unmoved
  · split at unmoved
    · cases unmoved
    · omega

/-- A consumer that moved is not overdue, or has nothing left to consume. -/
theorem hasProgressed_moved {sequence producerSequence highest : Int}
    {progress : RequiredConsumerProgress} (moved : hasProgressed (some sequence)
      producerSequence progress = some highest) :
    progress.lastObservedSequence < sequence ∨ producerSequence ≤ sequence := by
  simp only [hasProgressed] at moved
  split at moved
  · exact .inl (by omega)
  · split at moved
    · exact .inr (by omega)
    · cases moved

theorem hasProgressed_bounded {sequence producerSequence highest : Int}
    {progress : RequiredConsumerProgress} (moved : hasProgressed (some sequence)
      producerSequence progress = some highest) :
    highest = sequence ∨ highest = progress.lastObservedSequence := by
  simp only [hasProgressed] at moved
  split at moved
  · exact .inl (Option.some.inj moved).symm
  · split at moved
    · exact .inr (Option.some.inj moved).symm
    · cases moved

def Continues (now : Nat) (before after : RequiredConsumerProgress) : Prop :=
  after.lastProgressAt = now ∧ after.stallStartedAt.getD now = now ∨
    after.lastProgressAt = before.lastProgressAt ∧
      after.lastObservedSequence = before.lastObservedSequence ∧
      after.stallStartedAt.getD now = before.stallStartedAt.getD now

theorem Continues.outOfPatience {config : RequiredConsumerLivenessConfig} {now : Nat}
    {before after : RequiredConsumerProgress} (continues : Continues now before after)
    (expired : OutOfPatience config now after) {sequence : Int}
    (unmoved : sequence ≤ after.lastObservedSequence) :
    sequence ≤ before.lastObservedSequence ∧ OutOfPatience config now before ∨
      config.progressTimeout = 0 ∧ config.shutdownGracePeriod = 0 := by
  obtain ⟨stalled, graced⟩ := expired
  rcases continues with ⟨since, stall⟩ | ⟨since, observed, stall⟩
  · rw [since] at stalled
    rw [stall] at graced
    exact .inr ⟨by omega, by omega⟩
  · rw [since] at stalled
    rw [stall] at graced
    rw [observed] at unmoved
    exact .inl ⟨unmoved, stalled, graced⟩

end RequiredConsumerLivenessState

open RequiredConsumerLivenessState

/-! ### What the consumers do to the producer -/

variable {transport : Transport} {Value : Type} {passes : DirectoryPasses}
variable {consumerCounters : ConsumerCounters}

namespace World

variable {interface : Interface}

def Hindmost (world : World interface) (sequence : Int) : Prop :=
  ∀ other ∈ world.discovered, sequence ≤ world.consumerSequence other

structure Since (before after : World interface) : Prop where
  discovered : after.discovered = before.discovered
  producerSequence : after.producerSequence = before.producerSequence
  written : before.written.length ≤ after.written.length
  consumers : before.consumers ⊆ after.consumers
  initialised : ∀ consumerId ∈ before.consumers, consumerId ∉ before.uninitialised →
    consumerId ∉ after.uninitialised
  consumerSequence : ∀ consumerId,
    before.consumerSequence consumerId ≤ after.consumerSequence consumerId

theorem Since.of_eq {before after : World interface}
    (discovered : after.discovered = before.discovered)
    (producerSequence : after.producerSequence = before.producerSequence)
    (written : before.written.length ≤ after.written.length)
    (consumers : after.consumers = before.consumers)
    (uninitialised : after.uninitialised = before.uninitialised)
    (consumerSequence : after.consumerSequence = before.consumerSequence) :
    before.Since after where
  discovered := discovered
  producerSequence := producerSequence
  written := written
  consumers := by rw [consumers]; exact List.Subset.refl _
  initialised := by rw [uninitialised]; exact fun _ _ absent => absent
  consumerSequence := by rw [consumerSequence]; exact fun _ => Int.le_refl _

theorem Since.refl (world : World interface) : world.Since world :=
  .of_eq rfl rfl (Nat.le_refl _) rfl rfl rfl

theorem Since.trans {first second third : World interface} (left : first.Since second)
    (right : second.Since third) : first.Since third where
  discovered := right.discovered.trans left.discovered
  producerSequence := right.producerSequence.trans left.producerSequence
  written := Nat.le_trans left.written right.written
  consumers := List.Subset.trans left.consumers right.consumers
  initialised := fun consumerId member initialised => right.initialised consumerId
    (left.consumers member) (left.initialised consumerId member initialised)
  consumerSequence := fun consumerId =>
    Int.le_trans (left.consumerSequence consumerId) (right.consumerSequence consumerId)

theorem Hindmost.since {before after : World interface} {sequence : Int}
    (hindmost : before.Hindmost sequence) (since : before.Since after) :
    after.Hindmost sequence := by
  intro other found
  rw [since.discovered] at found
  exact Int.le_trans (hindmost other found) (since.consumerSequence other)

structure Meanwhile (before after : World interface) : Prop extends Since before after where
  clock : after.clock = before.clock

end World

def Action.raises {interface : Interface} (world : World interface) : Action interface → Prop
  | .storeConsumerSequence consumerId sequence => world.consumerSequence consumerId ≤ sequence
  | .attachConsumerSequence _ => False
  | .storeProducerSequence _ => False
  | .instantNow => False
  | _ => True

theorem perform_clock {interface : Interface} {action : Action interface}
    {oracle : Oracle interface} {before after : World interface} {result : action.Result}
    (timeless : action ≠ .instantNow)
    (performed : perform passes action oracle before = some (result, after)) :
    after.clock = before.clock := by
  cases action
  case instantNow => exact absurd rfl timeless
  case loadConsumerSequence consumerId =>
    simp only [perform] at performed
    split at performed <;> cases performed
    rfl
  case attachConsumerSequence consumerId =>
    simp only [perform] at performed
    split at performed <;> cases performed <;> rfl
  case newOrAttachConsumerSequence consumerId =>
    simp only [perform] at performed
    split at performed <;> cases performed <;> rfl
  case updateSlot sequence slot update =>
    simp only [perform] at performed
    split at performed <;> cases performed
    rfl
  case iterate keys =>
    cases oracle <;> simp only [perform] at performed
    case order permuted =>
      split at performed <;> cases performed
      rfl
    all_goals cases performed
  case readDirectory =>
    cases oracle <;> simp only [perform] at performed
    case directory entries =>
      split at performed <;> cases performed
      rfl
    all_goals cases performed
  all_goals first
    | (cases performed; rfl)
    | (cases oracle <;> cases performed <;> rfl)

theorem perform_quiet_since {interface : Interface} {action : Action interface}
    {oracle : Oracle interface} {before after : World interface} {result : action.Result}
    (quiet : action.quiet = true)
    (performed : perform passes action oracle before = some (result, after)) :
    before.Since after := by
  have same := perform_quiet quiet performed
  exact .of_eq same.discovered same.producerSequence (by rw [same.written]) same.consumers
    same.uninitialised same.consumerSequence

theorem perform_raises {interface : Interface} {action : Action interface}
    {oracle : Oracle interface} {before after : World interface} {result : action.Result}
    (raises : action.raises before)
    (performed : perform passes action oracle before = some (result, after)) :
    before.Meanwhile after := by
  have timeless : action ≠ .instantNow := by
    rintro rfl
    exact raises
  refine ⟨?_, perform_clock timeless performed⟩
  by_cases quiet : action.quiet = true
  · exact perform_quiet_since quiet performed
  cases action
  case storeConsumerSequence consumerId sequence =>
    cases performed
    refine { World.Since.refl before with consumerSequence := fun other => ?_ }
    by_cases same : other = consumerId
    · subst same
      simp only [Function.update_self]
      exact raises
    · simp only [Function.update_of_ne same, Int.le_refl]
  case attachConsumerSequence => exact raises.elim
  case storeProducerSequence => exact raises.elim
  case updateSlot sequence slot update =>
    simp only [perform] at performed
    split at performed <;> cases performed
    exact .of_eq rfl rfl (by simp) rfl rfl rfl
  case newOrAttachConsumerSequence consumerId =>
    simp only [perform] at performed
    split at performed
    · cases performed
      exact .refl before
    · rename_i absent
      cases performed
      refine { World.Since.refl before with
        consumers := List.subset_cons_self _ _
        initialised := fun other member initialised fresh => ?_ }
      rcases List.mem_cons.mp fresh with rfl | before
      · exact absent member
      · exact initialised before
  case initialiseConsumerSequence consumerId =>
    cases performed
    exact { World.Since.refl before with
      initialised := fun other _member initialised fresh =>
        initialised (List.mem_filter.mp fresh).1 }
  case refused => cases oracle <;> cases performed
  all_goals first
    | exact absurd rfl quiet
    | (cases performed; exact .of_eq rfl rfl (Nat.le_refl _) rfl rfl rfl)

/-! ### The contract -/

def GivenUp (producer : Producer) : Prop :=
  ∃ state ∈ producer.requiredConsumerLiveness, state.terminalError.isSome = true

def ProducerReply.givenUp : ProducerReply → Option (ConsumerId × Int)
  | .managed (.error (.gracefulShutdownTriggered consumerId lastSequence _)) =>
      some (consumerId, lastSequence)
  | _ => none

/-- Whoever is further behind than a consumer that a look may give up is itself overdue,
and comes before it in the configuration. The producer looks at no cursor that has not got
its initial value. Whoever it finds after a consumer was given up has consumed everything,
and that consumer commits nothing until the shutdown is returned. -/
def LaggardsFirst :
    Party → Self → Action (plain Value) → World (plain Value) → Prop
  | .producer, .producer producer, .loadConsumerSequence consumerId, world =>
      ∀ state ∈ producer.requiredConsumerLiveness,
        consumerId ∈ state.config.requiredConsumerIds →
        consumerId ∉ world.uninitialised ∧
        (state.GivesUp world.clock world.producerSequence consumerId
            (world.consumerSequence consumerId) →
          ∀ other ∈ world.discovered,
            world.consumerSequence other < world.consumerSequence consumerId →
            other ∈ state.config.requiredConsumerIds.takeWhile (· ≠ consumerId) ∧
            state.PastDue world.clock other (world.consumerSequence other))
  | .producer, .producer producer, .attachConsumerSequence other, world =>
      other ∈ world.consumers → GivenUp producer →
        (world.written.length : Int) ≤ world.consumerSequence other + 1
  | .producer, .producer _, .reply reply, world =>
      ∀ given ∈ reply.givenUp, world.consumerSequence given.1 ≤ given.2
  | _, _, _, _ => True

instance (producer : Producer) : Decidable (GivenUp producer) :=
  inferInstanceAs (Decidable (∃ state ∈ producer.requiredConsumerLiveness, _))

instance (party : Party) (self : Self) (action : Action (plain Value))
    (world : World (plain Value)) : Decidable (LaggardsFirst party self action world) := by
  match party, self with
  | .consumer _, _ => exact .isTrue trivial
  | .producer, .consumer _ => exact .isTrue trivial
  | .producer, .attaching _ => exact .isTrue trivial
  | .producer, .producer producer =>
      apply Action.casesOn (motive := fun action =>
        Decidable (LaggardsFirst .producer (.producer producer) action world)) action
      case loadConsumerSequence =>
        exact fun _ => (inferInstance : Decidable (∀ state ∈ producer.requiredConsumerLiveness,
          _ → _ ∧ (_ → ∀ other ∈ world.discovered, _ → _ ∧ _)))
      case attachConsumerSequence => exact fun _ => (inferInstance : Decidable (_ → _ → _ ≤ _))
      case reply => exact fun reply => (inferInstance : Decidable (∀ given ∈ reply.givenUp, _))
      all_goals
        intros
        exact .isTrue trivial

/-- The producer knows the consumer, whose cursor has got its initial value, and none is
behind the sequence. -/
structure Blamed (consumerId : ConsumerId) (lastSequence : Int) (producer : Producer)
    (world : World (plain Value)) : Prop where
  known : consumerId ∈ producer.consumerBarrier.consumerCursors
  attached : consumerId ∈ world.consumers
  initialised : consumerId ∉ world.uninitialised
  written : lastSequence < world.written.length
  hindmost : world.Hindmost lastSequence

/-- A graceful shutdown names a consumer that is blamed. -/
def Names {β : Type} (result : Except RequiredConsumerError β) (producer : Producer)
    (world : World (plain Value)) : Prop :=
  ∀ consumerId lastSequence stalledFor,
    result = .error (.gracefulShutdownTriggered consumerId lastSequence stalledFor) →
    Blamed consumerId lastSequence producer world

def BlamesRightly (reply : ProducerReply) (producer : Producer)
    (world : World (plain Value)) : Prop :=
  ∀ result, reply = .managed result → Names result producer world

def blamingGuarantee (self : Self) (world : World (plain Value)) : Action (plain Value) → Prop
  | .reply reply => ∃ producer, self = .producer producer ∧ BlamesRightly reply producer world
  | _ => True

def blaming (transport : Transport) (Value : Type) (consumerCounters : ConsumerCounters)
    (passes : DirectoryPasses) :
    Contract ((plainApplication transport Value consumerCounters).machine passes) where
  condition := fun party self action world => LaggardsFirst party self action world ∧
    world.producerSequence + 1 ≤ world.written.length
  guarantee := fun party self action world => match party with
    | .producer => blamingGuarantee self world action
    | .consumer _ => action.raises world
  invariant := fun _ => True
  rely := fun party before after => match party with
    | .producer => before.Meanwhile after
    | .consumer _ => True
  relyRefl := by
    intro party world
    cases party with
    | producer => exact ⟨.refl world, rfl⟩
    | consumer consumerId => trivial
  relyTrans := by
    intro party first second third left right
    cases party with
    | producer => exact ⟨left.toSince.trans right.toSince, right.clock.trans left.clock⟩
    | consumer consumerId => trivial
  performed := by
    intro party self action oracle before result after holds _met guaranteed performed
    cases party with
    | producer =>
        refine ⟨trivial, fun other different => ?_⟩
        cases other with
        | producer => exact absurd rfl different
        | consumer consumerId => trivial
    | consumer consumerId =>
        refine ⟨trivial, fun other _different => ?_⟩
        cases other with
        | producer => exact perform_raises guaranteed performed
        | consumer otherId => trivial
  restarted := by
    intro party before program after holds restarted
    cases party with
    | producer => cases restarted
    | consumer consumerId =>
        simp only [Application.machine] at restarted
        split at restarted
        · cases restarted
          refine ⟨holds, fun other _different => ?_⟩
          cases other with
          | producer => exact ⟨.of_eq rfl rfl (Nat.le_refl _) rfl rfl rfl, rfl⟩
          | consumer otherId => trivial
        · cases restarted

/-! ### What the producer keeps -/

/-- The progress table is behind the cursors, the required consumers are known from the
startup on, and the one that was given up is blamed. -/
structure Supervises (state : RequiredConsumerLivenessState) (producer : Producer)
    (world : World (plain Value)) : Prop where
  observed : ∀ consumerId,
    (state.consumers consumerId).lastObservedSequence ≤ world.consumerSequence consumerId
  known : state.hasCompletedStartup = true →
    state.config.requiredConsumerIds ⊆ producer.consumerBarrier.consumerCursors
  blamed : ∀ consumerId lastSequence stalledFor,
    state.terminalError =
      some (.gracefulShutdownTriggered consumerId lastSequence stalledFor) →
    Blamed consumerId lastSequence producer world

structure Supervising (meets : Option RequiredConsumerLivenessState → Prop)
    (found : List ConsumerId) (producer : Producer) (world : World (plain Value)) : Prop where
  meets : meets producer.requiredConsumerLiveness
  found : found ⊆ producer.consumerBarrier.consumerCursors
  supervises : ∀ state, producer.requiredConsumerLiveness = some state →
    Supervises state producer world

section Producer

variable {meets : Option RequiredConsumerLivenessState → Prop} {found : List ConsumerId}
variable {α : Type}
variable {state : RequiredConsumerLivenessState}

abbrev BlameTriple (Value : Type) (transport : Transport) (consumerCounters : ConsumerCounters)
    (passes : DirectoryPasses) (pre : Producer → World (plain Value) → Prop)
    (routine : ProducerProcess (plain Value) α)
    (post : α → Producer → World (plain Value) → Prop) : Prop :=
  FrameTriple (blaming transport Value consumerCounters passes) pre routine post

theorem Blamed.since {consumerId : ConsumerId} {lastSequence : Int} {producer : Producer}
    {before after : World (plain Value)} (blamed : Blamed consumerId lastSequence producer before)
    (since : before.Since after) : Blamed consumerId lastSequence producer after where
  known := blamed.known
  attached := since.consumers blamed.attached
  initialised := since.initialised consumerId blamed.attached blamed.initialised
  written := Int.lt_of_lt_of_le blamed.written (Int.ofNat_le.mpr since.written)
  hindmost := blamed.hindmost.since since

theorem Supervises.since {producer : Producer} {before after : World (plain Value)}
    (supervises : Supervises state producer before) (since : before.Since after) :
    Supervises state producer after where
  observed := fun consumerId =>
    Int.le_trans (supervises.observed consumerId) (since.consumerSequence consumerId)
  known := supervises.known
  blamed := fun consumerId lastSequence stalledFor ended =>
    (supervises.blamed consumerId lastSequence stalledFor ended).since since

theorem Supervises.grows {producer other : Producer} {world : World (plain Value)}
    (supervises : Supervises state producer world)
    (grows : producer.consumerBarrier.consumerCursors ⊆ other.consumerBarrier.consumerCursors) :
    Supervises state other world where
  observed := supervises.observed
  known := fun completed => List.Subset.trans (supervises.known completed) grows
  blamed := fun consumerId lastSequence stalledFor ended =>
    have blamed := supervises.blamed consumerId lastSequence stalledFor ended
    { blamed with known := grows blamed.known }

theorem Supervising.since {producer : Producer} {before after : World (plain Value)}
    (supervising : Supervising meets found producer before) (since : before.Since after) :
    Supervising meets found producer after :=
  ⟨supervising.meets, supervising.found,
    fun state configured => (supervising.supervises state configured).since since⟩

theorem Supervising.grows {producer other : Producer} {world : World (plain Value)}
    (supervising : Supervising meets found producer world)
    (same : other.requiredConsumerLiveness = producer.requiredConsumerLiveness)
    (grows : producer.consumerBarrier.consumerCursors ⊆ other.consumerBarrier.consumerCursors) :
    Supervising meets found other world where
  meets := by
    rw [same]
    exact supervising.meets
  found := List.Subset.trans supervising.found grows
  supervises := by
    rw [same]
    exact fun state configured => (supervising.supervises state configured).grows grows

theorem Supervising.eased {producer : Producer} {world : World (plain Value)}
    (supervising : Supervising meets found producer world) :
    Supervising (fun _ => True) [] producer world :=
  ⟨trivial, List.nil_subset _, supervising.supervises⟩

theorem Supervising.finds {producer : Producer} {world : World (plain Value)}
    (supervising : Supervising meets found producer world) {attached : ConsumerId}
    (ahead : GivenUp producer →
      (world.written.length : Int) ≤ world.consumerSequence attached + 1) :
    Supervising meets found producer
      { world with discovered := attached :: world.discovered } := by
  refine ⟨supervising.meets, supervising.found, fun state configured => ?_⟩
  have supervises := supervising.supervises state configured
  refine ⟨supervises.observed, supervises.known, ?_⟩
  intro consumerId lastSequence stalledFor ended
  have blamed := supervises.blamed consumerId lastSequence stalledFor ended
  have given : GivenUp producer := ⟨state, configured, by rw [ended]; rfl⟩
  refine { blamed with hindmost := fun other member => ?_ }
  rcases List.mem_cons.mp member with rfl | before
  · have consumed := ahead given
    have written := blamed.written
    change lastSequence ≤ world.consumerSequence other
    omega
  · exact blamed.hindmost other before

theorem blaming_allows {self : Self} {action : Action (plain Value)} {world : World (plain Value)}
    (looks : action.looks = true ∨ action.publishes = true) :
    (blaming transport Value consumerCounters passes).guarantee .producer self action world := by
  cases action
  case reply reply => rcases looks with impossible | impossible <;> cases impossible
  all_goals trivial

theorem supervising_reserving :
    Reserving (blaming transport Value consumerCounters passes) (Supervising meets found) where
  looking :=
    { lasting :=
        { stable := fun _ _ _ relied supervising => supervising.since relied.toSince
          allowed := fun _ _ _ looks => blaming_allows (.inl looks)
          performed := by
            intro producer action oracle before result after looks met performed supervising
            by_cases quiet : action.quiet = true
            · exact supervising.since (perform_quiet_since quiet performed)
            cases action
            case attachConsumerSequence attached =>
              simp only [perform] at performed
              split at performed
              · rename_i present
                cases performed
                exact supervising.finds (met.1 present)
              · cases performed
                exact supervising
            all_goals first
              | exact absurd rfl quiet
              | cases looks }
      barrier := by
        intro producer world barrier grows supervising
        exact supervising.grows rfl grows }
  clearance := by
    intro producer world cleared supervising
    exact supervising.grows rfl (List.Subset.refl _)

theorem supervising_looking :
    Looking (blaming transport Value consumerCounters passes) (Supervising meets found) :=
  supervising_reserving.looking

theorem supervising_publishing :
    Publishing (blaming transport Value consumerCounters passes) (Supervising meets found) where
  reserving := supervising_reserving
  allowed := fun _ _ _ publishes _ => blaming_allows (.inr publishes)
  published := by
    intro producer action oracle before result after publishes performed supervising
    cases action
    case updateSlot sequence slot update =>
      simp only [perform] at performed
      split at performed <;> cases performed
      exact supervising.since (.of_eq rfl rfl (by simp) rfl rfl rfl)
    case storeProducerSequence sequence =>
      cases performed
      refine ⟨supervising.meets, supervising.found, fun state configured => ?_⟩
      have supervises := supervising.supervises state configured
      refine ⟨supervises.observed, supervises.known, ?_⟩
      intro consumerId lastSequence stalledFor ended
      have blamed := supervises.blamed consumerId lastSequence stalledFor ended
      exact ⟨blamed.known, blamed.attached, blamed.initialised, blamed.written,
        blamed.hindmost⟩
    all_goals cases publishes
  counts := by
    apply Contract.Triple.perform
    intro producer world before supervising relied _holds _met
    refine ⟨trivial, fun oracle result after performed => ?_⟩
    cases performed
    exact (supervising.since relied.toSince).since (.of_eq rfl rfl (Nat.le_refl _) rfl rfl rfl)
  sequence := by
    intro producer world next supervising
    exact supervising.grows rfl (List.Subset.refl _)

/-! ### A look at a consumer -/

variable {pre : Producer → World (plain Value) → Prop} {ids : List ConsumerId}

theorem meanwhile_act (lasts : ∀ producer before after, before.Meanwhile after →
      pre producer before → pre producer after) {action : Action (plain Value)}
    (quiet : action.quiet = true) (timeless : action ≠ .instantNow)
    (allowed : ∀ self world, (blaming transport Value consumerCounters passes).guarantee .producer
      self action world) :
    Leaves (blaming transport Value consumerCounters passes) pre (act action) := by
  apply Contract.Triple.perform
  intro producer world before held relied _holds _met
  refine ⟨allowed _ _, fun oracle result after performed => ?_⟩
  have meanwhile : before.Meanwhile after :=
    ⟨perform_quiet_since quiet performed, perform_clock timeless performed⟩
  exact lasts producer before after meanwhile (lasts producer world before relied held)

structure LookedAt (consumerId : ConsumerId) (sequence : Int) (producer : Producer)
    (world : World (plain Value)) : Prop where
  here : world.consumerSequence consumerId = sequence
  attached : consumerId ∈ world.consumers
  initialised : consumerId ∉ world.uninitialised
  written : world.producerSequence + 1 ≤ world.written.length
  laggards : ∀ state, producer.requiredConsumerLiveness = some state →
    state.GivesUp world.clock world.producerSequence consumerId sequence →
    ∀ other ∈ world.discovered, world.consumerSequence other < sequence →
      other ∈ state.config.requiredConsumerIds.takeWhile (· ≠ consumerId) ∧
      state.PastDue world.clock other (world.consumerSequence other)

def Requires (ids : List ConsumerId) (producer : Producer) : Prop :=
  ids ⊆ producer.consumerBarrier.consumerCursors ∧
    ∃ state, producer.requiredConsumerLiveness = some state ∧
      ids ⊆ state.config.requiredConsumerIds

theorem consumerSequence_looks (lasts : ∀ producer before after, before.Meanwhile after →
      pre producer before → pre producer after)
    (requires : ∀ producer world, pre producer world → Requires ids producer)
    {consumerId : ConsumerId} (member : consumerId ∈ ids) :
    BlameTriple Value transport consumerCounters passes pre
      (ConsumerBarrier.consumerSequence consumerId)
      (fun observed producer world => ∃ sequence, observed = some sequence ∧
        LookedAt consumerId sequence producer world ∧ pre producer world) := by
  have present : BlameTriple Value transport consumerCounters passes pre
      (ConsumerBarrier.discoverConsumerId consumerId)
      (fun present producer world => present = true ∧ pre producer world) := by
    apply Contract.Triple.bind Leaves.seen
    intro barrier
    split
    · exact Contract.Triple.pure _ (fun _ _ held => ⟨rfl, held.2⟩)
    · rename_i absent
      apply Contract.Triple.given False
      · rintro producer world ⟨rfl, held⟩
        exact absent ((requires producer world held).1 member)
      · exact False.elim
  have loads : BlameTriple Value transport consumerCounters passes pre
      (act (.loadConsumerSequence consumerId))
      (fun (sequence : Int) producer world =>
        LookedAt consumerId sequence producer world ∧ pre producer world) := by
    apply Contract.Triple.perform
    rintro producer world before held relied _holds ⟨met, written⟩
    have kept := lasts producer world before relied held
    obtain ⟨_known, state, configured, required⟩ := requires producer before kept
    have initialised := (met state configured (required member)).1
    refine ⟨blaming_allows (.inl rfl), fun oracle result after performed => ?_⟩
    simp only [Application.machine, perform] at performed
    split at performed <;> cases performed
    rename_i attached
    simp only [World.cursor, if_neg initialised]
    refine ⟨⟨rfl, attached, initialised, written, ?_⟩, kept⟩
    intro other watched givesUp
    exact (met other watched givesUp.1).2 givesUp
  apply Contract.Triple.bind present
  intro found
  apply Contract.Triple.given (found = true) (fun _ _ held => held.1)
  rintro rfl
  rw [if_pos rfl]
  apply Contract.Triple.bind (loads.strengthen (fun _ _ held => held.2))
  intro sequence
  exact Contract.Triple.pure _ (fun _ _ held => ⟨sequence, rfl, held⟩)

/-! ### An evaluation -/

structure Derived (state now : RequiredConsumerLivenessState) (clock : Nat) : Prop where
  config : now.config = state.config
  hasCompletedStartup : now.hasCompletedStartup = state.hasCompletedStartup
  unrecorded : now.terminalError = none
  continues : ∀ consumerId,
    Continues clock (state.consumers consumerId) (now.consumers consumerId)

/-- The producer evaluates its state, and has come to another. None of the consumers it is
past is overdue and has something left to consume, and it has touched no other. -/
structure Evaluating (state now : RequiredConsumerLivenessState) (clock : Nat)
    (producerSequence : Int) (seen : List ConsumerId) (producer : Producer)
    (world : World (plain Value)) : Prop where
  configured : producer.requiredConsumerLiveness = some state
  known : state.config.requiredConsumerIds ⊆ producer.consumerBarrier.consumerCursors
  instant : world.clock = clock
  published : world.producerSequence = producerSequence
  observed : ∀ consumerId,
    (now.consumers consumerId).lastObservedSequence ≤ world.consumerSequence consumerId
  cleared : ∀ consumerId ∈ seen, world.consumerSequence consumerId < producerSequence →
    ¬ state.PastDue clock consumerId (world.consumerSequence consumerId)
  untouched : ∀ consumerId ∉ seen, now.consumers consumerId = state.consumers consumerId

variable {now : RequiredConsumerLivenessState} {clock : Nat} {producerSequence : Int}
variable {seen : List ConsumerId}

theorem Evaluating.requires {producer : Producer} {world : World (plain Value)}
    (evaluating : Evaluating state now clock producerSequence seen producer world) :
    Requires state.config.requiredConsumerIds producer :=
  ⟨evaluating.known, state, evaluating.configured, List.Subset.refl _⟩

theorem Evaluating.since {producer : Producer} {before after : World (plain Value)}
    (evaluating : Evaluating state now clock producerSequence seen producer before)
    (meanwhile : before.Meanwhile after) :
    Evaluating state now clock producerSequence seen producer after where
  configured := evaluating.configured
  known := evaluating.known
  instant := meanwhile.clock.trans evaluating.instant
  published := meanwhile.producerSequence.trans evaluating.published
  observed := fun consumerId =>
    Int.le_trans (evaluating.observed consumerId) (meanwhile.consumerSequence consumerId)
  cleared := by
    intro consumerId member behind overdue
    have further := meanwhile.consumerSequence consumerId
    exact evaluating.cleared consumerId member (Int.lt_of_le_of_lt further behind)
      ⟨Int.le_trans further overdue.1, overdue.2⟩
  untouched := evaluating.untouched

theorem Evaluating.observed_noted {producer : Producer} {world : World (plain Value)}
    (evaluating : Evaluating state now clock producerSequence seen producer world)
    {consumerId : ConsumerId} {progress : RequiredConsumerProgress}
    (behind : progress.lastObservedSequence ≤ world.consumerSequence consumerId)
    (other : ConsumerId) :
    ((now.withProgress consumerId progress).consumers other).lastObservedSequence ≤
      world.consumerSequence other := by
  by_cases same : other = consumerId
  · subst same
    simp only [withProgress, Function.update_self]
    exact behind
  · simp only [withProgress, Function.update_of_ne same]
    exact evaluating.observed other

theorem Evaluating.notes {producer : Producer} {world : World (plain Value)}
    (evaluating : Evaluating state now clock producerSequence seen producer world)
    {consumerId : ConsumerId} {progress : RequiredConsumerProgress} (member : consumerId ∈ seen)
    (behind : progress.lastObservedSequence ≤ world.consumerSequence consumerId) :
    Evaluating state (now.withProgress consumerId progress) clock producerSequence seen
      producer world where
  configured := evaluating.configured
  known := evaluating.known
  instant := evaluating.instant
  published := evaluating.published
  observed := evaluating.observed_noted behind
  cleared := evaluating.cleared
  untouched := by
    intro other absent
    have different : other ≠ consumerId := fun same => absent (same ▸ member)
    simp only [withProgress, Function.update_of_ne different]
    exact evaluating.untouched other absent

theorem Derived.notes (derived : Derived state now clock) {consumerId : ConsumerId}
    {progress : RequiredConsumerProgress}
    (continues : Continues clock (state.consumers consumerId) progress) :
    Derived state (now.withProgress consumerId progress) clock where
  config := derived.config
  hasCompletedStartup := derived.hasCompletedStartup
  unrecorded := derived.unrecorded
  continues := by
    intro other
    by_cases same : other = consumerId
    · subst same
      simp only [withProgress, Function.update_self]
      exact continues
    · simp only [withProgress, Function.update_of_ne same]
      exact derived.continues other

theorem Evaluating.sees {producer : Producer} {world : World (plain Value)}
    (evaluating : Evaluating state now clock producerSequence seen producer world)
    {consumerId : ConsumerId}
    (spared : now.consumers consumerId = state.consumers consumerId →
      world.consumerSequence consumerId < producerSequence →
      ¬ state.PastDue clock consumerId (world.consumerSequence consumerId)) :
    Evaluating state now clock producerSequence (seen ++ [consumerId]) producer world := by
  refine { evaluating with cleared := fun other member => ?_, untouched := fun other absent => ?_ }
  · rcases List.mem_append.mp member with earlier | last
    · exact evaluating.cleared other earlier
    · cases List.mem_singleton.mp last
      by_cases before : consumerId ∈ seen
      · exact evaluating.cleared consumerId before
      · exact spared (evaluating.untouched consumerId before)
  · exact evaluating.untouched other (fun member => absent (List.mem_append_left _ member))

theorem Evaluating.sees_moved {producer : Producer} {world : World (plain Value)}
    (evaluating : Evaluating state now clock producerSequence seen producer world)
    {consumerId : ConsumerId} {sequence highest : Int}
    (looked : LookedAt consumerId sequence producer world)
    (moved : hasProgressed (some sequence) producerSequence (now.consumers consumerId) =
      some highest) :
    Evaluating state now clock producerSequence (seen ++ [consumerId]) producer world := by
  apply evaluating.sees
  intro untouched behind overdue
  rw [looked.here] at behind overdue
  rw [untouched] at moved
  have still := overdue.1
  rcases hasProgressed_moved moved with further | all <;> omega

theorem Evaluating.sees_patient {producer : Producer} {world : World (plain Value)}
    (evaluating : Evaluating state now clock producerSequence seen producer world)
    (derived : Derived state now clock) {consumerId : ConsumerId}
    (patient : ¬ OutOfPatience now.config clock (now.consumers consumerId)) :
    Evaluating state now clock producerSequence (seen ++ [consumerId]) producer world := by
  apply evaluating.sees
  intro untouched _behind overdue
  rw [untouched, derived.config] at patient
  exact patient overdue.2

theorem takeWhile_before {consumerId other : ConsumerId} {before after : List ConsumerId}
    (member : other ∈ (before ++ consumerId :: after).takeWhile (· ≠ consumerId)) :
    other ∈ before := by
  induction before with
  | nil => simp at member
  | cons first rest ih =>
      rw [List.cons_append, List.takeWhile_cons] at member
      split at member
      · rcases List.mem_cons.mp member with rfl | later
        · exact List.mem_cons_self
        · exact List.mem_cons_of_mem first (ih later)
      · cases member

/-- A consumer whose patience is over is blamed: whoever were further behind would have been
given up before. -/
theorem Evaluating.blames {producer : Producer} {world : World (plain Value)}
    (evaluating : Evaluating state now clock producerSequence seen producer world)
    (derived : Derived state now clock) (unrecorded : state.terminalError = none)
    (due : state.shouldCheck clock = true) {consumerId : ConsumerId} {rest : List ConsumerId}
    (required : state.config.requiredConsumerIds = seen ++ consumerId :: rest) {sequence : Int}
    (looked : LookedAt consumerId sequence producer world)
    (unmoved : hasProgressed (some sequence) producerSequence (now.consumers consumerId) = none)
    (expired : OutOfPatience now.config clock (now.consumers consumerId)) :
    Blamed consumerId (now.consumers consumerId).lastObservedSequence producer world := by
  have member : consumerId ∈ state.config.requiredConsumerIds := by
    rw [required]
    exact List.mem_append_right _ List.mem_cons_self
  obtain ⟨still, behind⟩ := hasProgressed_unmoved unmoved
  have observed := evaluating.observed consumerId
  rw [looked.here] at observed
  have exactly : (now.consumers consumerId).lastObservedSequence = sequence := by omega
  have givesUp : state.GivesUp world.clock world.producerSequence consumerId sequence := by
    rw [evaluating.instant, evaluating.published]
    rw [derived.config] at expired
    exact ⟨member, unrecorded, due, behind,
      (derived.continues consumerId).outOfPatience expired still⟩
  have written := looked.written
  have published := evaluating.published
  rw [exactly]
  refine ⟨evaluating.known member, looked.attached, looked.initialised, by omega, ?_⟩
  intro other found
  by_contra further
  obtain ⟨before, overdue⟩ := looked.laggards state evaluating.configured givesUp other found
    (Int.lt_of_not_ge further)
  rw [required] at before
  rw [evaluating.instant] at overdue
  exact evaluating.cleared other (takeWhile_before before) (by omega) overdue

def Evaluated (state : RequiredConsumerLivenessState)
    (result : Option RequiredConsumerError × RequiredConsumerLivenessState)
    (producer : Producer) (world : World (plain Value)) : Prop :=
  Looking.EvaluatedFrom state result ∧ Supervises result.2 producer world

theorem Evaluating.passed {producer : Producer} {world : World (plain Value)}
    (evaluating : Evaluating state now clock producerSequence seen producer world)
    (derived : Derived state now clock) : Evaluated state (none, now) producer world := by
  refine ⟨⟨derived.hasCompletedStartup, nofun⟩, evaluating.observed, ?_, ?_⟩
  · intro _completed
    change now.config.requiredConsumerIds ⊆ _
    rw [derived.config]
    exact evaluating.known
  · intro consumerId lastSequence stalledFor impossible
    have none := derived.unrecorded
    rw [none] at impossible
    cases impossible

def Condemned (state now : RequiredConsumerLivenessState) (clock : Nat) (producerSequence : Int)
    (seen : List ConsumerId) (consumerId : ConsumerId) (producer : Producer)
    (world : World (plain Value)) : Prop :=
  (OutOfPatience now.config clock (now.consumers consumerId) →
    Blamed consumerId (now.consumers consumerId).lastObservedSequence producer world) ∧
  Evaluating state now clock producerSequence seen producer world

theorem emitAlert_condemns {consumerId : ConsumerId} (config : RequiredConsumerLivenessConfig)
    (progress : RequiredConsumerProgress) (alert : RequiredConsumerAlert) :
    Leaves (blaming transport Value consumerCounters passes)
      (Condemned state now clock producerSequence seen consumerId)
      (emitAlert (fun alert => act (.alert alert)) config progress alert) := by
  unfold RequiredConsumerLivenessState.emitAlert
  cases !progress.alertEmitted && config.alertHook with
  | true =>
      apply meanwhile_act
      · rintro producer before after meanwhile ⟨blamed, evaluating⟩
        exact ⟨fun expired => (blamed expired).since meanwhile.toSince,
          evaluating.since meanwhile⟩
      · rfl
      · exact nofun
      · exact fun _ _ => trivial
  | false => exact Leaves.pure ()

theorem evaluateConsumers_blames (unrecorded : state.terminalError = none)
    (due : state.shouldCheck clock = true) (consumerIds : List ConsumerId)
    (required : state.config.requiredConsumerIds = seen ++ consumerIds)
    (derived : Derived state now clock) :
    BlameTriple Value transport consumerCounters passes
      (Evaluating state now clock producerSequence seen)
      (evaluateConsumers ConsumerBarrier.consumerSequence (fun alert => act (.alert alert)) clock
        producerSequence consumerIds now)
      (Evaluated state) := by
  induction consumerIds generalizing now seen with
  | nil => exact Contract.Triple.pure _ (fun _ _ evaluating => evaluating.passed derived)
  | cons consumerId rest ih =>
      have here : consumerId ∈ state.config.requiredConsumerIds := by
        rw [required]
        exact List.mem_append_right _ List.mem_cons_self
      have later : state.config.requiredConsumerIds = (seen ++ [consumerId]) ++ rest := by
        rw [required, List.append_assoc, List.singleton_append]
      apply Contract.Triple.bind (consumerSequence_looks
        (fun _ _ _ meanwhile evaluating => evaluating.since meanwhile)
        (fun _ _ evaluating => evaluating.requires) here)
      intro observed
      apply Contract.Triple.exists
      intro sequence
      apply Contract.Triple.given (observed = some sequence) (fun _ _ held => held.1)
      rintro rfl
      dsimp only
      split
      · rename_i highest moved
        apply (ih later (derived.notes (.inl ⟨rfl, rfl⟩))).strengthen
        rintro producer world ⟨_same, looked, evaluating⟩
        apply (evaluating.sees_moved looked moved).notes
          (List.mem_append_right _ List.mem_cons_self)
        rcases hasProgressed_bounded moved with same | same
        · exact Int.le_of_eq (same.trans looked.here.symm)
        · exact same ▸ evaluating.observed consumerId
      · rename_i unmoved
        split
        · rename_i early
          apply (ih later derived).strengthen
          rintro producer world ⟨_same, _looked, evaluating⟩
          exact evaluating.sees_patient derived
            (fun expired => Nat.not_lt_of_le expired.1 early)
        · rename_i stalled
          apply Contract.Triple.bind
          · apply (emitAlert_condemns _ _ _).strengthen
            rintro producer world ⟨_same, looked, evaluating⟩
            exact ⟨fun expired =>
              evaluating.blames derived unrecorded due required looked unmoved expired, evaluating⟩
          intro _
          split
          · rename_i graced
            apply (ih later (derived.notes _)).strengthen
            · rintro producer world ⟨_blamed, evaluating⟩
              exact (evaluating.sees_patient derived
                (fun expired => Nat.not_lt_of_le expired.2 graced)).notes
                (List.mem_append_right _ List.mem_cons_self) (evaluating.observed consumerId)
            · rcases derived.continues consumerId with ⟨since, stall⟩ | ⟨since, same, stall⟩
              · exact .inl ⟨since, stall⟩
              · exact .inr ⟨since, same, stall⟩
          · rename_i graced
            apply Contract.Triple.pure
            rintro producer world ⟨blamed, evaluating⟩
            have right := blamed ⟨Nat.le_of_not_lt stalled, Nat.le_of_not_lt graced⟩
            refine ⟨⟨derived.hasCompletedStartup, fun _ same => same⟩,
              evaluating.observed_noted (evaluating.observed consumerId), ?_, ?_⟩
            · intro _completed
              change now.config.requiredConsumerIds ⊆ _
              rw [derived.config]
              exact evaluating.known
            · rintro other lastSequence stalledFor ⟨⟩
              exact right

/-! ### A managed call -/

theorem setLiveness_supervises (meets : Option RequiredConsumerLivenessState → Prop)
    (holds : meets (some state)) :
    BlameTriple Value transport consumerCounters passes (Supervises state)
      (Producer.setLiveness state) (fun _ => Supervising meets []) := by
  intro producer world supervises fuel
  cases fuel with
  | zero => trivial
  | succ fuel =>
      refine ⟨holds, List.nil_subset _, ?_⟩
      rintro _ ⟨⟩
      exact supervises.grows (List.Subset.refl _)

theorem evaluateBlocked_blames (completed : state.hasCompletedStartup = true) :
    BlameTriple Value transport consumerCounters passes
      (fun producer world => (world.clock = clock ∧ world.producerSequence = producerSequence) ∧
        Supervising (· = some state) found producer world)
      (evaluateBlocked ConsumerBarrier.consumerSequence (fun alert => act (.alert alert)) clock
        producerSequence state)
      (Evaluated state) := by
  unfold evaluateBlocked
  split
  · rename_i error terminal
    apply Contract.Triple.pure
    rintro producer world ⟨_loaded, supervising⟩
    refine ⟨⟨rfl, ?_⟩, supervising.supervises state supervising.meets⟩
    rintro _ ⟨⟩
    exact terminal
  · rename_i unrecorded
    split
    · rename_i due
      have derived : Derived state { state with lastCheckAt := clock } clock :=
        ⟨rfl, rfl, unrecorded, fun _ => .inr ⟨rfl, rfl, rfl⟩⟩
      apply (evaluateConsumers_blames unrecorded due state.config.requiredConsumerIds
        (List.nil_append _).symm derived).strengthen
      rintro producer world ⟨⟨instant, published⟩, supervising⟩
      have supervises := supervising.supervises state supervising.meets
      exact ⟨supervising.meets, supervises.known completed, instant, published,
        supervises.observed, nofun, fun _ _ => rfl⟩
    · apply Contract.Triple.pure
      rintro producer world ⟨_loaded, supervising⟩
      exact ⟨⟨rfl, nofun⟩, supervising.supervises state supervising.meets⟩

def Concludes {β : Type} (result : Except RequiredConsumerError β) (producer : Producer)
    (world : World (plain Value)) : Prop :=
  Names result producer world ∧ Supervising Started [] producer world

def AskedAt (state : RequiredConsumerLivenessState) (clock : Nat) (producer : Producer)
    (world : World (plain Value)) : Prop :=
  world.clock = clock ∧ Supervising (· = some state) [] producer world

theorem checkLiveness_concludes :
    BlameTriple Value transport consumerCounters passes (Supervising Started [])
      Producer.checkRequiredConsumerLiveness Concludes := by
  apply Contract.Triple.bind Contract.Triple.get
  intro producer
  split
  · apply Contract.Triple.pure
    rintro self world ⟨_same, supervising⟩
    exact ⟨nofun, supervising⟩
  · rename_i state configured
    apply Contract.Triple.given (state.hasCompletedStartup = true)
    · rintro self world ⟨rfl, supervising⟩
      exact supervising.meets state configured
    intro completed
    have clocked : BlameTriple Value transport consumerCounters passes
        (fun self world => producer = self ∧ Supervising Started [] self world)
        (act .instantNow)
        (AskedAt state) := by
      apply Contract.Triple.perform
      rintro self world before ⟨rfl, supervising⟩ relied _holds _met
      refine ⟨trivial, fun oracle result after performed => ?_⟩
      have later := supervising.since relied.toSince
      cases oracle <;> cases performed
      exact ⟨rfl, configured, List.nil_subset _, fun other same =>
        (later.supervises other same).since (.of_eq rfl rfl (Nat.le_refl _) rfl rfl rfl)⟩
    apply Contract.Triple.bind clocked
    intro (now : Nat)
    have loaded : BlameTriple Value transport consumerCounters passes
        (AskedAt state now) Producer.lastPublishedSequence
        (fun producerSequence self world =>
          (world.clock = now ∧ world.producerSequence = producerSequence) ∧
            Supervising (· = some state) [] self world) := by
      apply Contract.Triple.perform
      rintro self world before ⟨instant, supervising⟩ relied _holds _met
      refine ⟨trivial, fun oracle result after performed => ?_⟩
      cases performed
      exact ⟨⟨relied.clock.trans instant, rfl⟩, supervising.since relied.toSince⟩
    apply Contract.Triple.bind loaded
    intro producerSequence
    apply Contract.Triple.bind (evaluateBlocked_blames completed)
    rintro ⟨failure, revised⟩
    apply Contract.Triple.given (Looking.EvaluatedFrom state (failure, revised))
      (fun _ _ held => held.1)
    intro comes
    have revises : BlameTriple Value transport consumerCounters passes
        (Evaluated state (failure, revised)) (Producer.setLiveness revised)
        (fun _ => Supervising (· = some revised) []) :=
      (setLiveness_supervises (· = some revised) rfl).strengthen (fun _ _ held => held.2)
    apply Contract.Triple.bind revises
    intro _
    have starts : ∀ {self : Producer} {world : World (plain Value)},
        Supervising (· = some revised) [] self world → Supervising Started [] self world := by
      rintro self world ⟨same, _found, supervises⟩
      refine ⟨?_, List.nil_subset _, supervises⟩
      intro other configured
      rw [same] at configured
      cases configured
      exact comes.hasCompletedStartup.trans completed
    cases failure with
    | none => exact Contract.Triple.pure _ (fun _ _ supervising => ⟨nofun, starts supervising⟩)
    | some error =>
        apply Contract.Triple.pure
        intro self world supervising
        refine ⟨?_, starts supervising⟩
        rintro consumerId lastSequence stalledFor ⟨⟩
        exact (supervising.supervises revised supervising.meets).blamed _ _ _
          (comes.terminalError _ rfl)

theorem publishManagedLoop_concludes (n : Nat) {apply : ProducerProcess (plain Value) Int}
    (applies : Leaves (blaming transport Value consumerCounters passes)
      (Supervising Started []) apply) :
    BlameTriple Value transport consumerCounters passes (Supervising Started [])
      (Producer.publishManagedLoop transport n apply) Concludes := by
  refine Contract.Triple.repeat' (fun _ => Supervising Started []) ?_ ()
  intro round
  apply Contract.Triple.bind (supervising_reserving.nextSequences n)
  intro reserved
  cases reserved with
  | ok last =>
      apply Contract.Triple.bind applies
      intro sequence
      exact Contract.Triple.pure _ (fun _ _ supervising => ⟨nofun, supervising⟩)
  | error missing =>
      apply Contract.Triple.bind checkLiveness_concludes
      intro checked
      cases checked with
      | error error =>
          apply Contract.Triple.pure
          rintro producer world ⟨names, supervising⟩
          refine ⟨?_, supervising⟩
          rintro consumerId lastSequence stalledFor ⟨⟩
          exact names _ _ _ rfl
      | ok =>
          apply Contract.Triple.bind ((supervising_looking.act rfl).strengthen
            (fun _ _ held => held.2))
          intro _
          exact Contract.Triple.pure _ (fun _ _ supervising => supervising)

/-! ### The startup -/

theorem Supervises.notes {producer : Producer} {world : World (plain Value)}
    (supervises : Supervises state producer world) {consumerId : ConsumerId}
    {progress : RequiredConsumerProgress}
    (behind : progress.lastObservedSequence ≤ world.consumerSequence consumerId) :
    Supervises (state.withProgress consumerId progress) producer world where
  observed := by
    intro other
    by_cases same : other = consumerId
    · subst same
      simp only [withProgress, Function.update_self]
      exact behind
    · simp only [withProgress, Function.update_of_ne same]
      exact supervises.observed other
  known := supervises.known
  blamed := supervises.blamed

structure Seeding (config : RequiredConsumerLivenessConfig) (now : RequiredConsumerLivenessState)
    (producer : Producer) (world : World (plain Value)) : Prop where
  configured : now.config = config
  requires : Requires config.requiredConsumerIds producer
  supervises : Supervises now producer world

theorem Seeding.since {config : RequiredConsumerLivenessConfig} {producer : Producer}
    {before after : World (plain Value)} (seeding : Seeding config now producer before)
    (since : before.Since after) : Seeding config now producer after :=
  ⟨seeding.configured, seeding.requires, seeding.supervises.since since⟩

theorem seedProgress_supervises {config : RequiredConsumerLivenessConfig} (instant : Nat)
    (consumerIds : List ConsumerId) (required : consumerIds ⊆ config.requiredConsumerIds) :
    BlameTriple Value transport consumerCounters passes (Seeding config now)
      (seedProgress ConsumerBarrier.consumerSequence instant consumerIds now)
      (Seeding config) := by
  induction consumerIds generalizing now with
  | nil => exact Contract.Triple.pure _ (fun _ _ seeding => seeding)
  | cons consumerId rest ih =>
      apply Contract.Triple.bind (consumerSequence_looks
        (fun _ _ _ meanwhile seeding => seeding.since meanwhile.toSince)
        (fun _ _ seeding => seeding.requires) (required List.mem_cons_self))
      intro observed
      apply Contract.Triple.exists
      intro sequence
      apply Contract.Triple.given (observed = some sequence) (fun _ _ held => held.1)
      rintro rfl
      apply (ih (fun other member => required (List.mem_cons_of_mem consumerId member))).strengthen
      rintro producer world ⟨_same, looked, seeding⟩
      exact ⟨seeding.configured, seeding.requires,
        seeding.supervises.notes (Int.le_of_eq looked.here.symm)⟩

theorem completeStartup_supervises :
    BlameTriple Value transport consumerCounters passes
      (Seeding state.config state) (Producer.completeStartup state)
      (fun _ => Supervising Started []) := by
  have reads : Leaves (blaming transport Value consumerCounters passes)
      (Seeding state.config state) (act .instantNow) := by
    apply Contract.Triple.perform
    intro producer world before seeding relied _holds _met
    refine ⟨trivial, fun oracle result after performed => ?_⟩
    exact (seeding.since relied.toSince).since (perform_quiet_since rfl performed)
  apply Contract.Triple.bind reads
  intro instant
  apply Contract.Triple.bind (seedProgress_supervises _ _ (List.Subset.refl _))
  intro seeded
  have marked : Started (some (seeded.markStartupCompleted instant)) := by
    rintro _ ⟨⟩
    rfl
  apply (setLiveness_supervises Started marked).strengthen
  intro producer world seeding
  refine ⟨seeding.supervises.observed, fun _completed => ?_, seeding.supervises.blamed⟩
  change seeded.config.requiredConsumerIds ⊆ _
  rw [seeding.configured]
  exact seeding.requires.1

def Awaits (ready : Except RequiredConsumerError Unit) (producer : Producer)
    (world : World (plain Value)) : Prop :=
  match ready with
  | .ok () => Supervising Started [] producer world
  | .error error => (∃ missing, error = .startupTimeout missing) ∧
      Supervising (fun _ => True) [] producer world

theorem awaitRequiredConsumers_awaits (deadline : Nat) :
    BlameTriple Value transport consumerCounters passes
      (Supervising (· = some state) []) (Producer.awaitRequiredConsumers state deadline)
      Awaits := by
  refine Contract.Triple.repeat' (fun _ => Supervising (· = some state) []) ?_ ()
  intro round
  apply Contract.Triple.bind (supervising_looking.missingRequiredConsumers_knows _)
  intro missing
  split
  · rename_i complete
    have none : missing = [] := List.isEmpty_iff.mp complete
    apply Contract.Triple.bind
    · apply completeStartup_supervises.strengthen
      rintro producer world ⟨known, supervising⟩
      refine ⟨rfl, ⟨fun consumerId member => ?_, state, supervising.meets, List.Subset.refl _⟩,
        supervising.supervises state supervising.meets⟩
      have either := known consumerId member
      rw [none] at either
      exact either.resolve_left List.not_mem_nil
    intro _
    exact Contract.Triple.pure _ (fun _ _ supervising => supervising)
  · apply Contract.Triple.bind ((supervising_looking.act rfl).strengthen
      (fun _ _ held => held.2))
    intro instant
    split
    · exact Contract.Triple.pure _ (fun _ _ supervising => ⟨⟨missing, rfl⟩, supervising.eased⟩)
    · apply Contract.Triple.bind (supervising_looking.act rfl)
      intro _
      exact Contract.Triple.pure _ (fun _ _ supervising => supervising)

theorem ensureReady_awaits :
    BlameTriple Value transport consumerCounters passes
      (Supervising (fun _ => True) []) Producer.ensureRequiredConsumersReady Awaits := by
  apply Contract.Triple.bind Contract.Triple.get
  intro producer
  split
  · rename_i none
    apply Contract.Triple.pure
    rintro self world ⟨rfl, supervising⟩
    refine ⟨?_, List.nil_subset _, supervising.supervises⟩
    intro state some
    rw [none] at some
    cases some
  · rename_i state configured
    split
    · rename_i completed
      apply Contract.Triple.pure
      rintro self world ⟨rfl, supervising⟩
      refine ⟨?_, List.nil_subset _, supervising.supervises⟩
      intro other some
      rw [configured] at some
      cases some
      exact completed
    · have asks : BlameTriple Value transport consumerCounters passes
          (fun self world => producer = self ∧ Supervising (fun _ => True) [] self world)
          (act .instantNow) (fun _ => Supervising (· = some state) []) := by
        apply (supervising_looking.act rfl).strengthen
        rintro self world ⟨rfl, supervising⟩
        exact ⟨configured, List.nil_subset _, supervising.supervises⟩
      apply Contract.Triple.bind asks
      intro start
      exact awaitRequiredConsumers_awaits _

/-! ### The requests -/

theorem ProducerReply.blames_inconclusive {reply : ProducerReply} {producer : Producer}
    {world : World (plain Value)} (inconclusive : reply.conclusion = none) :
    BlamesRightly reply producer world := by
  rintro result rfl
  cases inconclusive

def Replies (reply : ProducerReply) (producer : Producer) (world : World (plain Value)) : Prop :=
  BlamesRightly reply producer world ∧ Supervising (fun _ => True) [] producer world

theorem managed_replies {n : Nat} {apply : ProducerProcess (plain Value) Int}
    (applies : Leaves (blaming transport Value consumerCounters passes)
      (Supervising Started []) apply) :
    BlameTriple Value transport consumerCounters passes (Supervising (fun _ => True) [])
      (ProducerReply.managed <$> managedCall transport n apply) Replies := by
  apply Contract.Triple.map
  apply Contract.Triple.through Awaits ensureReady_awaits
  intro ready
  cases ready with
  | error error =>
      apply Contract.Triple.pure
      rintro producer world ⟨⟨missing, rfl⟩, supervising⟩
      refine ⟨?_, supervising⟩
      rintro result ⟨⟩
      exact nofun
  | ok =>
      apply (publishManagedLoop_concludes n applies).weaken
      rintro result producer world ⟨names, supervising⟩
      refine ⟨?_, supervising.eased⟩
      rintro _ ⟨⟩
      exact names

theorem unmanaged_replies {reply : α → ProducerReply} {routine : ProducerProcess (plain Value) α}
    (unmanaged : ∀ value, (reply value).conclusion = none)
    (leaves : Leaves (blaming transport Value consumerCounters passes)
      (Supervising (fun _ => True) []) routine) :
    BlameTriple Value transport consumerCounters passes (Supervising (fun _ => True) [])
      (reply <$> routine) Replies :=
  Contract.Triple.map (leaves.weaken (fun value _ _ supervising =>
    ⟨ProducerReply.blames_inconclusive (unmanaged value), supervising⟩))

theorem serveProducer_replies (request : ProducerRequest Value) :
    BlameTriple Value transport consumerCounters passes (Supervising (fun _ => True) [])
      (serveProducer transport request) Replies := by
  have publishing : Publishing (blaming transport Value consumerCounters passes)
      (Supervising (fun _ => True) []) := supervising_publishing
  have looking := publishing.reserving.looking
  cases request with
  | tryPublish update =>
      exact unmanaged_replies (fun _ => rfl) (publishing.tryPublish update)
  | publish update =>
      apply Contract.Triple.bind (publishing.publish update)
      intro _
      exact Contract.Triple.pure _ (fun _ _ supervising =>
        ⟨ProducerReply.blames_inconclusive rfl, supervising⟩)
  | tryBatchPublish n updateFn =>
      exact unmanaged_replies (fun _ => rfl) (publishing.tryBatchPublish n updateFn)
  | publishWithTimeout timeout update =>
      simp only [serveProducer]
      split
      · exact unmanaged_replies (fun _ => rfl) (publishing.publishWithTimeout timeout update)
      · exact Contract.Triple.pure _ (fun _ _ supervising =>
          ⟨ProducerReply.blames_inconclusive rfl, supervising⟩)
  | publishManaged update =>
      exact managed_replies (supervising_publishing.applyUpdate update)
  | publishBatchManaged n updateFn =>
      by_cases none : n = 0
      · simp only [serveProducer, Producer.publishBatchManaged, if_pos none]
        apply Contract.Triple.map
        apply Contract.Triple.bind Leaves.get
        intro producer
        apply Contract.Triple.bind (looking.lasting.computed _)
        intro last
        apply Contract.Triple.pure
        intro self world supervising
        refine ⟨?_, supervising⟩
        rintro result ⟨⟩ consumerId lastSequence stalledFor impossible
        cases impossible
      · simp only [serveProducer, Producer.publishBatchManaged, if_neg none]
        exact managed_replies (supervising_publishing.applyBatchUpdates n updateFn)
  | lastPublishedSequence => exact unmanaged_replies (fun _ => rfl) (looking.act rfl)
  | minGatingSequence => exact unmanaged_replies (fun _ => rfl) looking.gatingSequence
  | isConsumed sequence =>
      exact unmanaged_replies (fun _ => rfl) (looking.isConsumed sequence)
  | waitUntilConsumedWithStrategy sequence timeout =>
      exact unmanaged_replies (fun _ => rfl) (looking.waitUntilConsumed sequence timeout)
  | discoverConsumerId consumerId =>
      exact unmanaged_replies (fun _ => rfl) (looking.discoverConsumerId consumerId)
  | waitForConsumerId consumerId timeout =>
      exact unmanaged_replies (fun _ => rfl) (looking.waitForConsumerId consumerId timeout)
  | consumerSequence consumerId =>
      exact unmanaged_replies (fun _ => rfl) (looking.consumerSequence consumerId)
  | getConsumerCount =>
      exact unmanaged_replies (fun _ => rfl) looking.bestEffortConsumerCount

theorem reply_supervises (reply : ProducerReply) :
    BlameTriple Value transport consumerCounters passes (Replies reply)
      (act (.reply reply)) (fun _ => Supervising (fun _ => True) []) := by
  apply Contract.Triple.perform
  rintro producer world before ⟨blames, supervising⟩ relied _holds _met
  constructor
  · refine ⟨producer, rfl, ?_⟩
    intro result same consumerId lastSequence stalledFor failed
    exact (blames result same consumerId lastSequence stalledFor failed).since relied.toSince
  · intro oracle result after performed
    cases performed
    exact (supervising.since relied.toSince).since (.of_eq rfl rfl (Nat.le_refl _) rfl rfl rfl)

theorem producerRound_supervises :
    BlameTriple Value transport consumerCounters passes
      (Supervising (fun _ => True) [])
      (plainApplication transport Value consumerCounters).producerRound
      (fun _ => Supervising (fun _ => True) []) := by
  have asks : BlameTriple Value transport consumerCounters passes
      (Supervising (fun _ => True) []) (act .nextProducerRequest)
      (fun _ => Supervising (fun _ => True) []) := by
    apply Contract.Triple.perform
    intro producer world before supervising relied _holds _met
    refine ⟨trivial, fun oracle result after performed => ?_⟩
    cases oracle <;> cases performed
    exact supervising.since relied.toSince
  apply Contract.Triple.bind asks
  intro request
  exact Contract.Triple.bind (serveProducer_replies request) (fun reply => reply_supervises reply)

end Producer

/-! ### Every run -/

section Runs

variable {slots : Nat → Value} {producer : Producer} {attached joining : List ConsumerId}
variable {moves : List (Move Party (Oracle (plain Value)))}
variable {after : (plainApplication transport Value consumerCounters).State}

theorem consumer_raises {consumerId : ConsumerId} {self : Self} {action : Action (plain Value)}
    {world : World (plain Value)}
    (holds : (Policy.unobserved (plainApplication transport Value consumerCounters)
      passes).Holds world)
    (guaranteed : (Policy.unobserved (plainApplication transport Value consumerCounters)
      passes).consumerGuarantee consumerId self world action) :
    action.raises world := by
  cases action
  case storeConsumerSequence writer sequence =>
    obtain ⟨rfl, _attached, _initialised, further, _permits⟩ := guaranteed
    change world.consumerSequence writer ≤ sequence
    rw [← (holds.positions writer).1]
    exact Int.le_of_lt further.1
  case attachConsumerSequence => cases guaranteed
  case storeProducerSequence => cases guaranteed
  case instantNow => exact guaranteed
  all_goals trivial

theorem supervises_new (config : RequiredConsumerLivenessConfig) (now : Nat)
    (producer : Producer) (slots : Nat → Value) (consumers discovered : List ConsumerId) :
    Supervises (RequiredConsumerLivenessState.new config now) producer
      { World.initial slots with consumers, discovered } where
  observed := fun _ => Int.le_refl _
  known := nofun
  blamed := nofun

abbrev blamingToo (transport : Transport) (Value : Type) (consumerCounters : ConsumerCounters)
    (passes : DirectoryPasses) :=
  (Policy.unobserved (plainApplication transport Value consumerCounters) passes).contract.both
    (blaming transport Value consumerCounters passes)

theorem start_blaming (fresh : producer.Fresh transport)
    (known : producer.consumerBarrier.consumerCursors ⊆ attached)
    (unasked : ∀ state, producer.requiredConsumerLiveness = some state →
      ∃ config now, state = .new config now) :
    (blamingToo transport Value consumerCounters passes).Upheld
      ((plainApplication transport Value consumerCounters).start slots producer attached
        joining) := by
  apply (start_unobserved fresh known).both trivial
  intro party
  cases party with
  | producer =>
      refine .inr (fun fuel => ?_)
      have supervising : Supervising (fun _ => True) [] producer
          ((plainApplication transport Value consumerCounters).start slots producer attached
            joining).world := by
        refine ⟨trivial, List.nil_subset _, fun state configured => ?_⟩
        obtain ⟨config, now, rfl⟩ := unasked state configured
        exact supervises_new config now producer slots attached _
      exact Contract.Triple.forever producerRound_supervises supervising fuel _
  | consumer consumerId =>
      exact .inl (fun _ _ _ holds guaranteed => consumer_raises holds guaranteed)

end Runs

/-! ### Two consumers, of which one is further behind -/

section Example

def repliesNext (state : (plainApplication transport Value consumerCounters).State) :
    Option (Self × ProducerReply) :=
  match state.program .producer with
  | .act self (.reply reply) _ => some (self, reply)
  | _ => none

theorem repliesNext_aboutTo {state : (plainApplication transport Value consumerCounters).State}
    {self : Self} {reply : ProducerReply} (found : repliesNext state = some (self, reply)) :
    state.AboutTo .producer self (.reply reply) := by
  simp only [repliesNext] at found
  split at found
  · rename_i next placed
    cases found
    exact ⟨next, placed⟩
  · cases found

/-- A producer that requires two consumers, and looks at them in the order of the list. -/
def requiringBoth (consumerIds : List ConsumerId) : Producer :=
  { knowing twoSlots ["ahead", "behind"] with
    requiredConsumerLiveness := some (RequiredConsumerLivenessState.new
      { requiredConsumerIds := consumerIds
        startupWaitTimeout := 1
        progressTimeout := 10
        progressCheckInterval := 1
        shutdownGracePeriod := 0
        failureAction := .gracefulShutdown
        alertHook := false } 0) }

abbrev bothMachine := (plainApplication twoSlots Nat noCounters).machine .mayFail

abbrev requiringStart (consumerIds : List ConsumerId) :
    (plainApplication twoSlots Nat noCounters).State :=
  (plainApplication twoSlots Nat noCounters).start (fun _ => (0 : Nat))
    (requiringBoth consumerIds) ["ahead", "behind"] []

/-- Two events are published, of which one consumer takes the first and the other none. The
third finds no room, and the timeout of both is over. -/
def oneTakes : List (Move Party (Oracle (plain Nat))) :=
  byProducer [.silent, .producerRequest (.publish fun _ => some 7), .silent, .silent, .silent,
    .silent, .silent, .producerRequest (.publish fun _ => some 8), .silent, .silent, .silent,
    .silent] ++
  byConsumer "ahead" [.silent, .consumerRequest .tryConsumeNext, .silent, .silent, .silent] ++
  byProducer [.silent, .producerRequest (.publishManaged fun _ => some 9), .elapsed 0, .silent,
    .elapsed 0, .silent, .silent, .silent, .order ["ahead", "behind"], .silent, .silent,
    .elapsed 10, .silent, .silent]

end Example

end Ring
