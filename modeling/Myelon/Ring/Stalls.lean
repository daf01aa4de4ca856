/-
Stalls, and the time that something was left to consume.

The history of a run says how long each state of the cursors lasted. The policy measures a stall
from the last look that showed progress. It reports what the history bears out if the event that
the consumer has still to consume was published by then.
-/

import Myelon.Interleaving.Paced
import Myelon.Ring.AutoConsumer
import Myelon.Ring.Reports

namespace Ring

open Interleaving

/-! ### The history of a run -/

/-- A stretch of time, with what was published and consumed all through it. -/
structure Stretch where
  begins : Nat
  ends : Nat
  published : Int
  consumed : ConsumerId → Int

/-- Any time may pass behind an action. The clock that is read is the one of the world. -/
def time (interface : Interface) : Pacing (World interface) (List Stretch) where
  Gap := Nat
  pass := fun gap world => { world with clock := world.clock + gap }
  note := fun before after history => history ++
    [{ begins := before.clock
       ends := after.clock
       published := after.producerSequence
       consumed := after.consumerSequence }]

/-- For so long before that moment something was published that the consumer had not
consumed. -/
def PendingFor (history : List Stretch) (consumerId : ConsumerId) (duration now : Nat) : Prop :=
  ∀ stretch ∈ history, stretch.begins < now → now < stretch.ends + duration →
    stretch.consumed consumerId < stretch.published

variable {transport : Transport} {Value : Type} {passes : DirectoryPasses}
variable {consumerCounters : ConsumerCounters}

theorem passes_sameRing {interface : Interface} (gap : Nat) (world : World interface) :
    world.SameRing ((time interface).pass gap world) :=
  ⟨rfl, rfl, rfl, rfl, rfl, rfl, rfl, rfl, rfl⟩

abbrev timed (transport : Transport) (Value : Type) (consumerCounters : ConsumerCounters)
    (passes : DirectoryPasses) :
    Machine (signature (plain Value)) Self Party (World (plain Value) × List Stretch) :=
  (time (plain Value)).machine ((plainApplication transport Value consumerCounters).machine passes)

abbrev TimedState (Value : Type) :=
  Configuration (signature (plain Value)) Self Party (World (plain Value) × List Stretch)

def startTimed (transport : Transport) (consumerCounters : ConsumerCounters)
    (slots : Nat → Value) (producer : Producer) (attached joining : List ConsumerId) :
    TimedState Value :=
  ((plainApplication transport Value consumerCounters).start slots producer attached
    joining).chronicled []

/-! ### What a run adds to the history -/

structure Goes (before after : World (plain Value) × List Stretch) : Prop where
  clock : before.1.clock ≤ after.1.clock
  history : ∃ more, after.2 = before.2 ++ more ∧ ∀ stretch ∈ more, before.1.clock ≤ stretch.begins

theorem Goes.refl (world : World (plain Value) × List Stretch) : Goes world world where
  clock := Nat.le_refl _
  history := ⟨[], (List.append_nil _).symm,
    fun _ impossible => absurd impossible List.not_mem_nil⟩

theorem Goes.trans {first second third : World (plain Value) × List Stretch}
    (left : Goes first second) (right : Goes second third) : Goes first third where
  clock := Nat.le_trans left.clock right.clock
  history := by
    obtain ⟨more, grown, since⟩ := left.history
    obtain ⟨further, grownFurther, sinceFurther⟩ := right.history
    refine ⟨more ++ further, ?_, ?_⟩
    · rw [grownFurther, grown, List.append_assoc]
    · intro stretch member
      rcases List.mem_append.mp member with earlier | later
      · exact since stretch earlier
      · exact Nat.le_trans left.clock (sinceFurther stretch later)

theorem move_goes {before after : TimedState Value}
    {first : Move Party (timed transport Value consumerCounters passes).Oracle}
    (moved : (timed transport Value consumerCounters passes).move before first = some after) :
    Goes before.world after.world := by
  cases first with
  | step party answer =>
      rcases Machine.move_step moved with
        ⟨self, action, next, result, world, _placed, performed, rfl⟩ |
          ⟨β, γ, body, state, next, _placed, rfl⟩
      · obtain ⟨⟨outcome, later⟩, done, same⟩ := Option.map_eq_some_iff.mp performed
        cases same
        refine ⟨Nat.le_trans (perform_clock_le done) (Nat.le_add_right _ _), _, rfl, ?_⟩
        intro stretch member
        cases List.mem_singleton.mp member
        exact Nat.le_refl _
      · exact Goes.refl _
  | crash party =>
      obtain ⟨program, world, restarted, rfl⟩ := Machine.move_crash moved
      obtain ⟨⟨outcome, later⟩, done, same⟩ := Option.map_eq_some_iff.mp restarted
      cases same
      cases party with
      | producer => cases done
      | consumer consumerId =>
          simp only [Application.machine] at done
          split at done <;> cases done
          have same : Goes before.world before.world := Goes.refl _
          exact ⟨same.clock, same.history⟩

theorem run_goes {before after : TimedState Value}
    {moves : List (Move Party (timed transport Value consumerCounters passes).Oracle)}
    (ran : (timed transport Value consumerCounters passes).run before moves = some after) :
    Goes before.world after.world := by
  induction moves generalizing before with
  | nil =>
      cases ran
      exact Goes.refl _
  | cons first rest ih =>
      simp only [Machine.run] at ran
      split at ran
      · cases ran
      · rename_i next moved
        exact (move_goes moved).trans (ih ran)

/-! ### What the history keeps -/

private abbrev rules (transport : Transport) (Value : Type) (consumerCounters : ConsumerCounters)
    (passes : DirectoryPasses) :
    Contract ((plainApplication transport Value consumerCounters).machine passes) :=
  (Policy.unobserved (plainApplication transport Value consumerCounters) passes).contract

/-- No moment is left out of the history, and no cursor of a consumer has ever been further than
it is. -/
structure Told (world : World (plain Value) × List Stretch) : Prop where
  complete : ∀ moment < world.1.clock, ∃ stretch ∈ world.2,
    stretch.begins ≤ moment ∧ moment < stretch.ends
  behind : ∀ stretch ∈ world.2, ∀ consumerId,
    stretch.consumed consumerId ≤ world.1.consumerSequence consumerId

/-- The rules of the ring do not mind the time. -/
def timedRules (transport : Transport) (Value : Type) (consumerCounters : ConsumerCounters)
    (passes : DirectoryPasses) :
    Paced (rules transport Value consumerCounters passes) (time (plain Value)) where
  kept := Told
  passed := fun gap holds => holds.sameRing (passes_sameRing gap _)
  relied := by
    intro party world gap
    cases party with
    | producer => exact (passes_sameRing gap world).producerRely
    | consumer consumerId => exact (passes_sameRing gap world).consumerRely consumerId
  noted := by
    intro party self action oracle gap world history result after holds guaranteed _met
      performed told
    constructor
    · intro moment past
      by_cases earlier : moment < world.clock
      · obtain ⟨stretch, member, within⟩ := told.complete moment earlier
        exact ⟨stretch, List.mem_append_left _ member, within⟩
      · exact ⟨_, List.mem_append_right _ (List.mem_singleton_self _), Nat.le_of_not_lt earlier,
          past⟩
    · intro stretch member consumerId
      rcases List.mem_append.mp member with earlier | here
      · obtain ⟨_published, _written, consumed⟩ :=
          AutoConsumer.advances consumerId holds guaranteed performed
        exact Int.le_trans (told.behind stretch earlier consumerId) consumed
      · cases List.mem_singleton.mp here
        exact Int.le_refl _
  restarted := by
    intro party world history program after holds restarted told
    cases party with
    | producer => cases restarted
    | consumer consumerId =>
        simp only [Application.machine] at restarted
        split at restarted <;> cases restarted
        exact ⟨told.complete, told.behind⟩

def timedReports (borneOut : ConsumerId → Nat → Nat → Prop) (transport : Transport)
    (Value : Type) (consumerCounters : ConsumerCounters) (passes : DirectoryPasses) :
    Paced (reportingToo borneOut transport Value consumerCounters passes)
      (time (plain Value)) where
  kept := fun _ => True
  passed := fun gap holds => ⟨holds.1.sameRing (passes_sameRing gap _), trivial⟩
  relied := by
    intro party world gap
    cases party with
    | producer =>
        exact ⟨(passes_sameRing gap world).producerRely, Nat.le_add_right _ _, rfl⟩
    | consumer consumerId =>
        exact ⟨(passes_sameRing gap world).consumerRely consumerId, trivial⟩
  noted := fun _ _ _ _ _ => trivial
  restarted := fun _ _ _ => trivial

/-! ### Every run -/

/-- Where the policy reports a consumer, the event that it has still to consume was published
when it was last seen to progress. -/
def PublishedByThen : Party → Self → Action (plain Value) →
    World (plain Value) × List Stretch → Prop
  | .producer, .producer producer, .loadConsumerSequence consumerId, (world, history) =>
      ∀ state ∈ producer.requiredConsumerLiveness,
        state.Reports world.clock world.producerSequence consumerId (world.cursor consumerId) →
        ∀ stretch ∈ history, stretch.published ≤ world.cursor consumerId →
          stretch.ends ≤ (state.consumers consumerId).lastProgressAt
  | _, _, _, _ => True

instance (state : RequiredConsumerLivenessState) (now : Nat) (producerSequence : Int)
    (consumerId : ConsumerId) (sequence : Int) :
    Decidable (state.Reports now producerSequence consumerId sequence) :=
  inferInstanceAs (Decidable (_ ∧ _ ∧ _ ∧ _ ∧ _ ∧ _))

instance (party : Party) (self : Self) (action : Action (plain Value))
    (world : World (plain Value) × List Stretch) :
    Decidable (PublishedByThen party self action world) := by
  match party, self, world with
  | .consumer _, _, _ => exact .isTrue trivial
  | .producer, .consumer _, _ => exact .isTrue trivial
  | .producer, .attaching _, _ => exact .isTrue trivial
  | .producer, .producer producer, (world, history) =>
      apply Action.casesOn (motive := fun action =>
        Decidable (PublishedByThen .producer (.producer producer) action (world, history))) action
      case loadConsumerSequence =>
        exact fun _ => (inferInstance : Decidable
          (∀ state ∈ producer.requiredConsumerLiveness, _ → ∀ stretch ∈ history, _ → _))
      all_goals
        intros
        exact .isTrue trivial

/-- Then the history bears out the report, also with hindsight. -/
theorem looks_bear_out {before after : World (plain Value) × List Stretch}
    (holds : (rules transport Value consumerCounters passes).invariant before.1)
    (told : Told before) (goes : Goes before after) {party : Party} {self : Self}
    {action : Action (plain Value)} (published : PublishedByThen party self action before) :
    LooksBearOut (PendingFor after.2) party self action before.1 := by
  cases party with
  | consumer consumerId => cases self <;> cases action <;> trivial
  | producer =>
  cases self with
  | consumer consumer => cases action <;> trivial
  | attaching consumerId => cases action <;> trivial
  | producer producer =>
  cases action
  case loadConsumerSequence consumerId =>
    intro state configured reports now past elapsed stretch member begins ends
    obtain ⟨more, grown, since⟩ := goes.history
    rw [grown] at member
    rcases List.mem_append.mp member with earlier | later
    · have consumed := told.behind stretch earlier consumerId
      have read : before.1.consumerSequence consumerId ≤ before.1.cursor consumerId := by
        rcases Policy.Holds.cursor_cases holds consumerId with same | ⟨zero, fresh, _creates⟩
        · exact Int.le_of_eq same.symm
        · omega
      by_contra idle
      have ended := published state configured reports stretch earlier (by omega)
      omega
    · have late := since stretch later
      omega
  all_goals trivial

section Runs

variable {slots : Nat → Value} {producer : Producer} {attached joining : List ConsumerId}
variable {moves : List (Move Party (timed transport Value consumerCounters passes).Oracle)}
variable {after : TimedState Value}

/-- A consumer that is reported, in an alert or for good, had something left to consume for all
the time that is reported, and that is no less than the timeout. -/
theorem stalls_pending (fresh : producer.Fresh transport)
    (known : producer.consumerBarrier.consumerCursors ⊆ attached)
    (unasked : ∀ state, producer.requiredConsumerLiveness = some state →
      ∃ config now, state = .new config now)
    (published : (timed transport Value consumerCounters passes).Meets PublishedByThen
      (startTimed transport consumerCounters slots producer attached joining) moves)
    (ran : (timed transport Value consumerCounters passes).run
      (startTimed transport consumerCounters slots producer attached joining) moves =
        some after) :
    (∀ self alert, after.AboutTo .producer self (.alert alert) →
      ∃ producer state, self = .producer producer ∧
        producer.requiredConsumerLiveness = some state ∧
        Stalled (PendingFor after.world.2) state.config alert.consumerId alert.stalledFor
          ((state.consumers alert.consumerId).lastProgressAt + alert.stalledFor)) ∧
    ∀ self consumerId lastSequence stalledFor,
      after.AboutTo .producer self (.reply (.managed (.error
        (.gracefulShutdownTriggered consumerId lastSequence stalledFor)))) →
      ∃ producer state, self = .producer producer ∧
        producer.requiredConsumerLiveness = some state ∧
        Stalled (PendingFor after.world.2) state.config consumerId stalledFor
          state.lastCheckAt := by
  have boots : ∀ party world program later,
      (rules transport Value consumerCounters passes).invariant world →
      ((plainApplication transport Value consumerCounters).machine passes).restart party world =
        some (program, later) →
      ∀ fuel, (rules transport Value consumerCounters passes).Safe party fuel program
        (fun _ _ => True) later :=
    fun _ _ _ _ holds restarted => Policy.restart_safe
      (Policy.plain_servesConsumer (fun _ _ => trivial) (fun _ => trivial)) holds restarted
  have accepting : ∀ party self action oracle world,
      (rules transport Value consumerCounters passes).accepts party self action oracle world := by
    intro party self action oracle world
    cases party with
    | producer => cases self <;> trivial
    | consumer consumerId => trivial
  -- The rules hold in every run, and so the history is told all the time.
  have ruled : (timedRules transport Value consumerCounters passes).contract.Upheld
      (startTimed transport consumerCounters slots producer attached joining) :=
    Paced.upheld (start_unobserved fresh known)
      ⟨fun _ impossible => absurd impossible (Nat.not_lt_zero _),
        fun _ impossible => absurd impossible List.not_mem_nil⟩
  have bearOut : (timed transport Value consumerCounters passes).Meets
      (fun party self action world =>
        LooksBearOut (PendingFor after.world.2) party self action world.1)
      (startTimed transport consumerCounters slots producer attached joining) moves := by
    refine Contract.Upheld.hindsight (Paced.boots boots) ruled
      (Machine.meets_always (fun _ _ _ _ => Policy.unobserved_always _ _ _ _) _ _)
      (Machine.accepts_always (fun _ _ _ _ _ => accepting _ _ _ _ _) _ _) published ran ?_
    intro middle rest party self action upheld further _about published
    exact looks_bear_out upheld.invariant.1 upheld.invariant.2 (run_goes further) published
  have reported : (timedReports (PendingFor after.world.2) transport Value consumerCounters
      passes).contract.Upheld after := by
    refine Contract.Upheld.run (Paced.boots ?_) (Paced.upheld (start_reporting _ fresh known
      unasked) trivial) (bearOut.imp (fun _ _ _ _ met => ⟨Policy.unobserved_always _ _ _ _, met⟩))
      (Machine.accepts_always (fun _ _ _ _ _ => ⟨accepting _ _ _ _ _, trivial⟩) _ _) ran
    intro party world program later holds restarted fuel
    cases party with
    | producer => cases restarted
    | consumer consumerId =>
        exact (boots _ world program later holds.1 restarted fuel).adopt
          (fun _ _ _ _ guaranteed => consumer_unpublished guaranteed)
  constructor
  · intro self alert about
    exact (reported.guaranteed about
      ⟨Policy.unobserved_always _ _ _ _, by cases self <;> trivial⟩).2
  · intro self consumerId lastSequence stalledFor about
    exact (reported.guaranteed about
      ⟨Policy.unobserved_always _ _ _ _, by cases self <;> trivial⟩).2

end Runs

/-! ### A consumer that has nothing to consume for a while, and then has -/

section Example

instance (history : List Stretch) (consumerId : ConsumerId) (duration now : Nat) :
    Decidable (PendingFor history consumerId duration now) :=
  inferInstanceAs (Decidable (∀ stretch ∈ history, _))

def requiringOne : Producer :=
  { knowing twoSlots ["reader"] with
    requiredConsumerLiveness := some (RequiredConsumerLivenessState.new
      { requiredConsumerIds := ["reader"]
        startupWaitTimeout := 1
        progressTimeout := 10
        progressCheckInterval := 1
        shutdownGracePeriod := 0
        failureAction := .gracefulShutdown
        alertHook := true } 0) }

abbrev timedMachine := timed twoSlots Nat noCounters .mayFail

abbrev timedStart : TimedState Nat :=
  startTimed twoSlots noCounters (fun _ => (0 : Nat)) requiringOne ["reader"] []

abbrev produces (oracle : Oracle (plain Nat)) (gap : Nat) :
    Move Party timedMachine.Oracle := .step .producer (oracle, gap)

/-- The startup, two events that fill the ring, and a third one that finds no room. It takes so
long to write the first event, and so long until the third call. -/
def fillsRing (writing idle : Nat) : List (Move Party timedMachine.Oracle) :=
  [produces .silent 0, produces (.producerRequest (.publishManaged fun _ => some 7)) 0,
    produces (.elapsed 0) 0, produces .silent 0, produces (.elapsed 0) 0] ++
  List.replicate 2 (produces .silent 0) ++ [produces .silent writing] ++
  List.replicate 3 (produces .silent 0) ++
  [produces (.producerRequest (.publishManaged fun _ => some 8)) 0] ++
  List.replicate 3 (produces .silent 0) ++ [produces .silent idle, produces .silent 0,
    produces (.producerRequest (.publishManaged fun _ => some 9)) 0, produces .silent 0,
    produces (.order ["reader"]) 0, produces .silent 0, produces (.elapsed 0) 0] ++
  List.replicate 3 (produces .silent 0)

def answersNext (state : TimedState Nat) : Option (Self × ProducerReply) :=
  match state.program .producer with
  | .act self (.reply reply) _ => some (self, reply)
  | _ => none

theorem answersNext_aboutTo {state : TimedState Nat} {self : Self} {reply : ProducerReply}
    (found : answersNext state = some (self, reply)) :
    state.AboutTo .producer self (.reply reply) := by
  simp only [answersNext] at found
  split at found
  · rename_i next placed
    cases found
    exact ⟨next, placed⟩
  · cases found

/-- The consumer is given up after it had an event to consume for as long as it is said. -/
theorem stalls_pending_idle : ∃ after self producer state,
    timedMachine.run timedStart (fillsRing 0 20) = some after ∧
    after.AboutTo .producer self
      (.reply (.managed (.error (.gracefulShutdownTriggered "reader" (-1) 20)))) ∧
    self = .producer producer ∧ producer.requiredConsumerLiveness = some state ∧
    Stalled (PendingFor after.world.2) state.config "reader" 20 state.lastCheckAt := by
  have found : (timedMachine.run timedStart (fillsRing 0 20)).any (fun after =>
      (answersNext after).any fun answer =>
        decide (answer.2 = .managed (.error (.gracefulShutdownTriggered "reader" (-1) 20)))) =
      true := by
    decide +kernel
  have published : timedMachine.checks PublishedByThen timedStart (fillsRing 0 20) = true := by
    decide +kernel
  obtain ⟨after, ran, found⟩ := (Option.any_eq_true _ _).mp found
  obtain ⟨⟨self, reply⟩, answers, found⟩ := (Option.any_eq_true _ _).mp found
  cases of_decide_eq_true found
  have about := answersNext_aboutTo answers
  obtain ⟨producer, state, named, configured, stalled⟩ := (stalls_pending ⟨rfl, rfl⟩
    (List.Subset.refl _) (fun _ configured => ⟨_, _, (Option.some.inj configured).symm⟩)
    (Machine.meets_of_checks published) ran).2
    self "reader" (-1) 20 about
  exact ⟨after, self, producer, state, ran, about, named, configured, stalled⟩

/-- It takes long to write the first event, after the startup. The ring is full as soon as both
events are published, and the consumer is reported and given up at once. -/
theorem stall_without_pending : ∃ after self,
    timedMachine.run timedStart (fillsRing 20 0) = some after ∧
    after.world.1.clock = 20 ∧
    after.world.1.alerts = [{ consumerId := "reader", lastSequence := -1, stalledFor := 20 }] ∧
    after.AboutTo .producer self
      (.reply (.managed (.error (.gracefulShutdownTriggered "reader" (-1) 20)))) ∧
    ¬ PendingFor after.world.2 "reader" 10 20 := by
  have found : (timedMachine.run timedStart (fillsRing 20 0)).any (fun after =>
      decide (after.world.1.clock = 20 ∧ after.world.1.alerts =
        [{ consumerId := "reader", lastSequence := -1, stalledFor := 20 }] ∧
        ¬ PendingFor after.world.2 "reader" 10 20) &&
      (answersNext after).any fun answer =>
        decide (answer.2 = .managed (.error (.gracefulShutdownTriggered "reader" (-1) 20)))) =
      true := by
    decide +kernel
  obtain ⟨after, ran, found⟩ := (Option.any_eq_true _ _).mp found
  obtain ⟨reported, found⟩ := Bool.and_eq_true_iff.mp found
  obtain ⟨clock, alerts, idle⟩ := of_decide_eq_true reported
  obtain ⟨⟨self, reply⟩, answers, found⟩ := (Option.any_eq_true _ _).mp found
  cases of_decide_eq_true found
  exact ⟨after, self, ran, clock, alerts, answersNext_aboutTo answers, idle⟩

end Example

end Ring
