/-
When the liveness policy gives a required consumer up.

The policy is run against any answers that its looks at the cursors may get. What
it keeps for a consumer is where a watch of that consumer stands, so an error is
returned only for a stall that the looks bear out.
-/

import Myelon.Ring.RequiredConsumer
import Myelon.Watch.Sighting

namespace Ring

open Watch

/-! ### The calls of a liveness policy -/

/-- What the next looks of a policy show, and what it has seen of each consumer. -/
structure Watcher where
  answers : List (Option Int)
  sightings : ConsumerId → List Sighting
  alerts : List RequiredConsumerAlert

namespace Watcher

def initial : Watcher := { answers := [], sightings := fun _ => [], alerts := [] }

def see (watcher : Watcher) (consumerId : ConsumerId) (sighting : Sighting) : Watcher :=
  { watcher with
    answers := watcher.answers.tail
    sightings := Function.update watcher.sightings consumerId
      (watcher.sightings consumerId ++ [sighting]) }

def observe (sighting : Option Int → Sighting) (consumerId : ConsumerId) :
    StateM Watcher (Option Int) := fun watcher =>
  (watcher.answers.headD none,
    watcher.see consumerId (sighting (watcher.answers.headD none)))

def alert (alert : RequiredConsumerAlert) : StateM Watcher Unit := fun watcher =>
  ((), { watcher with alerts := watcher.alerts ++ [alert] })

end Watcher

inductive LivenessCall where
  | seedProgress (now : Nat) (answers : List (Option Int))
  | markStartupCompleted (now : Nat)
  | evaluateBlocked (now : Nat) (producerSequence : Int) (answers : List (Option Int))

namespace LivenessCall

def now : LivenessCall → Nat
  | .seedProgress now _ => now
  | .markStartupCompleted now => now
  | .evaluateBlocked now _ _ => now

def perform : LivenessCall → RequiredConsumerLivenessState → Watcher →
    (Option RequiredConsumerError × RequiredConsumerLivenessState) × Watcher
  | .seedProgress now answers, state, watcher =>
      let seeded := RequiredConsumerLivenessState.seedProgress (Watcher.observe (.seeded now)) now
        state.config.requiredConsumerIds state { watcher with answers }
      ((none, seeded.1), seeded.2)
  | .markStartupCompleted now, state, watcher =>
      ((none, state.markStartupCompleted now), watcher)
  | .evaluateBlocked now producerSequence answers, state, watcher =>
      state.evaluateBlocked (Watcher.observe (.observed now producerSequence)) Watcher.alert now
        producerSequence { watcher with answers }

def run : List LivenessCall → RequiredConsumerLivenessState → Watcher →
    RequiredConsumerLivenessState × Watcher
  | [], state, watcher => (state, watcher)
  | call :: rest, state, watcher =>
      run rest (call.perform state watcher).1.2 (call.perform state watcher).2

end LivenessCall

/-! ### What the policy keeps -/

namespace RequiredConsumerLivenessState

variable {config : RequiredConsumerLivenessConfig} {start now : Nat}

/-- The progress that is kept of a consumer is where its watch stands. -/
structure Tracks (config : RequiredConsumerLivenessConfig) (start now : Nat)
    (progress : RequiredConsumerProgress) (sightings : List Sighting) : Prop where
  lastObservedSequence : progress.lastObservedSequence = (standing (-1) start sightings).highest
  lastProgressAt : progress.lastProgressAt = (standing (-1) start sightings).since
  past : progress.lastProgressAt ≤ now
  stalled : ∀ stalledAt, progress.stallStartedAt = some stalledAt →
    stalledAt ≤ now ∧ StalledFrom (-1) start config.progressTimeout sightings stalledAt

structure Watching (config : RequiredConsumerLivenessConfig) (start now : Nat)
    (state : RequiredConsumerLivenessState) (watcher : Watcher) : Prop where
  configured : state.config = config
  tracks : ∀ consumerId,
    Tracks config start now (state.consumers consumerId) (watcher.sightings consumerId)

/-- The stall that an error reports is borne out by what was seen. -/
def Reported (config : RequiredConsumerLivenessConfig) (start now : Nat)
    (sightings : ConsumerId → List Sighting) : RequiredConsumerError → Prop
  | .startupTimeout _ => False
  | .gracefulShutdownTriggered consumerId lastSequence _ =>
      (∃ stalledAt, stalledAt + config.shutdownGracePeriod ≤ now ∧
        StalledFrom (-1) start config.progressTimeout (sightings consumerId) stalledAt) ∧
      lastSequence = (standing (-1) start (sightings consumerId)).highest

theorem Tracks.later {progress : RequiredConsumerProgress} {sightings : List Sighting}
    (tracks : Tracks config start now progress sightings) {later : Nat} (passed : now ≤ later) :
    Tracks config start later progress sightings where
  lastObservedSequence := tracks.lastObservedSequence
  lastProgressAt := tracks.lastProgressAt
  past := Nat.le_trans tracks.past passed
  stalled := fun stalledAt stalls =>
    ⟨Nat.le_trans (tracks.stalled stalledAt stalls).1 passed,
      (tracks.stalled stalledAt stalls).2⟩

theorem Watching.later {state : RequiredConsumerLivenessState} {watcher : Watcher}
    (watching : Watching config start now state watcher) {later : Nat} (passed : now ≤ later) :
    Watching config start later state watcher where
  configured := watching.configured
  tracks := fun consumerId => (watching.tracks consumerId).later passed

theorem Watching.saw {state : RequiredConsumerLivenessState} {watcher : Watcher}
    (watching : Watching config start now state watcher) {consumerId : ConsumerId}
    {sighting : Sighting} {progress : RequiredConsumerProgress}
    (tracks : Tracks config start now progress (watcher.sightings consumerId ++ [sighting])) :
    Watching config start now (state.withProgress consumerId progress)
      (watcher.see consumerId sighting) where
  configured := watching.configured
  tracks := by
    intro other
    by_cases same : other = consumerId
    · subst same
      simp only [withProgress, Watcher.see, Function.update_self]
      exact tracks
    · simp only [withProgress, Watcher.see, Function.update_of_ne same]
      exact watching.tracks other

@[simp] theorem withProgress_config (state : RequiredConsumerLivenessState)
    (consumerId : ConsumerId) (progress : RequiredConsumerProgress) :
    (state.withProgress consumerId progress).config = state.config := rfl

theorem withProgress_self (state : RequiredConsumerLivenessState) (consumerId : ConsumerId) :
    state.withProgress consumerId (state.consumers consumerId) = state := by
  unfold withProgress
  rw [Function.update_eq_self]

theorem tracks_new (config : RequiredConsumerLivenessConfig) (start : Nat)
    (consumerId : ConsumerId) :
    Tracks config start start ((new config start).consumers consumerId) [] where
  lastObservedSequence := rfl
  lastProgressAt := rfl
  past := Nat.le_refl _
  stalled := nofun

theorem tracks_seeded (sightings : List Sighting) (observed : Option Int) :
    Tracks config start now
      { lastObservedSequence := observed.getD (-1)
        lastProgressAt := now
        stallStartedAt := none
        alertEmitted := false }
      (sightings ++ [.seeded now observed]) where
  lastObservedSequence := by
    rw [standing_snoc]
    rfl
  lastProgressAt := by
    rw [standing_snoc]
    rfl
  past := Nat.le_refl _
  stalled := nofun

section Look

variable {producerSequence : Int} {progress : RequiredConsumerProgress}
variable {sightings : List Sighting} {observed : Option Int}

/-- The code resets the clock of a consumer exactly when the look shows progress. -/
theorem hasProgressed_some (now : Nat) {sequence : Int}
    (progressed : hasProgressed observed producerSequence progress = some sequence) :
    (Sighting.observed now producerSequence observed).Shows progress.lastObservedSequence ∧
      sequence = (Sighting.observed now producerSequence observed).highest (-1)
        progress.lastObservedSequence := by
  cases observed with
  | none => cases progressed
  | some seen =>
      simp only [hasProgressed] at progressed
      split at progressed
      · rename_i higher
        have same := Option.some.inj progressed
        have highest : max progress.lastObservedSequence seen = seen := by omega
        exact ⟨⟨seen, rfl, .inl higher⟩, same.symm.trans highest.symm⟩
      · rename_i lower
        split at progressed
        · rename_i caughtUp
          have same := Option.some.inj progressed
          have kept : max progress.lastObservedSequence seen =
              progress.lastObservedSequence := by omega
          exact ⟨⟨seen, rfl, .inr caughtUp⟩, same.symm.trans kept.symm⟩
        · cases progressed

theorem hasProgressed_none (now : Nat)
    (still : hasProgressed observed producerSequence progress = none) :
    ¬ (Sighting.observed now producerSequence observed).Shows
      progress.lastObservedSequence := by
  rintro ⟨seen, rfl, shows⟩
  simp only [hasProgressed] at still
  split at still
  · cases still
  · split at still
    · cases still
    · omega

theorem Tracks.progressed (tracks : Tracks config start now progress sightings)
    {sequence : Int}
    (progressed : hasProgressed observed producerSequence progress = some sequence) :
    Tracks config start now
      { lastObservedSequence := sequence
        lastProgressAt := now
        stallStartedAt := none
        alertEmitted := false }
      (sightings ++ [.observed now producerSequence observed]) := by
  have shown := hasProgressed_some now progressed
  rw [tracks.lastObservedSequence] at shown
  constructor
  · rw [standing_snoc]
    exact shown.2
  · rw [standing_snoc]
    simp only [Sighting.after, if_pos shown.1, Sighting.time]
  · exact Nat.le_refl _
  · nofun

theorem Tracks.still (tracks : Tracks config start now progress sightings)
    (still : hasProgressed observed producerSequence progress = none) :
    Tracks config start now progress
      (sightings ++ [.observed now producerSequence observed]) := by
  have without := hasProgressed_none now still
  rw [tracks.lastObservedSequence] at without
  constructor
  · rw [standing_snoc, after_still without]
    exact tracks.lastObservedSequence
  · rw [standing_snoc, after_still without]
    exact tracks.lastProgressAt
  · exact tracks.past
  · intro stalledAt stalls
    exact ⟨(tracks.stalled stalledAt stalls).1,
      (tracks.stalled stalledAt stalls).2.goesOn without⟩

theorem Tracks.stalls (tracks : Tracks config start now progress sightings)
    (still : hasProgressed observed producerSequence progress = none)
    (late : config.progressTimeout ≤ now - progress.lastProgressAt) :
    Tracks config start now
      { progress with
        stallStartedAt := some (progress.stallStartedAt.getD now)
        alertEmitted := true }
      (sightings ++ [.observed now producerSequence observed]) := by
  have kept := tracks.still still
  refine ⟨kept.lastObservedSequence, kept.lastProgressAt, kept.past, ?_⟩
  intro stalledAt stalls
  cases began : progress.stallStartedAt with
  | some earlier =>
      rw [began] at stalls
      cases stalls
      exact kept.stalled earlier began
  | none =>
      rw [began] at stalls
      cases stalls
      refine ⟨Nat.le_refl _, StalledFrom.begin ?_ ?_⟩
      · have past := tracks.past
        rw [← tracks.lastProgressAt]
        omega
      · rw [← tracks.lastObservedSequence]
        exact hasProgressed_none now still

end Look

/-! ### The loops over the required consumers -/

variable {producerSequence : Int}

theorem seedProgress_watching (consumerIds : List ConsumerId)
    {state : RequiredConsumerLivenessState} {watcher : Watcher}
    (watching : Watching config start now state watcher) :
    Watching config start now
      (seedProgress (Watcher.observe (.seeded now)) now consumerIds state watcher).1
      (seedProgress (Watcher.observe (.seeded now)) now consumerIds state watcher).2 := by
  induction consumerIds generalizing state watcher with
  | nil => exact watching
  | cons consumerId rest ih => exact ih (watching.saw (tracks_seeded _ _))

/-- The hook is called between a look and what is kept of it; it sees no cursor. -/
theorem emitAlert_sightings (config : RequiredConsumerLivenessConfig)
    (progress : RequiredConsumerProgress) (alert : RequiredConsumerAlert) (watcher : Watcher) :
    (emitAlert Watcher.alert config progress alert watcher).2.sightings =
      watcher.sightings := by
  unfold emitAlert
  split <;> rfl

theorem Watching.sameSightings {state : RequiredConsumerLivenessState} {first second : Watcher}
    (watching : Watching config start now state first)
    (same : second.sightings = first.sightings) :
    Watching config start now state second where
  configured := watching.configured
  tracks := by
    rw [same]
    exact watching.tracks

/-- What the rounds over the required consumers keep, and what they return. -/
theorem evaluateConsumers_watching (consumerIds : List ConsumerId)
    {state : RequiredConsumerLivenessState} {watcher : Watcher}
    (watching : Watching config start now state watcher) :
    ∀ failure after seen,
      evaluateConsumers (Watcher.observe (.observed now producerSequence)) Watcher.alert now
        producerSequence consumerIds state watcher = ((failure, after), seen) →
      Watching config start now after seen ∧
        ∀ error, failure = some error → Reported config start now seen.sightings error := by
  induction consumerIds generalizing state watcher with
  | nil =>
      rintro failure after seen ⟨⟩
      exact ⟨watching, nofun⟩
  | cons consumerId rest ih =>
      intro failure after seen evaluated
      have tracks := watching.tracks consumerId
      simp only [evaluateConsumers, bind, StateT.bind, Watcher.observe] at evaluated
      cases progressed : hasProgressed (watcher.answers.headD none) producerSequence
          (state.consumers consumerId) with
      | some sequence =>
          simp only [progressed] at evaluated
          exact ih (watching.saw (tracks.progressed progressed)) failure after seen evaluated
      | none =>
          simp only [progressed] at evaluated
          by_cases early : now - (state.consumers consumerId).lastProgressAt <
              state.config.progressTimeout
          · simp only [if_pos early] at evaluated
            have same := watching.saw (tracks.still progressed)
            rw [withProgress_self] at same
            exact ih same failure after seen evaluated
          · simp only [if_neg early] at evaluated
            have late : config.progressTimeout ≤
                now - (state.consumers consumerId).lastProgressAt := by
              rw [← watching.configured]
              exact Nat.le_of_not_lt early
            have stalls := watching.saw (tracks.stalls progressed late)
            have watched := stalls.sameSightings (emitAlert_sightings state.config
              (state.consumers consumerId)
              { consumerId
                lastSequence := (state.consumers consumerId).lastObservedSequence
                stalledFor := now - (state.consumers consumerId).lastProgressAt } _)
            by_cases patient : now - (state.consumers consumerId).stallStartedAt.getD now <
                state.config.shutdownGracePeriod
            · simp only [withProgress_config, patient, reduceIte] at evaluated
              exact ih watched failure after seen evaluated
            · simp only [withProgress_config, patient, reduceIte] at evaluated
              cases evaluated
              refine ⟨⟨watched.configured, watched.tracks⟩, ?_⟩
              rintro error ⟨⟩
              have kept := watched.tracks consumerId
              simp only [withProgress, Function.update_self] at kept
              have stalled := kept.stalled _ rfl
              rw [watching.configured] at patient
              exact ⟨⟨_, by omega, stalled.2⟩, kept.lastObservedSequence⟩

theorem evaluateBlocked_watching {state : RequiredConsumerLivenessState} {watcher : Watcher}
    (watching : Watching config start now state watcher) {failure : Option RequiredConsumerError}
    {after : RequiredConsumerLivenessState} {seen : Watcher}
    (evaluated : state.evaluateBlocked (Watcher.observe (.observed now producerSequence))
      Watcher.alert now producerSequence watcher = ((failure, after), seen)) :
    Watching config start now after seen ∧
      (state.terminalError = none →
        ∀ error, failure = some error → Reported config start now seen.sightings error) := by
  unfold evaluateBlocked at evaluated
  cases terminal : state.terminalError with
  | some error =>
      simp only [terminal] at evaluated
      cases evaluated
      exact ⟨watching, nofun⟩
  | none =>
      simp only [terminal] at evaluated
      by_cases due : state.shouldCheck now = true
      · simp only [due, reduceIte] at evaluated
        have checking : Watching config start now
            { state with
              lastCheckAt := now
              terminalError := none } watcher :=
          ⟨watching.configured, watching.tracks⟩
        have checked := evaluateConsumers_watching _ checking failure after seen evaluated
        exact ⟨checked.1, fun _ => checked.2⟩
      · simp only [due, Bool.false_eq_true, reduceIte] at evaluated
        cases evaluated
        exact ⟨watching, nofun⟩

/-! ### Whole runs of a policy -/

theorem perform_watching {call : LivenessCall} {state : RequiredConsumerLivenessState}
    {watcher : Watcher} (watching : Watching config start call.now state watcher) :
    Watching config start call.now (call.perform state watcher).1.2
      (call.perform state watcher).2 := by
  have asked : ∀ answers, Watching config start call.now state { watcher with answers } :=
    fun answers => watching.sameSightings rfl
  cases call with
  | seedProgress now answers => exact seedProgress_watching _ (asked answers)
  | markStartupCompleted now => exact ⟨watching.configured, watching.tracks⟩
  | evaluateBlocked now producerSequence answers =>
      exact (evaluateBlocked_watching (asked answers) rfl).1

theorem run_watching {calls : List LivenessCall} {state : RequiredConsumerLivenessState}
    {watcher : Watcher} (watching : Watching config start now state watcher) {later : Nat}
    (ordered : (now :: (calls.map LivenessCall.now ++ [later])).Pairwise (· ≤ ·)) :
    Watching config start later (LivenessCall.run calls state watcher).1
      (LivenessCall.run calls state watcher).2 := by
  induction calls generalizing state watcher now with
  | nil => exact watching.later (List.rel_of_pairwise_cons ordered List.mem_cons_self)
  | cons call rest ih =>
      have passed := List.rel_of_pairwise_cons ordered List.mem_cons_self
      exact ih (perform_watching (watching.later passed)) (List.pairwise_cons.mp ordered).2

theorem new_watching (config : RequiredConsumerLivenessConfig) (start : Nat) :
    Watching config start start (new config start) Watcher.initial :=
  ⟨rfl, tracks_new config start⟩

/-- Only a consumer that has shown no progress for the timeout is given up, and only
after none was seen for the grace period. The error names the highest of its cursors. -/
theorem no_false_shutdown (config : RequiredConsumerLivenessConfig) (start : Nat)
    (calls : List LivenessCall) (now : Nat) (producerSequence : Int)
    (answers : List (Option Int))
    (ordered : (start :: (calls.map LivenessCall.now ++ [now])).Pairwise (· ≤ ·))
    {state : RequiredConsumerLivenessState} {watcher seen : Watcher}
    (ran : LivenessCall.run calls (new config start) Watcher.initial = (state, watcher))
    (running : state.terminalError = none)
    {consumerId : ConsumerId} {lastSequence : Int} {stalledFor : Nat}
    {after : RequiredConsumerLivenessState}
    (returned : (LivenessCall.evaluateBlocked now producerSequence answers).perform state
      watcher = ((some (.gracefulShutdownTriggered consumerId lastSequence stalledFor), after),
        seen)) :
    (∃ stalledAt, stalledAt + config.shutdownGracePeriod ≤ now ∧
      StalledFrom (-1) start config.progressTimeout (seen.sightings consumerId) stalledAt) ∧
    lastSequence = (standing (-1) start (seen.sightings consumerId)).highest := by
  have watching := run_watching (new_watching config start) ordered
  rw [ran] at watching
  have asked : Watching config start now state { watcher with answers } :=
    watching.sameSightings rfl
  exact (evaluateBlocked_watching asked returned).2 running _ rfl

/-- One consumer, seeded at 3, that never moves: an alert is due at 10, the end at 15. -/
def impatient : RequiredConsumerLivenessConfig :=
  { requiredConsumerIds := ["c1"]
    startupWaitTimeout := 1
    progressTimeout := 10
    progressCheckInterval := 1
    shutdownGracePeriod := 5
    failureAction := .gracefulShutdown
    alertHook := true }

theorem no_false_shutdown_impatient :
    (∃ stalledAt, stalledAt + 5 ≤ 15 ∧ StalledFrom (-1) 0 10
      [.seeded 0 (some 3), .observed 10 8 (some 3), .observed 15 8 none] stalledAt) ∧
    (3 : Int) = (standing (-1) 0
      [.seeded 0 (some 3), .observed 10 8 (some 3), .observed 15 8 none]).highest := by
  have returned : ((LivenessCall.evaluateBlocked 15 8 [none]).perform
      (LivenessCall.run [.seedProgress 0 [some 3], .evaluateBlocked 10 8 [some 3]]
        (new impatient 0) Watcher.initial).1
      (LivenessCall.run [.seedProgress 0 [some 3], .evaluateBlocked 10 8 [some 3]]
        (new impatient 0) Watcher.initial).2).1.1 =
      some (.gracefulShutdownTriggered "c1" 3 15) := rfl
  exact no_false_shutdown impatient 0
    [.seedProgress 0 [some 3], .evaluateBlocked 10 8 [some 3]] 15 8 [none] (by decide)
    rfl rfl (Prod.ext (Prod.ext returned rfl) rfl)

end RequiredConsumerLivenessState
end Ring
