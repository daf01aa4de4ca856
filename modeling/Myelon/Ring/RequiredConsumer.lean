/-
The liveness policy for the consumers a producer requires.

Instants and durations are counted in nanoseconds. The progress table is built
from the list of required ids and is asked for those ids only, so the lookup
which the source expects to succeed is a total function here.
-/

import Mathlib.Algebra.Order.Ring.Int
import Mathlib.Logic.Function.Basic

namespace Ring

abbrev ConsumerId := String

inductive RequiredConsumerFailureAction where
  | gracefulShutdown
  deriving DecidableEq

structure RequiredConsumerAlert where
  consumerId : ConsumerId
  lastSequence : Int
  stalledFor : Nat
  deriving DecidableEq

structure RequiredConsumerLivenessConfig where
  requiredConsumerIds : List ConsumerId
  startupWaitTimeout : Nat
  progressTimeout : Nat
  progressCheckInterval : Nat
  shutdownGracePeriod : Nat
  failureAction : RequiredConsumerFailureAction
  /-- Whether a hook is registered that takes the alerts. -/
  alertHook : Bool

namespace RequiredConsumerLivenessConfig

/-- The conservative defaults, for a list that is not empty. -/
def new (requiredConsumerIds : List ConsumerId) : Option RequiredConsumerLivenessConfig :=
  if requiredConsumerIds.isEmpty then none
  else some {
    requiredConsumerIds
    startupWaitTimeout := 5 * 1000000000
    progressTimeout := 250 * 1000000
    progressCheckInterval := 5 * 1000000
    shutdownGracePeriod := 1 * 1000000000
    failureAction := .gracefulShutdown
    alertHook := false }

end RequiredConsumerLivenessConfig

inductive RequiredConsumerError where
  | startupTimeout (missing : List ConsumerId)
  | gracefulShutdownTriggered (consumerId : ConsumerId) (lastSequence : Int) (stalledFor : Nat)
  deriving DecidableEq

structure RequiredConsumerProgress where
  lastObservedSequence : Int
  lastProgressAt : Nat
  stallStartedAt : Option Nat
  alertEmitted : Bool
  deriving DecidableEq

structure RequiredConsumerLivenessState where
  config : RequiredConsumerLivenessConfig
  consumers : ConsumerId → RequiredConsumerProgress
  hasCompletedStartup : Bool
  lastCheckAt : Nat
  terminalError : Option RequiredConsumerError

namespace RequiredConsumerLivenessState

def new (config : RequiredConsumerLivenessConfig) (now : Nat) :
    RequiredConsumerLivenessState :=
  { config
    consumers := fun _ =>
      { lastObservedSequence := -1
        lastProgressAt := now
        stallStartedAt := none
        alertEmitted := false }
    hasCompletedStartup := false
    lastCheckAt := now
    terminalError := none }

def markStartupCompleted (state : RequiredConsumerLivenessState) (now : Nat) :
    RequiredConsumerLivenessState :=
  { state with hasCompletedStartup := true, lastCheckAt := now }

def shouldCheck (state : RequiredConsumerLivenessState) (now : Nat) : Bool :=
  now - state.lastCheckAt ≥ state.config.progressCheckInterval

def withProgress (state : RequiredConsumerLivenessState) (consumerId : ConsumerId)
    (progress : RequiredConsumerProgress) : RequiredConsumerLivenessState :=
  { state with consumers := Function.update state.consumers consumerId progress }

/-- A consumer that is seen to move, or to have nothing left to consume. -/
def hasProgressed (observed : Option Int) (producerSequence : Int)
    (progress : RequiredConsumerProgress) : Option Int :=
  match observed with
  | none => none
  | some sequence =>
      if sequence > progress.lastObservedSequence then some sequence
      else if sequence ≥ producerSequence then some progress.lastObservedSequence
      else none

section Observed

universe u

variable {m : Type → Type u} [Monad m]

def missingRequiredConsumers (isPresent : ConsumerId → m Bool) :
    List ConsumerId → m (List ConsumerId)
  | [] => pure []
  | consumerId :: rest => do
      let present ← isPresent consumerId
      let missing ← missingRequiredConsumers isPresent rest
      pure (if present then missing else consumerId :: missing)

/-- The hook takes the first alert of a stall. -/
def emitAlert (alertHook : RequiredConsumerAlert → m Unit)
    (config : RequiredConsumerLivenessConfig) (progress : RequiredConsumerProgress)
    (alert : RequiredConsumerAlert) : m Unit :=
  if !progress.alertEmitted && config.alertHook then alertHook alert else pure ()

/-- The loop of `evaluate_blocked` over the ids that are left. -/
def evaluateConsumers (observeSequence : ConsumerId → m (Option Int))
    (alertHook : RequiredConsumerAlert → m Unit) (now : Nat) (producerSequence : Int) :
    List ConsumerId → RequiredConsumerLivenessState →
      m (Option RequiredConsumerError × RequiredConsumerLivenessState)
  | [], state => pure (none, state)
  | consumerId :: rest, state => do
      let observed ← observeSequence consumerId
      let progress := state.consumers consumerId
      match hasProgressed observed producerSequence progress with
      | some sequence =>
          evaluateConsumers observeSequence alertHook now producerSequence rest
            (state.withProgress consumerId
              { lastObservedSequence := sequence
                lastProgressAt := now
                stallStartedAt := none
                alertEmitted := false })
      | none =>
          let stalledFor := now - progress.lastProgressAt
          if stalledFor < state.config.progressTimeout then
            evaluateConsumers observeSequence alertHook now producerSequence rest state
          else
            let stallStartedAt := progress.stallStartedAt.getD now
            emitAlert alertHook state.config progress
              { consumerId, lastSequence := progress.lastObservedSequence, stalledFor }
            let state := state.withProgress consumerId
              { progress with stallStartedAt := some stallStartedAt, alertEmitted := true }
            if now - stallStartedAt < state.config.shutdownGracePeriod then
              evaluateConsumers observeSequence alertHook now producerSequence rest state
            else
              match state.config.failureAction with
              | .gracefulShutdown =>
                  let error := RequiredConsumerError.gracefulShutdownTriggered consumerId
                    progress.lastObservedSequence stalledFor
                  pure (some error, { state with terminalError := some error })

def evaluateBlocked (observeSequence : ConsumerId → m (Option Int))
    (alertHook : RequiredConsumerAlert → m Unit) (now : Nat) (producerSequence : Int)
    (state : RequiredConsumerLivenessState) :
    m (Option RequiredConsumerError × RequiredConsumerLivenessState) :=
  match state.terminalError with
  | some error => pure (some error, state)
  | none =>
      if state.shouldCheck now then
        evaluateConsumers observeSequence alertHook now producerSequence
          state.config.requiredConsumerIds { state with lastCheckAt := now }
      else
        pure (none, state)

def seedProgress (observeSequence : ConsumerId → m (Option Int)) (now : Nat) :
    List ConsumerId → RequiredConsumerLivenessState → m RequiredConsumerLivenessState
  | [], state => pure state
  | consumerId :: rest, state => do
      let observed ← observeSequence consumerId
      seedProgress observeSequence now rest
        (state.withProgress consumerId
          { lastObservedSequence := observed.getD (-1)
            lastProgressAt := now
            stallStartedAt := none
            alertEmitted := false })

end Observed
end RequiredConsumerLivenessState
end Ring
