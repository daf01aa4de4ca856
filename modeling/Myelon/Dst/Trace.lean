/-
Traces of simulation runs, and how two of them are compared.

A trace lists what was done to which process. Replaying a run must give the same trace, and
the comparison says where two traces first differ.
-/

import Myelon.Dst.Merge

namespace Dst

inductive SchedulerAction where
  | spawn
  | sleepMs (duration : UInt64)
  | attach
  | start
  | publishBatch (events : UInt32)
  | consumeBatch (events : UInt32)
  | kill
  | restart
  | shutdown
  deriving DecidableEq

inductive TraceStatus where
  | planned
  | success
  | retry
  | failed (reason : String)
  deriving DecidableEq

structure TraceEvent where
  step : Nat
  role : ProcessRole
  action : SchedulerAction
  status : TraceStatus
  attempt : Nat
  resource : String
  /-- In the order of the keys, each key once. -/
  metadata : List (String × String)
  deriving DecidableEq

structure TraceArtifact where
  runId : String
  profileId : String
  seed : UInt64
  events : List TraceEvent
  deriving DecidableEq

namespace TraceArtifact

def new (runId profileId : String) (seed : UInt64) : TraceArtifact :=
  { runId := runId, profileId := profileId, seed := seed, events := [] }

def push (trace : TraceArtifact) (role : ProcessRole) (action : SchedulerAction)
    (status : TraceStatus) (resource : String) : TraceArtifact :=
  { trace with
    events := trace.events ++
      [{ step := trace.events.length
         role := role
         action := action
         status := status
         attempt := 0
         resource := resource
         metadata := [] }] }

/-- Put an entry where its key belongs, in the place of one with the same key. -/
def insertEntry (key value : String) : List (String × String) → List (String × String)
  | [] => [(key, value)]
  | entry :: later =>
      if key = entry.1 then (key, value) :: later
      else if key < entry.1 then (key, value) :: entry :: later
      else entry :: insertEntry key value later

def setMetadata (trace : TraceArtifact) (key value : String) : TraceArtifact :=
  { trace with
    events := trace.events.modifyLast fun last =>
      { last with metadata := insertEntry key value last.metadata } }

end TraceArtifact

/-! ### Comparing two traces -/

/-- The loop over the events of both traces, from `index` on. -/
def firstMismatch {Event : Type} [DecidableEq Event] (index : Nat) :
    List Event → List Event → Option (Nat × Event × Event)
  | expected :: others, actual :: later =>
      if expected ≠ actual then some (index, expected, actual)
      else firstMismatch (index + 1) others later
  | _, _ => none

inductive ReplayMismatch where
  | runIdentity (left right : String × UInt64)
  | eventCount (expected actual : Nat)
  | eventContent (step : Nat) (expected actual : TraceEvent)
  deriving DecidableEq

namespace ReplayValidator

def validate (expected actual : TraceArtifact) : Except ReplayMismatch Unit :=
  if (expected.runId, expected.seed) ≠ (actual.runId, actual.seed) then
    .error (.runIdentity (expected.runId, expected.seed) (actual.runId, actual.seed))
  else if expected.events.length ≠ actual.events.length then
    .error (.eventCount expected.events.length actual.events.length)
  else
    match firstMismatch 0 expected.events actual.events with
    | some (step, left, right) => .error (.eventContent step left right)
    | none => .ok ()

end ReplayValidator

/-- `debug` writes an event as it is derived for its type. -/
def replayTrace (debug : TraceEvent → String) (expected actual : TraceArtifact) :
    Except String Unit :=
  if expected.events.length ≠ actual.events.length then
    .error ("trace length mismatch: expected " ++ toString expected.events.length ++ " actual " ++
      toString actual.events.length)
  else
    match firstMismatch 0 expected.events actual.events with
    | some (index, left, right) =>
        .error ("trace event mismatch at step " ++ toString index ++ ": expected=" ++ debug left ++
          ", actual=" ++ debug right)
    | none => .ok ()

/-! ### What the comparison finds -/

section Mismatch

variable {Event : Type} [DecidableEq Event]

theorem firstMismatch_none (index : Nat) {expected actual : List Event}
    (lengths : expected.length = actual.length) :
    firstMismatch index expected actual = none ↔ expected = actual := by
  induction expected generalizing index actual with
  | nil =>
    rw [List.eq_nil_of_length_eq_zero lengths.symm]
    exact ⟨fun _ => rfl, fun _ => rfl⟩
  | cons event others ih =>
    cases actual with
    | nil => cases lengths
    | cons other later =>
      rw [firstMismatch]
      by_cases same : event = other
      · rw [if_neg (not_not.mpr same), ih (index + 1) (Nat.succ.inj lengths), same]
        exact ⟨fun rest => by rw [rest], fun equal => (List.cons.inj equal).2⟩
      · rw [if_pos same]
        constructor
        · intro absurd
          cases absurd
        · intro equal
          exact absurd (List.cons.inj equal).1 same

theorem firstMismatch_some {index place : Nat} {expected actual : List Event} {left right : Event}
    (found : firstMismatch index expected actual = some (place, left, right)) :
    ∃ before leftRest rightRest, place = index + before.length ∧ left ≠ right ∧
      expected = before ++ left :: leftRest ∧ actual = before ++ right :: rightRest := by
  induction expected generalizing index actual with
  | nil => cases found
  | cons event others ih =>
    cases actual with
    | nil => cases found
    | cons other later =>
      rw [firstMismatch] at found
      by_cases same : event = other
      · rw [if_neg (not_not.mpr same)] at found
        obtain ⟨before, leftRest, rightRest, position, differ, front, frontToo⟩ := ih found
        refine ⟨event :: before, leftRest, rightRest, ?_, differ, ?_, ?_⟩
        · rw [List.length_cons]
          omega
        · rw [front]
          rfl
        · rw [frontToo, same]
          rfl
      · rw [if_pos same] at found
        cases found
        exact ⟨[], others, later, rfl, same, rfl, rfl⟩

end Mismatch

theorem replayTrace_ok_iff (debug : TraceEvent → String) (expected actual : TraceArtifact) :
    replayTrace debug expected actual = .ok () ↔ expected.events = actual.events := by
  rw [replayTrace]
  by_cases lengths : expected.events.length = actual.events.length
  · rw [if_neg (not_not.mpr lengths), ← firstMismatch_none 0 lengths]
    cases firstMismatch 0 expected.events actual.events with
    | none => exact ⟨fun _ => rfl, fun _ => rfl⟩
    | some found =>
      constructor
      · intro absurd
        cases absurd
      · intro absurd
        cases absurd
  · rw [if_pos lengths]
    constructor
    · intro absurd
      cases absurd
    · intro same
      exact absurd (congrArg List.length same) lengths

/-- What the validator decides, one question after the other. -/
theorem validate_cases (expected actual : TraceArtifact) :
    (expected.runId, expected.seed) ≠ (actual.runId, actual.seed) ∧
      ReplayValidator.validate expected actual =
        .error (.runIdentity (expected.runId, expected.seed) (actual.runId, actual.seed)) ∨
    (expected.runId, expected.seed) = (actual.runId, actual.seed) ∧
      (expected.events.length ≠ actual.events.length ∧
        ReplayValidator.validate expected actual =
          .error (.eventCount expected.events.length actual.events.length) ∨
      (∃ place left right,
        firstMismatch 0 expected.events actual.events = some (place, left, right) ∧
        expected.events ≠ actual.events ∧
        ReplayValidator.validate expected actual = .error (.eventContent place left right)) ∨
      expected.events = actual.events ∧ ReplayValidator.validate expected actual = .ok ()) := by
  rw [ReplayValidator.validate]
  by_cases same : (expected.runId, expected.seed) = (actual.runId, actual.seed)
  · rw [if_neg (not_not.mpr same)]
    refine .inr ⟨same, ?_⟩
    by_cases lengths : expected.events.length = actual.events.length
    · rw [if_neg (not_not.mpr lengths)]
      right
      have agree := firstMismatch_none 0 lengths
      cases found : firstMismatch 0 expected.events actual.events with
      | none => exact .inr ⟨agree.mp found, rfl⟩
      | some mismatch =>
        left
        obtain ⟨place, left, right⟩ := mismatch
        refine ⟨place, left, right, rfl, ?_, rfl⟩
        intro equal
        rw [agree.mpr equal] at found
        cases found
    · rw [if_pos lengths]
      exact .inl ⟨lengths, rfl⟩
  · rw [if_pos same]
    exact .inl ⟨same, rfl⟩

/-- Both comparisons let equal events pass and no others, and the validator wants the same run
besides. Where events differ, it is the first that differ which it names. -/
theorem replays_compared (debug : TraceEvent → String) (expected actual : TraceArtifact) :
    (replayTrace debug expected actual = .ok () ↔ expected.events = actual.events) ∧
    (ReplayValidator.validate expected actual = .ok () ↔
      (expected.runId, expected.seed) = (actual.runId, actual.seed) ∧
        expected.events = actual.events) ∧
    ∀ step left right,
      ReplayValidator.validate expected actual = .error (.eventContent step left right) →
        ∃ before leftRest rightRest, step = before.length ∧ left ≠ right ∧
          expected.events = before ++ left :: leftRest ∧
            actual.events = before ++ right :: rightRest := by
  refine ⟨replayTrace_ok_iff debug expected actual, ?_, ?_⟩
  · rcases validate_cases expected actual with ⟨other, decided⟩ | ⟨same, ⟨lengths, decided⟩ |
      ⟨_, _, _, _, differ, decided⟩ | ⟨equal, decided⟩⟩
    · simp only [decided, other, reduceCtorEq, false_and]
    · rw [decided]
      constructor
      · intro absurd
        cases absurd
      · intro ⟨_, equal⟩
        exact absurd (congrArg List.length equal) lengths
    · simp only [decided, differ, reduceCtorEq, and_false]
    · simp only [decided, same, equal, and_self]
  · intro step left right failed
    rcases validate_cases expected actual with ⟨_, decided⟩ | ⟨_, ⟨_, decided⟩ |
      ⟨_, _, _, found, _, decided⟩ | ⟨_, decided⟩⟩
    · rw [decided] at failed
      cases failed
    · rw [decided] at failed
      cases failed
    · rw [decided] at failed
      cases failed
      obtain ⟨before, leftRest, rightRest, position, differ, front, frontToo⟩ :=
        firstMismatch_some found
      rw [Nat.zero_add] at position
      exact ⟨before, leftRest, rightRest, position, differ, front, frontToo⟩
    · rw [decided] at failed
      cases failed

end Dst
