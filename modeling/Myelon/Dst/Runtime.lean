/-
The runtime that drives a simulated run.

It obeys a command only in the states that allow it, and writes each obeyed command to a timeline
and to a trace, with a virtual clock that runs faster the further the run has come.
-/

import Myelon.Delivery.Journal
import Myelon.Dst.Trace

namespace Dst

inductive DstRuntimeState where
  | initialized
  | running
  | paused
  | crashed
  | restarting
  | completed
  deriving DecidableEq

inductive DstRuntimeCommand where
  | start
  | pause
  | resume
  | crash (reason : String)
  | restart (reason : String)
  | step
  | replay
  deriving DecidableEq

inductive DstRuntimeError where
  | invalidTransition (current : DstRuntimeState) (command : DstRuntimeCommand)
  | budgetExceeded (limitNs observedNs : Nat)
  deriving DecidableEq

structure RuntimeStepEvent where
  index : Nat
  command : DstRuntimeCommand
  role : ProcessRole
  action : Option SchedulerAction
  virtualTimeNs : Nat
  attempt : UInt32
  deriving DecidableEq

structure DstRuntime where
  runId : String
  profileId : String
  seed : UInt64
  state : DstRuntimeState
  step : Nat
  maxVirtualTimeNs : Nat
  virtualTimeNs : Nat
  attempts : UInt32
  timeline : List RuntimeStepEvent
  trace : TraceArtifact

def u64Max : Nat := 2 ^ 64 - 1

def saturatingAdd (left right : UInt32) : UInt32 :=
  UInt32.ofNat (min (left.toNat + right.toNat) (2 ^ 32 - 1))

namespace DstRuntime

def new (runId profileId : String) (seed : UInt64) (maxVirtualTimeNs : Nat) : DstRuntime :=
  { runId := runId
    profileId := profileId
    seed := seed
    state := .initialized
    step := 0
    maxVirtualTimeNs := maxVirtualTimeNs
    virtualTimeNs := 0
    attempts := 0
    timeline := []
    trace := TraceArtifact.new runId profileId seed }

/-- The sums and the product stop at the greatest value of their type. -/
def record (runtime : DstRuntime) (command : DstRuntimeCommand) (role : ProcessRole)
    (action : Option SchedulerAction) (status : TraceStatus) : DstRuntime :=
  let traceAction := action.getD .spawn
  let virtualTimeNs :=
    min (runtime.virtualTimeNs + min (min (runtime.step + 1) u64Max * 1000) u64Max) u64Max
  { runtime with
    virtualTimeNs := virtualTimeNs
    trace := runtime.trace.push role traceAction status ("idx=" ++ toString runtime.step)
    timeline := runtime.timeline ++
      [{ index := runtime.step
         command := command
         role := role
         action := action
         virtualTimeNs := virtualTimeNs
         attempt := runtime.attempts }]
    step := min (runtime.step + 1) u64Max }

def start (runtime : DstRuntime) : Except DstRuntimeError DstRuntime :=
  if runtime.state ≠ .initialized ∧ runtime.state ≠ .restarting then
    .error (.invalidTransition runtime.state .start)
  else
    .ok ({ runtime with state := .running }.record .start .orchestrator none .success)

def pause (runtime : DstRuntime) : Except DstRuntimeError DstRuntime :=
  if runtime.state ≠ .running then
    .error (.invalidTransition runtime.state .pause)
  else
    .ok ({ runtime with state := .paused }.record .pause .orchestrator none .success)

def resume (runtime : DstRuntime) : Except DstRuntimeError DstRuntime :=
  if runtime.state ≠ .paused then
    .error (.invalidTransition runtime.state .resume)
  else
    .ok ({ runtime with state := .running }.record .resume .orchestrator none .success)

def crash (runtime : DstRuntime) (role : ProcessRole) (reason : String) :
    Except DstRuntimeError DstRuntime :=
  if runtime.state = .completed ∨ runtime.state = .initialized then
    .error (.invalidTransition runtime.state (.crash reason))
  else
    .ok ({ runtime with state := .crashed }.record (.crash reason) role none (.failed reason))

def restart (runtime : DstRuntime) (role : ProcessRole) (reason : String) :
    Except DstRuntimeError DstRuntime :=
  if runtime.state ≠ .crashed then
    .error (.invalidTransition runtime.state (.restart reason))
  else
    .ok ({ runtime with state := .restarting }.record (.restart reason) role none .success)

def takeStep (runtime : DstRuntime) (role : ProcessRole) (action : SchedulerAction)
    (attempt : UInt32) : Except DstRuntimeError DstRuntime :=
  if runtime.state ≠ .running then
    .error (.invalidTransition runtime.state .step)
  else
    .ok ({ runtime with attempts := saturatingAdd runtime.attempts attempt }.record .step role
      (some action) .success)

def complete (runtime : DstRuntime) : DstRuntime :=
  { runtime with state := .completed }.record .replay .orchestrator none .success

def enforceBudget (runtime : DstRuntime) (observedNs : Nat) : Except DstRuntimeError Unit :=
  if observedNs > runtime.maxVirtualTimeNs then
    .error (.budgetExceeded runtime.maxVirtualTimeNs observedNs)
  else
    .ok ()

def intoTrace (runtime : DstRuntime) : TraceArtifact :=
  ((runtime.trace.setMetadata "run_id" runtime.runId).setMetadata "profile_id"
    runtime.profileId).setMetadata "seed" (toString runtime.seed.toNat)

end DstRuntime

/-! ### Requests -/

/-- A call of one of the methods which change the runtime. -/
inductive RuntimeRequest where
  | start
  | pause
  | resume
  | crash (role : ProcessRole) (reason : String)
  | restart (role : ProcessRole) (reason : String)
  | step (role : ProcessRole) (action : SchedulerAction) (attempt : UInt32)
  | complete

namespace RuntimeRequest

def command : RuntimeRequest → DstRuntimeCommand
  | .start => .start
  | .pause => .pause
  | .resume => .resume
  | .crash _ reason => .crash reason
  | .restart _ reason => .restart reason
  | .step _ _ _ => .step
  | .complete => .replay

def role : RuntimeRequest → ProcessRole
  | .crash role _ | .restart role _ | .step role _ _ => role
  | _ => .orchestrator

def action : RuntimeRequest → Option SchedulerAction
  | .step _ action _ => some action
  | _ => none

def attempt : RuntimeRequest → UInt32
  | .step _ _ attempt => attempt
  | _ => 0

end RuntimeRequest

def DstRuntimeCommand.status : DstRuntimeCommand → TraceStatus
  | .crash reason => .failed reason
  | _ => .success

/-- The states that allow a command, and the state each leads to. -/
def DstRuntimeState.after (state : DstRuntimeState) :
    DstRuntimeCommand → Option DstRuntimeState
  | .start => if state = .initialized ∨ state = .restarting then some .running else none
  | .pause => if state = .running then some .paused else none
  | .resume => if state = .paused then some .running else none
  | .crash _ => if state = .completed ∨ state = .initialized then none else some .crashed
  | .restart _ => if state = .crashed then some .restarting else none
  | .step => if state = .running then some .running else none
  | .replay => some .completed

namespace DstRuntime

def request (runtime : DstRuntime) : RuntimeRequest → Except DstRuntimeError DstRuntime
  | .start => runtime.start
  | .pause => runtime.pause
  | .resume => runtime.resume
  | .crash role reason => runtime.crash role reason
  | .restart role reason => runtime.restart role reason
  | .step role action attempt => runtime.takeStep role action attempt
  | .complete => .ok runtime.complete

theorem saturatingAdd_toNat (left right : UInt32) :
    (saturatingAdd left right).toNat = min (left.toNat + right.toNat) (2 ^ 32 - 1) := by
  rw [saturatingAdd, UInt32.toNat_ofNat', Nat.mod_eq_of_lt]
  omega

theorem saturatingAdd_zero (attempts : UInt32) : saturatingAdd attempts 0 = attempts := by
  apply UInt32.toNat_inj.mp
  have bounded := attempts.toNat_lt
  rw [saturatingAdd_toNat, UInt32.toNat_zero]
  omega

theorem saturatingAdd_again (attempts attempt : UInt32) :
    saturatingAdd attempts (saturatingAdd attempts attempt - attempts) =
      saturatingAdd attempts attempt := by
  apply UInt32.toNat_inj.mp
  have bounded := attempts.toNat_lt
  have grown : attempts ≤ saturatingAdd attempts attempt := by
    rw [UInt32.le_iff_toNat_le, saturatingAdd_toNat]
    omega
  rw [saturatingAdd_toNat attempts (_ - _), UInt32.toNat_sub_of_le _ _ grown, saturatingAdd_toNat]
  omega

def obeyed (runtime : DstRuntime) (request : RuntimeRequest) (state : DstRuntimeState) :
    DstRuntime :=
  { runtime with
    state := state
    attempts := saturatingAdd runtime.attempts request.attempt }.record request.command
      request.role request.action request.command.status

/-- Every method obeys as the states say, and refuses without a change otherwise. -/
theorem request_cases (runtime : DstRuntime) (request : RuntimeRequest) :
    (∃ state, runtime.state.after request.command = some state ∧
      runtime.request request = .ok (runtime.obeyed request state)) ∨
    runtime.state.after request.command = none ∧
      runtime.request request = .error (.invalidTransition runtime.state request.command) := by
  have unchanged := saturatingAdd_zero runtime.attempts
  cases request with
  | start =>
    simp only [DstRuntime.request, start, DstRuntimeState.after, RuntimeRequest.command, obeyed,
      RuntimeRequest.attempt, unchanged]
    by_cases allowed : runtime.state = .initialized ∨ runtime.state = .restarting
    · left
      rw [if_pos allowed, if_neg (by tauto)]
      exact ⟨.running, rfl, rfl⟩
    · right
      rw [if_neg allowed, if_pos (not_or.mp allowed)]
      exact ⟨rfl, rfl⟩
  | pause =>
    simp only [DstRuntime.request, pause, DstRuntimeState.after, RuntimeRequest.command, obeyed,
      RuntimeRequest.attempt, unchanged]
    by_cases allowed : runtime.state = .running
    · left
      rw [if_pos allowed, if_neg (not_not.mpr allowed)]
      exact ⟨.paused, rfl, rfl⟩
    · right
      rw [if_neg allowed, if_pos allowed]
      exact ⟨rfl, rfl⟩
  | resume =>
    simp only [DstRuntime.request, resume, DstRuntimeState.after, RuntimeRequest.command, obeyed,
      RuntimeRequest.attempt, unchanged]
    by_cases allowed : runtime.state = .paused
    · left
      rw [if_pos allowed, if_neg (not_not.mpr allowed)]
      exact ⟨.running, rfl, rfl⟩
    · right
      rw [if_neg allowed, if_pos allowed]
      exact ⟨rfl, rfl⟩
  | crash role reason =>
    simp only [DstRuntime.request, crash, DstRuntimeState.after, RuntimeRequest.command, obeyed,
      RuntimeRequest.attempt, unchanged]
    by_cases stopped : runtime.state = .completed ∨ runtime.state = .initialized
    · right
      rw [if_pos stopped, if_pos stopped]
      exact ⟨rfl, rfl⟩
    · left
      rw [if_neg stopped, if_neg stopped]
      exact ⟨.crashed, rfl, rfl⟩
  | restart role reason =>
    simp only [DstRuntime.request, restart, DstRuntimeState.after, RuntimeRequest.command, obeyed,
      RuntimeRequest.attempt, unchanged]
    by_cases allowed : runtime.state = .crashed
    · left
      rw [if_pos allowed, if_neg (not_not.mpr allowed)]
      exact ⟨.restarting, rfl, rfl⟩
    · right
      rw [if_neg allowed, if_pos allowed]
      exact ⟨rfl, rfl⟩
  | step role action attempt =>
    simp only [DstRuntime.request, takeStep, DstRuntimeState.after, RuntimeRequest.command, obeyed,
      RuntimeRequest.attempt]
    by_cases allowed : runtime.state = .running
    · left
      rw [if_pos allowed, if_neg (not_not.mpr allowed)]
      refine ⟨.running, rfl, ?_⟩
      rw [← allowed]
      rfl
    · right
      rw [if_neg allowed, if_pos allowed]
      exact ⟨rfl, rfl⟩
  | complete =>
    simp only [DstRuntime.request, complete, DstRuntimeState.after, RuntimeRequest.command, obeyed,
      RuntimeRequest.attempt, unchanged]
    exact .inl ⟨.completed, rfl, rfl⟩

/-! ### The timeline as a journal -/

def recover (runtime : DstRuntime) (event : RuntimeStepEvent) : RuntimeRequest :=
  match event.command with
  | .start => .start
  | .pause => .pause
  | .resume => .resume
  | .crash reason => .crash event.role reason
  | .restart reason => .restart event.role reason
  | .step => .step event.role (event.action.getD .spawn) (event.attempt - runtime.attempts)
  | .replay => .complete

def line (runtime : DstRuntime) (request : RuntimeRequest) : RuntimeStepEvent :=
  { index := runtime.step
    command := request.command
    role := request.role
    action := request.action
    virtualTimeNs :=
      min (runtime.virtualTimeNs + min (min (runtime.step + 1) u64Max * 1000) u64Max) u64Max
    attempt := saturatingAdd runtime.attempts request.attempt }

theorem obeyed_timeline (runtime : DstRuntime) (request : RuntimeRequest)
    (state : DstRuntimeState) :
    (runtime.obeyed request state).timeline = runtime.timeline ++ [runtime.line request] :=
  rfl

theorem recover_line (runtime : DstRuntime) (request : RuntimeRequest) :
    (runtime.recover (runtime.line request)).command = request.command ∧
      ∀ state, runtime.obeyed (runtime.recover (runtime.line request)) state =
        runtime.obeyed request state := by
  cases request with
  | step role action attempt =>
    refine ⟨rfl, ?_⟩
    intro state
    have again := saturatingAdd_again runtime.attempts attempt
    simp only [obeyed, recover, line, RuntimeRequest.command, RuntimeRequest.role,
      RuntimeRequest.action, RuntimeRequest.attempt, Option.getD_some, again]
  | start => exact ⟨rfl, fun _ => rfl⟩
  | pause => exact ⟨rfl, fun _ => rfl⟩
  | resume => exact ⟨rfl, fun _ => rfl⟩
  | crash role reason => exact ⟨rfl, fun _ => rfl⟩
  | restart role reason => exact ⟨rfl, fun _ => rfl⟩
  | complete => exact ⟨rfl, fun _ => rfl⟩

theorem request_ok_iff {runtime next : DstRuntime} {request : RuntimeRequest} :
    (runtime.request request).toOption = some next ↔
      ∃ state, runtime.state.after request.command = some state ∧
        next = runtime.obeyed request state := by
  rcases runtime.request_cases request with ⟨state, allowed, decided⟩ | ⟨refused, decided⟩
  · rw [decided, allowed]
    constructor
    · intro same
      exact ⟨state, rfl, (Option.some.inj same).symm⟩
    · intro ⟨other, same, result⟩
      rw [result, ← Option.some.inj same]
      rfl
  · rw [decided, refused]
    constructor
    · intro absurd
      cases absurd
    · intro ⟨_, absurd, _⟩
      cases absurd

theorem request_refused {runtime : DstRuntime} {request : RuntimeRequest}
    (refused : (runtime.request request).toOption = none) :
    runtime.state.after request.command = none := by
  rcases runtime.request_cases request with ⟨state, _, decided⟩ | ⟨forbidden, _⟩
  · rw [decided] at refused
    cases refused
  · exact forbidden

/-- A request that is refused leaves the runtime as it is. -/
def journal : Delivery.Journal DstRuntime RuntimeRequest RuntimeStepEvent where
  obey runtime request := (runtime.request request).toOption
  entries := timeline
  recover := recover
  written := by
    intro runtime next request moved
    obtain ⟨state, allowed, rfl⟩ := request_ok_iff.mp moved
    obtain ⟨command, same⟩ := runtime.recover_line request
    refine ⟨runtime.line request, rfl, ?_⟩
    rw [request_ok_iff, command]
    exact ⟨state, allowed, (same state).symm⟩

end DstRuntime

end Dst
