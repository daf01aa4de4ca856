/-
What the timeline and the trace of a runtime say of its run.
-/

import Mathlib.Data.List.ModifyLast
import Mathlib.Tactic.Ring
import Std.Data.String.ToNat
import Myelon.Dst.Runtime

namespace Dst

open Delivery (Journal)

namespace DstRuntime

/-- Whatever was asked of a new runtime, obeyed or not, its timeline read from the start leads to
the same runtime again. -/
theorem timeline_replayed (runId profileId : String) (seed : UInt64) (maxVirtualTimeNs : Nat)
    (requests : List RuntimeRequest) :
    journal.replay (new runId profileId seed maxVirtualTimeNs)
        (journal.serve (new runId profileId seed maxVirtualTimeNs) requests).timeline =
      some (journal.serve (new runId profileId seed maxVirtualTimeNs) requests) := by
  obtain ⟨added, lines, replayed⟩ :=
    journal.replay_serve requests (new runId profileId seed maxVirtualTimeNs)
  have all : (journal.serve (new runId profileId seed maxVirtualTimeNs) requests).timeline =
      added := lines
  rw [all]
  exact replayed

/-! ### The order of commands -/

def commands (runtime : DstRuntime) : List DstRuntimeCommand :=
  runtime.timeline.map RuntimeStepEvent.command

theorem obeyed_command {runtime next : DstRuntime} {request : RuntimeRequest}
    (moved : journal.obey runtime request = some next) :
    runtime.state.after request.command = some next.state ∧
      (journal.entries next).map RuntimeStepEvent.command =
        (journal.entries runtime).map RuntimeStepEvent.command ++ [request.command] := by
  obtain ⟨state, allowed, rfl⟩ := request_ok_iff.mp moved
  refine ⟨allowed, ?_⟩
  have lines := runtime.obeyed_timeline request state
  show (runtime.obeyed request state).timeline.map _ = runtime.timeline.map _ ++ _
  rw [lines, List.map_append]
  rfl

theorem follow_completed {later : List DstRuntimeCommand} {state : DstRuntimeState}
    (followed : Journal.follow DstRuntimeState.after .completed later = some state) :
    state = .completed ∧ ∀ command ∈ later, command = .replay := by
  induction later with
  | nil =>
    cases followed
    exact ⟨rfl, by simp⟩
  | cons command later ih =>
    rw [Journal.follow] at followed
    cases command with
    | replay =>
      obtain ⟨same, rest⟩ := ih followed
      refine ⟨same, ?_⟩
      intro command member
      rcases List.mem_cons.mp member with rfl | member
      · rfl
      · exact rest command member
    | start => cases followed
    | pause => cases followed
    | resume => cases followed
    | crash reason => cases followed
    | restart reason => cases followed
    | step => cases followed

/-- From a crash the way back to running leads over a restart and a start right after it. -/
theorem running_after_crash {between : List DstRuntimeCommand} {state : DstRuntimeState}
    (followed : Journal.follow DstRuntimeState.after state between = some .running) :
    (state = .crashed → ∃ reason, [.restart reason, .start] <:+: between) ∧
      (state = .restarting →
        [.start] <+: between ∨ ∃ reason, [.restart reason, .start] <:+: between) := by
  induction between generalizing state with
  | nil =>
    cases followed
    constructor
    · intro absurd
      cases absurd
    · intro absurd
      cases absurd
  | cons command later ih =>
    rw [Journal.follow] at followed
    constructor
    · intro crashed
      subst crashed
      cases command with
      | crash reason =>
        obtain ⟨why, inside⟩ := (ih followed).1 rfl
        exact ⟨why, List.infix_cons inside⟩
      | restart reason =>
        rcases (ih followed).2 rfl with next | ⟨why, inside⟩
        · exact ⟨reason, (List.prefix_cons_inj _ |>.mpr next).isInfix⟩
        · exact ⟨why, List.infix_cons inside⟩
      | replay => cases (follow_completed followed).1
      | start => cases followed
      | pause => cases followed
      | resume => cases followed
      | step => cases followed
    · intro restarting
      subst restarting
      cases command with
      | crash reason =>
        obtain ⟨why, inside⟩ := (ih followed).1 rfl
        exact .inr ⟨why, List.infix_cons inside⟩
      | start => exact .inl ⟨later, rfl⟩
      | replay => cases (follow_completed followed).1
      | restart reason => cases followed
      | pause => cases followed
      | resume => cases followed
      | step => cases followed

theorem step_running {state next : DstRuntimeState}
    (stepped : state.after .step = some next) : state = .running := by
  rw [DstRuntimeState.after] at stepped
  split at stepped
  case isTrue running => exact running
  case isFalse => cases stepped

theorem crash_leads {state next : DstRuntimeState} {reason : String}
    (entered : state.after (.crash reason) = some next) : next = .crashed := by
  rw [DstRuntimeState.after] at entered
  split at entered
  case isTrue => cases entered
  case isFalse => exact (Option.some.inj entered).symm

/-- The order in which a runtime obeys. A list of requests is obeyed throughout just when the
states allow its commands one after the other; what is refused leaves no line. After a crash there
is no step before a restart followed at once by a start, and after a completion there is nothing
but completions. -/
theorem runtime_lifecycle (runId profileId : String) (seed : UInt64) (maxVirtualTimeNs : Nat)
    (requests : List RuntimeRequest) :
    let runtime := journal.serve (new runId profileId seed maxVirtualTimeNs) requests
    Journal.follow DstRuntimeState.after .initialized runtime.commands = some runtime.state ∧
    (runtime.commands = requests.map RuntimeRequest.command ↔
      (Journal.follow DstRuntimeState.after .initialized
        (requests.map RuntimeRequest.command)).isSome) ∧
    (∀ before reason between later,
      runtime.commands = before ++ .crash reason :: between ++ .step :: later →
        ∃ why, [.restart why, .start] <:+: between) ∧
    ∀ before later, runtime.commands = before ++ .replay :: later →
      ∀ command ∈ later, command = .replay := by
  intro runtime
  have followed : Journal.follow DstRuntimeState.after .initialized runtime.commands =
      some runtime.state := by
    obtain ⟨words, wrote, followed⟩ := journal.follow_written obeyed_command requests
      (new runId profileId seed maxVirtualTimeNs)
    have all : runtime.commands = words := wrote
    rw [all]
    exact followed
  refine ⟨followed, journal.written_iff obeyed_command request_refused requests _, ?_, ?_⟩
  · intro before reason between later split
    rw [split, List.append_assoc, Journal.follow_append, Option.bind_eq_some_iff] at followed
    obtain ⟨reached, _, onward⟩ := followed
    rw [List.cons_append, Journal.follow, Option.bind_eq_some_iff] at onward
    obtain ⟨down, entered, onward⟩ := onward
    rw [Journal.follow_append, Option.bind_eq_some_iff] at onward
    obtain ⟨up, between, onward⟩ := onward
    rw [Journal.follow, Option.bind_eq_some_iff] at onward
    obtain ⟨_, stepped, _⟩ := onward
    have wasRunning : up = .running := step_running stepped
    have wasCrashed : down = .crashed := crash_leads entered
    rw [wasRunning] at between
    exact (running_after_crash between).1 wasCrashed
  · intro before later split
    rw [split, Journal.follow_append, Option.bind_eq_some_iff] at followed
    obtain ⟨reached, _, onward⟩ := followed
    exact (follow_completed onward).2

/-! ### The books of a run -/

def shown (index : Nat) (event : RuntimeStepEvent) : TraceEvent :=
  { step := index
    role := event.role
    action := event.action.getD .spawn
    status := event.command.status
    attempt := 0
    resource := "idx=" ++ toString event.index
    metadata := [] }

def clockAfter (lines : Nat) : Nat :=
  min (500 * (lines * (lines + 1))) u64Max

structure Accounted (runId profileId : String) (seed : UInt64) (maxVirtualTimeNs : Nat)
    (runtime : DstRuntime) : Prop where
  identity : runtime.runId = runId ∧ runtime.profileId = profileId ∧ runtime.seed = seed ∧
    runtime.maxVirtualTimeNs = maxVirtualTimeNs
  named : runtime.trace.runId = runId ∧ runtime.trace.profileId = profileId ∧
    runtime.trace.seed = seed
  step : runtime.step = min runtime.timeline.length u64Max
  clock : runtime.virtualTimeNs = clockAfter runtime.timeline.length
  lines : ∀ i event, runtime.timeline[i]? = some event →
    event.index = min i u64Max ∧ event.virtualTimeNs = clockAfter (i + 1)
  attempts : (runtime.timeline.map RuntimeStepEvent.attempt).Pairwise (· ≤ ·) ∧
    ∀ event ∈ runtime.timeline, event.attempt ≤ runtime.attempts
  traced : runtime.trace.events = runtime.timeline.mapIdx shown

theorem clockAfter_succ (lines : Nat) :
    min (clockAfter lines + min (min (min lines u64Max + 1) u64Max * 1000) u64Max) u64Max =
      clockAfter (lines + 1) := by
  have next : 500 * ((lines + 1) * (lines + 1 + 1)) = 500 * (lines * (lines + 1)) +
      (lines + 1) * 1000 := by ring
  rw [clockAfter, clockAfter, next]
  by_cases fits : lines < u64Max
  · omega
  · have large : u64Max ≤ 500 * (lines * (lines + 1)) := by
      calc u64Max ≤ lines := not_lt.mp fits
        _ ≤ lines * (lines + 1) := Nat.le_mul_of_pos_right lines (Nat.succ_pos lines)
        _ ≤ 500 * (lines * (lines + 1)) := Nat.le_mul_of_pos_left _ (by decide)
    omega

theorem Accounted.obeyed {runId profileId : String} {seed : UInt64} {maxVirtualTimeNs : Nat}
    {runtime : DstRuntime} (accounted : Accounted runId profileId seed maxVirtualTimeNs runtime)
    (request : RuntimeRequest) (state : DstRuntimeState) :
    Accounted runId profileId seed maxVirtualTimeNs (runtime.obeyed request state) := by
  have lines := runtime.obeyed_timeline request state
  have length : (runtime.obeyed request state).timeline.length = runtime.timeline.length + 1 := by
    rw [lines, List.length_append, List.length_singleton]
  have written :
      (runtime.line request).virtualTimeNs = clockAfter (runtime.timeline.length + 1) := by
    rw [← clockAfter_succ, ← accounted.clock, ← accounted.step]
    rfl
  constructor
  case identity => exact accounted.identity
  case named => exact accounted.named
  case step =>
    rw [length]
    show min (runtime.step + 1) u64Max = _
    rw [accounted.step]
    omega
  case clock =>
    rw [length, ← written]
    rfl
  case lines =>
    intro i event found
    rw [lines] at found
    rcases Nat.lt_or_ge i runtime.timeline.length with earlier | later
    · rw [List.getElem?_append_left earlier] at found
      exact accounted.lines i event found
    · rw [List.getElem?_append_right later, List.getElem?_singleton] at found
      split at found
      case isFalse => cases found
      case isTrue last =>
        have place : i = runtime.timeline.length := by omega
        rw [← Option.some.inj found, place]
        exact ⟨accounted.step, written⟩
  case attempts =>
    obtain ⟨sorted, bounded⟩ := accounted.attempts
    have grown : runtime.attempts ≤ (runtime.obeyed request state).attempts := by
      show runtime.attempts ≤ saturatingAdd runtime.attempts request.attempt
      have fits := runtime.attempts.toNat_lt
      rw [UInt32.le_iff_toNat_le, saturatingAdd_toNat]
      omega
    rw [lines, List.map_append]
    constructor
    · refine List.pairwise_append.mpr ⟨sorted, List.pairwise_singleton _ _, ?_⟩
      intro attempt member last isLast
      obtain ⟨event, among, rfl⟩ := List.mem_map.mp member
      rw [List.map_singleton, List.mem_singleton] at isLast
      rw [isLast]
      exact UInt32.le_trans (bounded event among) grown
    · intro event member
      rcases List.mem_append.mp member with earlier | last
      · exact UInt32.le_trans (bounded event earlier) grown
      · rw [List.mem_singleton.mp last]
        exact UInt32.le_refl _
  case traced =>
    rw [lines, List.mapIdx_concat, ← accounted.traced]
    have as_many : runtime.trace.events.length = runtime.timeline.length := by
      rw [accounted.traced, List.length_mapIdx]
    rw [← as_many]
    rfl

theorem accounted_new (runId profileId : String) (seed : UInt64) (maxVirtualTimeNs : Nat) :
    Accounted runId profileId seed maxVirtualTimeNs
      (new runId profileId seed maxVirtualTimeNs) := by
  constructor
  case identity => exact ⟨rfl, rfl, rfl, rfl⟩
  case named => exact ⟨rfl, rfl, rfl⟩
  case step => rfl
  case clock => rfl
  case lines =>
    intro i event absurd
    cases absurd
  case attempts => exact ⟨List.Pairwise.nil, by simp [new]⟩
  case traced => rfl

theorem accounted_serve (runId profileId : String) (seed : UInt64) (maxVirtualTimeNs : Nat)
    (requests : List RuntimeRequest) :
    Accounted runId profileId seed maxVirtualTimeNs
      (journal.serve (new runId profileId seed maxVirtualTimeNs) requests) := by
  apply journal.serve_keeps _ requests (accounted_new runId profileId seed maxVirtualTimeNs)
  intro runtime next request moved accounted
  obtain ⟨state, _, rfl⟩ := request_ok_iff.mp moved
  exact accounted.obeyed request state

/-- The books of every run. Line `i` has number `i` and the time `500 (i + 1) (i + 2)`, both as far
as their type goes, and the trace shows each line once, in its place. The attempts never go down,
and a runtime keeps its budget just when its lines are few enough. -/
theorem timeline_accounts (runId profileId : String) (seed : UInt64) (maxVirtualTimeNs : Nat)
    (requests : List RuntimeRequest) :
    let runtime := journal.serve (new runId profileId seed maxVirtualTimeNs) requests
    (∀ i event, runtime.timeline[i]? = some event →
      event.index = min i u64Max ∧ event.virtualTimeNs = clockAfter (i + 1) ∧
        runtime.trace.events[i]? = some (shown i event)) ∧
    runtime.trace.events.length = runtime.timeline.length ∧
    (runtime.timeline.map RuntimeStepEvent.attempt).Pairwise (· ≤ ·) ∧
    (runtime.enforceBudget runtime.virtualTimeNs = .ok () ↔
      clockAfter runtime.timeline.length ≤ maxVirtualTimeNs) := by
  intro runtime
  have accounted : Accounted runId profileId seed maxVirtualTimeNs runtime :=
    accounted_serve runId profileId seed maxVirtualTimeNs requests
  refine ⟨?_, ?_, accounted.attempts.1, ?_⟩
  · intro i event found
    obtain ⟨number, time⟩ := accounted.lines i event found
    refine ⟨number, time, ?_⟩
    rw [accounted.traced, List.getElem?_mapIdx, found]
    rfl
  · rw [accounted.traced, List.length_mapIdx]
  · rw [enforceBudget, accounted.identity.2.2.2, accounted.clock]
    by_cases exceeded : clockAfter runtime.timeline.length > maxVirtualTimeNs
    · rw [if_pos exceeded]
      constructor
      · intro absurd
        cases absurd
      · intro kept
        exact absurd kept (not_le.mpr exceeded)
    · rw [if_neg exceeded]
      exact ⟨fun _ => not_lt.mp exceeded, fun _ => rfl⟩

/-! ### Comparing finished runs -/

def visible (event : RuntimeStepEvent) : ProcessRole × SchedulerAction × TraceStatus :=
  (event.role, event.action.getD .spawn, event.command.status)

/-- What a finished trace adds to its last event. -/
def signed (runId profileId : String) (seed : UInt64) (event : TraceEvent) : TraceEvent :=
  { event with
    metadata := [("profile_id", profileId), ("run_id", runId), ("seed", toString seed.toNat)] }

theorem insertEntry_identity (runId profileId seed : String) :
    TraceArtifact.insertEntry "seed" seed
        (TraceArtifact.insertEntry "profile_id" profileId
          (TraceArtifact.insertEntry "run_id" runId [])) =
      [("profile_id", profileId), ("run_id", runId), ("seed", seed)] := by
  have profile_run : "profile_id" < "run_id" := by decide
  have seed_profile : ¬ "seed" < "profile_id" := by decide
  have seed_run : ¬ "seed" < "run_id" := by decide
  simp [TraceArtifact.insertEntry, profile_run, seed_profile, seed_run]

theorem intoTrace_events {runtime : DstRuntime} {before : List TraceEvent} {last : TraceEvent}
    (events : runtime.trace.events = before ++ [last]) (plain : last.metadata = []) :
    runtime.intoTrace.events =
      before ++ [signed runtime.runId runtime.profileId runtime.seed last] := by
  simp only [intoTrace, TraceArtifact.setMetadata, events, List.modifyLast_concat, plain,
    insertEntry_identity, signed]

theorem intoTrace_nil {runtime : DstRuntime} (events : runtime.trace.events = []) :
    runtime.intoTrace.events = [] := by
  simp only [intoTrace, TraceArtifact.setMetadata, events]
  rfl

def Indexed (timeline : List RuntimeStepEvent) : Prop :=
  ∀ i event, timeline[i]? = some event → event.index = min i u64Max

def rebuilt (i : Nat) (parts : ProcessRole × SchedulerAction × TraceStatus) : TraceEvent :=
  { step := i
    role := parts.1
    action := parts.2.1
    status := parts.2.2
    attempt := 0
    resource := "idx=" ++ toString (min i u64Max)
    metadata := [] }

theorem map_visible (timeline : List RuntimeStepEvent) :
    (timeline.mapIdx shown).map (fun event => (event.role, event.action, event.status)) =
      timeline.map visible := by
  apply List.ext_getElem?
  intro i
  rw [List.getElem?_map, List.getElem?_mapIdx, Option.map_map, List.getElem?_map]
  rfl

theorem mapIdx_shown {timeline : List RuntimeStepEvent} (indexed : Indexed timeline) :
    timeline.mapIdx shown = (timeline.map visible).mapIdx rebuilt := by
  apply List.ext_getElem?
  intro i
  rw [List.getElem?_mapIdx, List.getElem?_mapIdx, List.getElem?_map, Option.map_map]
  cases found : timeline[i]? with
  | none => rfl
  | some event =>
    simp only [Option.map_some, shown, indexed i event found]
    rfl

theorem shown_iff_visible {first second : List RuntimeStepEvent} (indexed : Indexed first)
    (indexedToo : Indexed second) :
    first.mapIdx shown = second.mapIdx shown ↔ first.map visible = second.map visible := by
  constructor
  · intro same
    rw [← map_visible, same, map_visible]
  · intro same
    rw [mapIdx_shown indexed, same, mapIdx_shown indexedToo]

theorem signed_inj {runId otherRunId profileId otherProfileId : String} {seed otherSeed : UInt64}
    {event other : TraceEvent} (plain : event.metadata = []) (plainToo : other.metadata = []) :
    signed runId profileId seed event = signed otherRunId otherProfileId otherSeed other ↔
      event = other ∧ (runId, profileId, seed) = (otherRunId, otherProfileId, otherSeed) := by
  constructor
  · intro same
    have bare : ∀ {base : TraceEvent} (runId profileId : String) (seed : UInt64),
        base.metadata = [] → { signed runId profileId seed base with metadata := [] } = base := by
      intro base runId profileId seed empty
      rw [signed, ← empty]
    have entries : (signed runId profileId seed event).metadata =
        (signed otherRunId otherProfileId otherSeed other).metadata := by
      rw [same]
    simp only [signed, List.cons.injEq, Prod.mk.injEq, true_and, and_true] at entries
    obtain ⟨sameProfile, sameRun, sameSeed⟩ := entries
    refine ⟨?_, ?_⟩
    · rw [← bare runId profileId seed plain, same, bare _ _ _ plainToo]
    · rw [sameRun, sameProfile, UInt64.toNat_inj.mp (Nat.repr_injective sameSeed)]
  · intro ⟨same, identity⟩
    simp only [Prod.mk.injEq] at identity
    rw [same, identity.1, identity.2.1, identity.2.2]

theorem intoTrace_cases {runId profileId : String} {seed : UInt64} {maxVirtualTimeNs : Nat}
    {runtime : DstRuntime} (accounted : Accounted runId profileId seed maxVirtualTimeNs runtime) :
    runtime.timeline = [] ∧ runtime.intoTrace.events = [] ∨
      ∃ before last, runtime.timeline = before ++ [last] ∧
        runtime.intoTrace.events =
          before.mapIdx shown ++ [signed runId profileId seed (shown before.length last)] := by
  have traced := accounted.traced
  rcases List.eq_nil_or_concat runtime.timeline with empty | ⟨before, last, lines⟩
  · rw [empty] at traced
    exact .inl ⟨empty, intoTrace_nil traced⟩
  · rw [lines, List.concat_eq_append, List.mapIdx_concat] at traced
    have finished := intoTrace_events traced rfl
    obtain ⟨sameRun, sameProfile, sameSeed, _⟩ := accounted.identity
    rw [sameRun, sameProfile, sameSeed] at finished
    exact .inr ⟨before, last, by rw [lines, List.concat_eq_append], finished⟩

/-- What a finished trace can tell. The traces of two runs compare as equal just when their lines
agree in role, action and crash, and, unless nothing was recorded, the runs had the same name,
profile and seed. Which command a line without an action stands for does not show, nor do
attempts. -/
theorem finished_traces_agree (debug : TraceEvent → String)
    (runId profileId : String) (seed : UInt64) (maxVirtualTimeNs : Nat)
    (requests : List RuntimeRequest)
    (otherRunId otherProfileId : String) (otherSeed : UInt64) (otherMaxVirtualTimeNs : Nat)
    (otherRequests : List RuntimeRequest) :
    let first := journal.serve (new runId profileId seed maxVirtualTimeNs) requests
    let second := journal.serve (new otherRunId otherProfileId otherSeed otherMaxVirtualTimeNs)
      otherRequests
    replayTrace debug first.intoTrace second.intoTrace = .ok () ↔
      first.timeline.map visible = second.timeline.map visible ∧
        (first.timeline = [] ∨
          (runId, profileId, seed) = (otherRunId, otherProfileId, otherSeed)) := by
  intro first second
  have accounted : Accounted runId profileId seed maxVirtualTimeNs first :=
    accounted_serve runId profileId seed maxVirtualTimeNs requests
  have accountedToo : Accounted otherRunId otherProfileId otherSeed otherMaxVirtualTimeNs second :=
    accounted_serve otherRunId otherProfileId otherSeed otherMaxVirtualTimeNs otherRequests
  have indexed : Indexed first.timeline := fun i event found => (accounted.lines i event found).1
  have indexedToo : Indexed second.timeline :=
    fun i event found => (accountedToo.lines i event found).1
  rw [replayTrace_ok_iff]
  rcases intoTrace_cases accounted with ⟨empty, events⟩ | ⟨before, last, lines, events⟩
  · rcases intoTrace_cases accountedToo with ⟨emptyToo, eventsToo⟩ | ⟨_, _, linesToo, eventsToo⟩
    · rw [empty, emptyToo, events, eventsToo]
      simp
    · rw [empty, linesToo, events, eventsToo]
      simp
  · rcases intoTrace_cases accountedToo with ⟨emptyToo, eventsToo⟩ |
      ⟨beforeToo, lastToo, linesToo, eventsToo⟩
    · rw [lines, emptyToo, events, eventsToo]
      simp
    · rw [← shown_iff_visible indexed indexedToo, lines, linesToo, events, eventsToo,
        List.mapIdx_concat, List.mapIdx_concat, List.append_singleton_inj,
        List.append_singleton_inj, signed_inj rfl rfl]
      simp only [List.append_eq_nil_iff, List.cons_ne_self, and_false, false_or, and_assoc]

end DstRuntime

end Dst
