/-
How the processes of a transport create a cursor, and attach to it.

A cursor is a segment of shared memory, or a file, with a layout header and one
value behind it. It is created in several steps, between which other processes may
take theirs. What the file system does to a segment is one action each.
-/

import Myelon.Delivery.Register
import Myelon.Interleaving.Execution

namespace Cursor

open Interleaving Delivery

abbrev ProcessId := Nat

/-- A segment under the name of the cursor. It is zero-filled when it is made. -/
structure Segment where
  /-- It has the length that header and value need. -/
  sized : Bool
  /-- The layout header of a cursor is in its place. -/
  layout : Bool
  payload : Int
  deriving DecidableEq

inductive Event where
  /-- A process made the segment, or emptied it. -/
  | created (process : ProcessId)
  | initialised (value : Int)
  /-- A process found a valid header. -/
  | attached (process : ProcessId)
  /-- An opening succeeded, as the owner of the segment or not. -/
  | returned (process : ProcessId) (owner : Bool)
  | accessed (access : Access)
  deriving DecidableEq

def Event.access? : Event → Option Access
  | .accessed access => some access
  | _ => none

def Event.passive : Event → Bool
  | .attached _ => true
  | .returned _ _ => true
  | _ => false

theorem Event.passive_access {event : Event} (passive : event.passive = true) :
    event.access? = none := by
  cases event with
  | accessed access => cases passive
  | _ => rfl

theorem Event.passive_created {event : Event} (passive : event.passive = true)
    (process : ProcessId) : event ≠ .created process := by
  intro same
  subst same
  cases passive

def Event.initialises : Event → Bool
  | .initialised _ => true
  | _ => false

structure World where
  segment : Option Segment
  events : List Event

namespace World

def initial : World := { segment := none, events := [] }

def record (world : World) (event : Event) : World :=
  { world with events := world.events ++ [event] }

def put (world : World) (segment : Segment) : World := { world with segment := some segment }

def accesses (world : World) : List Access := world.events.filterMap Event.access?

@[simp] theorem record_segment (world : World) (event : Event) :
    (world.record event).segment = world.segment := rfl

@[simp] theorem put_events (world : World) (segment : Segment) :
    (world.put segment).events = world.events := rfl

@[simp] theorem put_accesses (world : World) (segment : Segment) :
    (world.put segment).accesses = world.accesses := rfl

theorem put_self {world : World} {segment : Segment} (there : world.segment = some segment) :
    world.put segment = world := by
  unfold put
  rw [← there]

@[simp] theorem mem_record {world : World} {event other : Event} :
    other ∈ (world.record event).events ↔ other ∈ world.events ∨ other = event := by
  unfold record
  rw [List.mem_append, List.mem_singleton]

@[simp] theorem accesses_record (world : World) (event : Event) :
    (world.record event).accesses = world.accesses ++ event.access?.toList := by
  unfold accesses record
  rw [List.filterMap_append]
  cases event <;> rfl

end World

inductive Call where
  | load
  | store (value : Int)
  | fetchAdd (amount : Int)

inductive Action where
  /-- Create a segment, if there is none under the name. -/
  | create (process : ProcessId)
  /-- Open the file for creation, and truncate it. -/
  | openTruncated (process : ProcessId)
  | setLen
  | pathExists
  | openExisting
  | writeLayout
  | writeInitial (value : Int)
  | validateLayout (process : ProcessId)
  | returned (process : ProcessId) (owner : Bool)
  | nextCall
  | load
  | store (value : Int)
  | fetchAdd (amount : Int)

def Action.Result : Action → Type
  | .create _ => Bool
  | .pathExists => Bool
  | .openExisting => Bool
  | .writeLayout => Bool
  | .validateLayout _ => Bool
  | .nextCall => Call
  | .load => Int
  | .fetchAdd _ => Int
  | _ => Unit

abbrev signature : Signature := { Action, Result := Action.Result }

/-- An access to memory that the segment does not have kills the process. -/
def onSegment {α : Type} (world : World) (access : Segment → α × World) : Option (α × World) :=
  match world.segment with
  | some segment => if segment.sized = true then some (access segment) else none
  | none => none

/-- One step. The oracle is the call that the holder of a cursor makes next. -/
def perform : (action : Action) → Call → World → Option (action.Result × World)
  | .create process, _, world =>
      match world.segment with
      | some _ => some (false, world)
      | none => some (true, (world.put
          { sized := true
            layout := false
            payload := 0 }).record (.created process))
  | .openTruncated process, _, world =>
      some ((), (world.put
        { sized := false
          layout := false
          payload := 0 }).record (.created process))
  | .setLen, _, world =>
      world.segment.map fun segment =>
        ((), world.put
          { segment with
            sized := true })
  | .pathExists, _, world => some (world.segment.isSome, world)
  | .openExisting, _, world => some (world.segment.isSome, world)
  | .writeLayout, _, world =>
      world.segment.map fun segment =>
        if segment.sized = true then
          (true, world.put
            { segment with
              layout := true })
        else (false, world)
  | .writeInitial value, _, world =>
      onSegment world fun segment =>
        ((), (world.put
          { segment with
            payload := value }).record (.initialised value))
  | .validateLayout process, _, world =>
      world.segment.map fun segment =>
        if segment.sized = true ∧ segment.layout = true then
          (true, world.record (.attached process))
        else (false, world)
  | .returned process owner, _, world => some ((), world.record (.returned process owner))
  | .nextCall, call, world => some (call, world)
  | .load, _, world =>
      onSegment world fun segment =>
        (segment.payload, world.record (.accessed (.loaded segment.payload)))
  | .store value, _, world =>
      onSegment world fun segment =>
        ((), (world.put
          { segment with
            payload := value }).record (.accessed (.stored value)))
  | .fetchAdd amount, _, world =>
      onSegment world fun segment =>
        (segment.payload, (world.put
          { segment with
            payload := Register.wrappingAdd segment.payload amount }).record
          (.accessed (.added amount segment.payload)))

theorem perform_events {action : Action} {call : Call} {before after : World}
    {result : action.Result} (performed : perform action call before = some (result, after)) :
    before.events ⊆ after.events := by
  have recorded : ∀ event, before.events ⊆ before.events ++ [event] :=
    fun event => List.subset_append_left _ _
  cases action
  case create =>
    simp only [perform] at performed
    split at performed <;> cases performed
    · exact List.Subset.refl _
    · exact recorded _
  case openTruncated => cases performed; exact recorded _
  case pathExists => cases performed; exact List.Subset.refl _
  case openExisting => cases performed; exact List.Subset.refl _
  case nextCall => cases performed; exact List.Subset.refl _
  case returned => cases performed; exact recorded _
  case setLen =>
    simp only [perform, Option.map_eq_some_iff] at performed
    obtain ⟨segment, _placed, done⟩ := performed
    cases done
    exact List.Subset.refl _
  case writeLayout =>
    simp only [perform, Option.map_eq_some_iff] at performed
    obtain ⟨segment, _placed, done⟩ := performed
    split at done <;> cases done <;> exact List.Subset.refl _
  case validateLayout =>
    simp only [perform, Option.map_eq_some_iff] at performed
    obtain ⟨segment, _placed, done⟩ := performed
    split at done <;> cases done
    · exact recorded _
    · exact List.Subset.refl _
  all_goals
    simp only [perform, onSegment] at performed
    split at performed
    · split at performed <;> cases performed
      exact recorded _
    · cases performed

/-! ### Opening a cursor -/

/-- The private state of a process does not matter to the others. -/
abbrev Process := Routine signature Unit Unit

def act (action : Action) : Process action.Result :=
  @Routine.perform signature Unit Unit id action

abbrev Opened := Option Bool

/-- Map the segment, and validate its header. -/
def attach (process : ProcessId) : Process Opened := do
  let found : Bool ← act .openExisting
  if found = true then do
    let valid : Bool ← act (.validateLayout process)
    pure (if valid = true then some false else none)
  else pure none

/-- Write the header, and then the initial value behind it. -/
def initialise (initialValue : Int) : Process Opened := do
  let written : Bool ← act .writeLayout
  if written = true then do
    act (.writeInitial initialValue)
    pure (some true)
  else pure none

namespace SharedCursor

def new (process : ProcessId) (initialValue : Int) : Process Opened := do
  let created : Bool ← act (.create process)
  if created = true then initialise initialValue else pure none

/-- The creation fails where the segment exists, and then it is attached to. -/
def newOrAttach (process : ProcessId) (initialValue : Int) : Process Opened := do
  let created : Bool ← act (.create process)
  if created = true then initialise initialValue else attach process

end SharedCursor

namespace MmapCursor

def new (process : ProcessId) (create : Bool) (initialValue : Int) : Process Opened :=
  if create = true then do
    act (.openTruncated process)
    act .setLen
    initialise initialValue
  else attach process

def newOrAttach (process : ProcessId) (create : Bool) (initialValue : Int) :
    Process Opened := do
  let there : Bool ← act .pathExists
  if there = true then attach process else new process create initialValue

end MmapCursor

/-! ### The runs of several processes -/

def serve : Process Unit := do
  let call : Call ← act .nextCall
  match call with
  | .load => do
      let _ ← act .load
      pure ()
  | .store value => act (.store value)
  | .fetchAdd amount => do
      let _ ← act (.fetchAdd amount)
      pure ()

abbrev Code := Program signature Unit Unit

def holding (process : ProcessId) : Opened → Code
  | none => .done ()
  | some owner => .act () (.returned process owner) fun _ => Routine.forever serve ()

def code (process : ProcessId) (opening : Process Opened) : Code :=
  (opening ()).bind fun out => holding process out.1

def machine : Machine signature Unit ProcessId World :=
  { Oracle := Call
    perform
    restart := fun _ _ => none }

abbrev State := Configuration signature Unit ProcessId World

def start (opening : ProcessId → Process Opened) : State :=
  { program := fun process => code process (opening process)
    world := World.initial }

abbrev steps (process : ProcessId) (calls : List Call) :
    List (Move ProcessId machine.Oracle) := calls.map (Move.step process)

end Cursor
