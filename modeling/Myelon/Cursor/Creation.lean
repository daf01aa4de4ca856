/-
Processes that attach to a cursor while it is being created.

The layout header becomes valid before the initial value is in its place. Where no
process makes use of that, the cursor is a register that starts with the initial
value, for all that attach to it.
-/

import Myelon.Cursor.Use

namespace Cursor

open Interleaving Delivery

variable {initialValue : Int}

/-! ### Who creates the cursor -/

inductive SharedOpening where
  | new
  | newOrAttach
  | attach
  deriving DecidableEq

/-- A segment of shared memory is created by whoever comes first. A file is created by
one process, and the others attach to it. -/
inductive Creation where
  | sharedMemory (opening : ProcessId → SharedOpening)
  | mmap (creator : ProcessId)

namespace Creation

def opening (creation : Creation) (initialValue : Int) (process : ProcessId) :
    Process Opened :=
  match creation with
  | .sharedMemory opening =>
      match opening process with
      | .new => SharedCursor.new process initialValue
      | .newOrAttach => SharedCursor.newOrAttach process initialValue
      | .attach => attach process
  | .mmap creator => MmapCursor.new process (decide (process = creator)) initialValue

end Creation

/-! ### The contract of a creation -/

/-- The initial value is in its place before anyone loads, stores or adds. -/
def UsedInitialised (initialValue : Int) : ProcessId → Unit → Action → World → Prop
  | _, _, .load, world => .initialised initialValue ∈ world.events
  | _, _, .store _, world => .initialised initialValue ∈ world.events
  | _, _, .fetchAdd _, world => .initialised initialValue ∈ world.events
  | _, _, _, _ => True

def Creating (initialValue : Int) (process : ProcessId) (world : World) : Prop :=
  .created process ∈ world.events ∧ .initialised initialValue ∉ world.events

/-- From the write of the initial value on, the cursor is a register. -/
structure Atomic (initialValue : Int) (world : World) : Prop where
  untouched : world.segment = none → world.events = []
  creator : ∀ first second, .created first ∈ world.events → .created second ∈ world.events →
    first = second
  unused : .initialised initialValue ∉ world.events → world.accesses = []
  register : .initialised initialValue ∈ world.events → ∃ segment,
    world.segment = some segment ∧
    segment.payload = Register.value initialValue world.accesses
  agrees : Register.Agrees initialValue world.accesses

def creationGuarantee (creation : Creation) (initialValue : Int) (process : ProcessId)
    (world : World) : Action → Prop
  | .create creator => creator = process ∧ ∀ sole, creation ≠ .mmap sole
  | .openTruncated creator =>
      creator = process ∧ creation = .mmap process ∧ world.segment = none
  | .writeInitial value => value = initialValue ∧ Creating initialValue process world
  | .returned _ _ => world.segment ≠ none
  | _ => True

structure CreationRely (creation : Creation) (initialValue : Int) (process : ProcessId)
    (before after : World) : Prop where
  there : before.segment ≠ none → after.segment ≠ none
  creating : Creating initialValue process before → Creating initialValue process after
  sole : creation = .mmap process → before.segment = none → after.segment = none

section Steps

variable {world : World} {creation : Creation}

theorem CreationRely.refl (world : World) (process : ProcessId) :
    CreationRely creation initialValue process world world :=
  ⟨id, id, fun _ => id⟩

theorem CreationRely.trans {process : ProcessId} {first second third : World}
    (left : CreationRely creation initialValue process first second)
    (right : CreationRely creation initialValue process second third) :
    CreationRely creation initialValue process first third where
  there := right.there ∘ left.there
  creating := right.creating ∘ left.creating
  sole := fun creates => right.sole creates ∘ left.sole creates

theorem CreationRely.of_events {before after : World} {process : ProcessId}
    (same : after.events = before.events) (there : after.segment ≠ none)
    (before_there : before.segment ≠ none) :
    CreationRely creation initialValue process before after where
  there := fun _ => there
  creating := fun creating => by
    unfold Creating
    rw [same]
    exact creating
  sole := fun _ none => absurd none before_there

theorem CreationRely.recorded {process : ProcessId} {event : Event} {before after : World}
    (same : after.events = (before.record event).events)
    (other : event.initialises = false) (there : after.segment ≠ none)
    (before_there : before.segment ≠ none) :
    CreationRely creation initialValue process before after where
  there := fun _ => there
  creating := fun creating => by
    unfold Creating
    rw [same, World.mem_record, World.mem_record]
    refine ⟨.inl creating.1, not_or.mpr ⟨creating.2, fun same => ?_⟩⟩
    rw [← same] at other
    cases other
  sole := fun _ none => absurd none before_there

theorem Atomic.put (atomic : Atomic initialValue world) {segment other : Segment}
    (there : world.segment = some segment) (same : other.payload = segment.payload) :
    Atomic initialValue (world.put other) where
  untouched := nofun
  creator := atomic.creator
  unused := atomic.unused
  register := fun initialised => by
    obtain ⟨found, placed, payload⟩ := atomic.register initialised
    rw [there] at placed
    cases placed
    exact ⟨other, rfl, same.trans payload⟩
  agrees := atomic.agrees

theorem Atomic.created (atomic : Atomic initialValue world) (none : world.segment = none)
    (segment : Segment) (process : ProcessId) :
    Atomic initialValue ((world.put segment).record (.created process)) := by
  have empty := atomic.untouched none
  have same : ∀ event, event ∈ ((world.put segment).record (.created process)).events →
      event = .created process := by
    intro event member
    rw [World.mem_record, World.put_events, empty] at member
    exact member.resolve_left List.not_mem_nil
  have unused : ((world.put segment).record (.created process)).accesses = [] := by
    unfold World.accesses World.record World.put
    rw [empty]
    rfl
  refine ⟨nofun, ?_, fun _ => unused, fun member => ?_, ?_⟩
  · intro first second atFirst atSecond
    cases same _ atFirst
    cases same _ atSecond
    rfl
  · cases same _ member
  · rw [unused]
    exact throughout_nil

theorem Atomic.initialised (atomic : Atomic initialValue world) {segment : Segment}
    (uninitialised : .initialised initialValue ∉ world.events) :
    Atomic initialValue ((world.put
      { segment with
        payload := initialValue }).record (.initialised initialValue)) := by
  have unused := atomic.unused uninitialised
  have same : ((world.put
      { segment with
        payload := initialValue }).record (.initialised initialValue)).accesses = [] := by
    rw [World.accesses_record, World.put_accesses, unused]
    rfl
  refine ⟨nofun, ?_, fun _ => same, fun _ => ⟨_, rfl, by rw [same]; rfl⟩,
    by rw [same]; exact throughout_nil⟩
  intro first second atFirst atSecond
  refine atomic.creator first second ?_ ?_
  · exact (World.mem_record.mp atFirst).resolve_right nofun
  · exact (World.mem_record.mp atSecond).resolve_right nofun

theorem Atomic.noted (atomic : Atomic initialValue world) {event : Event}
    (there : world.segment ≠ none) (passive : event.passive = true) :
    Atomic initialValue (world.record event) := by
  have quiet := Event.passive_access passive
  have created := Event.passive_created passive
  have initialised : event ≠ .initialised initialValue := by
    intro same
    subst same
    cases passive
  have same : (world.record event).accesses = world.accesses := by
    rw [World.accesses_record, quiet, Option.toList_none, List.append_nil]
  constructor
  · exact fun none => absurd none there
  · intro first second atFirst atSecond
    refine atomic.creator first second ?_ ?_
    · exact (World.mem_record.mp atFirst).resolve_right (created first).symm
    · exact (World.mem_record.mp atSecond).resolve_right (created second).symm
  · intro absent
    rw [same]
    exact atomic.unused fun member => absent (World.mem_record.mpr (.inl member))
  · intro member
    rw [same]
    exact atomic.register ((World.mem_record.mp member).resolve_right initialised.symm)
  · rw [same]
    exact atomic.agrees

theorem Atomic.accessed (atomic : Atomic initialValue world) {segment other : Segment}
    {access : Access} (initialised : .initialised initialValue ∈ world.events)
    (there : world.segment = some segment) (returns : Register.Returns segment.payload access)
    (left : other.payload = Register.after segment.payload access) :
    Atomic initialValue ((world.put other).record (.accessed access)) := by
  obtain ⟨found, placed, payload⟩ := atomic.register initialised
  rw [there] at placed
  cases placed
  have kept : Event.initialised initialValue ∈
      ((world.put other).record (.accessed access)).events :=
    World.mem_record.mpr (.inl initialised)
  have grown : ((world.put other).record (.accessed access)).accesses =
      world.accesses ++ [access] := World.accesses_record _ _
  refine ⟨nofun, ?_, fun absent => absurd kept absent, fun _ => ⟨other, rfl, ?_⟩, ?_⟩
  · intro first second atFirst atSecond
    refine atomic.creator first second ?_ ?_
    · exact (World.mem_record.mp atFirst).resolve_right nofun
    · exact (World.mem_record.mp atSecond).resolve_right nofun
  · rw [grown, Register.value_snoc, ← payload]
    exact left
  · rw [grown]
    rw [payload] at returns
    exact throughout_snoc.mpr ⟨atomic.agrees, returns⟩

theorem creation_performed {before after : World} {process : ProcessId} {action : Action}
    {call : Call} {result : action.Result} (atomic : Atomic initialValue before)
    (met : UsedInitialised initialValue process () action before)
    (guaranteed : creationGuarantee creation initialValue process before action)
    (performed : perform action call before = some (result, after)) :
    Atomic initialValue after ∧ ∀ other, other ≠ process →
      CreationRely creation initialValue other before after := by
  cases placed : before.segment with
  | none =>
      have empty := atomic.untouched placed
      have uncreated : ∀ other, ¬ Creating initialValue other before := by
        intro other creating
        rw [Creating, empty] at creating
        exact List.not_mem_nil creating.1
      cases action
      case create creator =>
        simp only [perform, placed] at performed
        cases performed
        exact ⟨atomic.created placed _ _, fun other different =>
          ⟨fun _ => Option.some_ne_none _, fun creating => absurd creating (uncreated other),
            fun sole => absurd sole (guaranteed.2 other)⟩⟩
      case openTruncated creator =>
        cases performed
        refine ⟨atomic.created placed _ _, fun other different =>
          ⟨fun _ => Option.some_ne_none _, fun creating => absurd creating (uncreated other),
            fun sole => ?_⟩⟩
        have same := sole.symm.trans guaranteed.2.1
        injection same with same
        exact absurd same different
      case writeInitial value => exact absurd guaranteed.2 (uncreated process)
      case returned => exact absurd placed guaranteed
      all_goals simp only [perform, onSegment, placed] at performed
      all_goals cases performed
      all_goals exact ⟨atomic, fun other _ => CreationRely.refl _ other⟩
  | some segment =>
      have there : before.segment ≠ none := by
        rw [placed]
        exact Option.some_ne_none _
      cases action
      case create creator =>
        simp only [perform, placed] at performed
        cases performed
        exact ⟨atomic, fun other _ => CreationRely.refl _ other⟩
      case openTruncated creator => exact absurd guaranteed.2.2 there
      case setLen =>
        simp only [perform, placed] at performed
        cases performed
        exact ⟨atomic.put placed rfl, fun other _ =>
          CreationRely.of_events rfl (Option.some_ne_none _) there⟩
      case writeLayout =>
        simp only [perform, placed, Option.map_some] at performed
        split at performed <;> cases performed
        · exact ⟨atomic.put placed rfl,
            fun other _ => CreationRely.of_events rfl (Option.some_ne_none _) there⟩
        · exact ⟨atomic, fun other _ => CreationRely.refl _ other⟩
      case writeInitial value =>
        obtain ⟨rfl, created, uninitialised⟩ := guaranteed
        simp only [perform, onSegment, placed] at performed
        split at performed <;> cases performed
        refine ⟨atomic.initialised uninitialised, fun other different =>
          ⟨fun _ => Option.some_ne_none _, fun creating => ?_, fun _ none => absurd none there⟩⟩
        exact absurd (atomic.creator other process creating.1 created) different
      case validateLayout attacher =>
        simp only [perform, placed, Option.map_some] at performed
        split at performed <;> cases performed
        · exact ⟨atomic.noted there rfl,
            fun other _ => CreationRely.recorded rfl rfl there there⟩
        · exact ⟨atomic, fun other _ => CreationRely.refl _ other⟩
      case returned returning owner =>
        cases performed
        exact ⟨atomic.noted there rfl,
          fun other _ => CreationRely.recorded rfl rfl there there⟩
      case load =>
        simp only [perform, onSegment, placed] at performed
        split at performed <;> cases performed
        have kept : Atomic initialValue
            ((before.put segment).record (.accessed (.loaded segment.payload))) :=
          atomic.accessed met placed rfl rfl
        rw [World.put_self placed] at kept
        exact ⟨kept, fun other _ => CreationRely.recorded rfl rfl there there⟩
      case store value =>
        simp only [perform, onSegment, placed] at performed
        split at performed <;> cases performed
        exact ⟨atomic.accessed met placed trivial rfl,
          fun other _ => CreationRely.recorded rfl rfl (Option.some_ne_none _) there⟩
      case fetchAdd amount =>
        simp only [perform, onSegment, placed] at performed
        split at performed <;> cases performed
        exact ⟨atomic.accessed met placed rfl rfl,
          fun other _ => CreationRely.recorded rfl rfl (Option.some_ne_none _) there⟩
      all_goals simp only [perform] at performed
      all_goals cases performed
      all_goals exact ⟨atomic, fun other _ => CreationRely.refl _ other⟩

end Steps

def creationContract (creation : Creation) (initialValue : Int) : Contract machine where
  condition := UsedInitialised initialValue
  guarantee := fun process _ action world =>
    creationGuarantee creation initialValue process world action
  invariant := Atomic initialValue
  rely := CreationRely creation initialValue
  relyRefl := fun process world => CreationRely.refl world process
  relyTrans := CreationRely.trans
  performed := creation_performed
  restarted := nofun

/-! ### What the processes do -/

abbrev CreationTriple {α : Type} (creation : Creation) (initialValue : Int)
    (process : ProcessId) (pre : World → Prop) (routine : Process α)
    (post : α → World → Prop) : Prop :=
  (creationContract creation initialValue).Triple process (fun _ => pre) routine
    (fun value _ => post value)

section Triples

variable {creation : Creation} {process : ProcessId}

theorem creation_lenient (creation : Creation) (initialValue : Int) (process : ProcessId) :
    Lenient (creationContract creation initialValue) process where
  free := by
    intro action world free
    cases action <;> first | (cases free; done) | trivial
  there := CreationRely.there

theorem creator_triple :
    CreationTriple creation initialValue process (Creating initialValue process)
      (initialise initialValue) Usable := by
  have lenient := creation_lenient creation initialValue process
  refine (lenient.initialise_triple (fun _ => True) (fun _ _ relied => relied.creating) id
    ?_).weaken (fun _ _ _ held opened => (held opened).2)
  intro world creating _ _
  exact ⟨⟨rfl, creating⟩, fun _ => trivial⟩

theorem attacher_triple :
    CreationTriple creation initialValue process (fun _ => True) (attach process) Usable :=
  (creation_lenient creation initialValue process).attach_triple.weaken
    (fun _ _ _ held => held.2)

theorem create_triple (shared : ∀ sole, creation ≠ .mmap sole) {existing : Process Opened}
    (falls : CreationTriple creation initialValue process (fun _ => True) existing
      Usable) :
    CreationTriple creation initialValue process (fun _ => True)
      (do
        let created : Bool ← act (.create process)
        if created = true then initialise initialValue else existing)
      Usable := by
  refine Contract.Triple.through (fun (created : Bool) _ world =>
    created = true → Creating initialValue process world)
    (triple_act (fun _ _ _ _ => trivial) ?_) (fun created => ?_)
  · intro world _ atomic _
    refine ⟨⟨rfl, shared⟩, fun call result after performed succeeded => ?_⟩
    subst succeeded
    simp only [perform] at performed
    split at performed
    · cases performed
    · rename_i none
      cases performed
      have empty := atomic.untouched none
      refine ⟨World.mem_record.mpr (.inr rfl), fun member => ?_⟩
      rw [World.mem_record, World.put_events, empty] at member
      rcases member with impossible | impossible
      · exact List.not_mem_nil impossible
      · cases impossible
  · by_cases succeeded : created = true
    · rw [if_pos succeeded]
      exact creator_triple.strengthen (fun _ _ held => held succeeded)
    · rw [if_neg succeeded]
      exact falls.strengthen (fun _ _ _ => trivial)

theorem failed_triple :
    CreationTriple creation initialValue process (fun _ => True) (pure none)
      Usable :=
  Contract.Triple.pure _ (fun _ _ _ opened => absurd rfl opened)

/-- The only creator of a file finds none. -/
theorem openTruncated_triple (sole : creation = .mmap process) :
    CreationTriple creation initialValue process (fun world => world.segment = none)
      (MmapCursor.new process true initialValue) Usable := by
  refine Contract.Triple.through (fun _ _ => Creating initialValue process)
    (triple_act (fun _ _ relied => relied.sole sole) ?_) (fun _ => ?_)
  · intro world none atomic _
    refine ⟨⟨rfl, sole, none⟩, fun call result after performed => ?_⟩
    have empty := atomic.untouched none
    cases performed
    refine ⟨World.mem_record.mpr (.inr rfl), fun member => ?_⟩
    rw [World.mem_record, World.put_events, empty] at member
    exact member.elim List.not_mem_nil nofun
  · exact Contract.Triple.bind
      ((creation_lenient creation initialValue process).setLen_triple
        (fun _ _ relied => relied.creating) id) (fun _ => creator_triple)

theorem opening_triple (creation : Creation) (initialValue : Int) (process : ProcessId) :
    CreationTriple creation initialValue process (fun world => world.segment = none)
      (creation.opening initialValue process) Usable := by
  cases creation with
  | sharedMemory opening =>
      have shared : ∀ sole, Creation.sharedMemory opening ≠ .mmap sole := nofun
      unfold Creation.opening
      dsimp only
      cases opening process with
      | new => exact (create_triple shared failed_triple).strengthen (fun _ _ _ => trivial)
      | newOrAttach =>
          exact (create_triple shared attacher_triple).strengthen (fun _ _ _ => trivial)
      | attach => exact attacher_triple.strengthen (fun _ _ _ => trivial)
  | mmap creator =>
      unfold Creation.opening
      by_cases sole : process = creator
      · subst sole
        simp only [decide_true]
        exact openTruncated_triple rfl
      · simp only [sole, decide_false]
        exact attacher_triple.strengthen (fun _ _ _ => trivial)

end Triples

/-! ### Whole runs -/

theorem creation_upheld (creation : Creation) (initialValue : Int) :
    (creationContract creation initialValue).Upheld (start (creation.opening initialValue)) := by
  refine ⟨⟨fun _ => rfl, nofun, fun _ => rfl, nofun, throughout_nil⟩, ?_⟩
  intro process fuel
  refine Contract.Safe.bind _
    (opening_triple creation initialValue process () World.initial rfl fuel) ?_
  intro out after usable remaining _fewer
  refine (creation_lenient creation initialValue process).holding_safe ?_ remaining
  intro owner opened before relied
  rw [opened] at usable
  exact relied.there (usable nofun)

/-- Where the cursor is not used before its initial value is written, all accesses see
one register that starts with that value, and none of them is lost. -/
theorem creation_atomic (creation : Creation) (initialValue : Int)
    {moves : List (Move ProcessId machine.Oracle)} {after : State}
    (met : machine.Meets (UsedInitialised initialValue)
      (start (creation.opening initialValue)) moves)
    (ran : machine.run (start (creation.opening initialValue)) moves = some after) :
    Register.Agrees initialValue after.world.accesses ∧
    (after.world.accesses ≠ [] → ∃ segment, after.world.segment = some segment ∧
      segment.payload = Register.value initialValue after.world.accesses) := by
  have upheld := (creation_upheld creation initialValue).run nofun met
    (Machine.accepts_always (fun _ _ _ _ _ => trivial) _ _) ran
  refine ⟨upheld.invariant.agrees, fun used => upheld.invariant.register ?_⟩
  apply Classical.byContradiction
  intro uninitialised
  exact used (upheld.invariant.unused uninitialised)

/-! ### A creation that is seen through, and one that is seen too early -/

section Example

def oneCreator : Creation :=
  .sharedMemory fun process => if process = 0 then .new else .attach

/-- The creator is done before the other process attaches and adds to the cursor. -/
def attachesInTime : List (Move ProcessId machine.Oracle) :=
  steps 0 [.load, .load, .load, .load] ++
  steps 1 [.load, .load, .load, .load, .fetchAdd 1, .load]

instance (initialValue : Int) (process : ProcessId) (self : Unit) (action : Action)
    (world : World) : Decidable (UsedInitialised initialValue process self action world) := by
  unfold UsedInitialised
  split <;> infer_instance

theorem creation_atomic_inTime : ∃ after,
    machine.run (start (oneCreator.opening (-1))) attachesInTime = some after ∧
    after.world.accesses = [.added 1 (-1)] ∧ Register.Agrees (-1) after.world.accesses := by
  have found : (machine.run (start (oneCreator.opening (-1))) attachesInTime).any
      (fun after => decide (after.world.accesses = [.added 1 (-1)])) = true := by
    decide +kernel
  have checked : machine.checks (UsedInitialised (-1)) (start (oneCreator.opening (-1)))
      attachesInTime = true := by
    decide +kernel
  obtain ⟨after, ran, accessed⟩ := (Option.any_eq_true _ _).mp found
  refine ⟨after, ran, of_decide_eq_true accessed, ?_⟩
  exact (creation_atomic oneCreator (-1) (Machine.meets_of_checks checked) ran).1

/-- The other process finds a valid header before the initial value is written, adds to
the zero that it finds, and the creator wipes out what it added. -/
def attachesEarly : List (Move ProcessId machine.Oracle) :=
  steps 0 [.load, .load] ++
  steps 1 [.load, .load, .load, .load, .fetchAdd 1, .load] ++
  steps 0 [.load]

theorem creation_seen_early : ∃ after,
    machine.run (start (oneCreator.opening (-1))) attachesEarly = some after ∧
    .attached 1 ∈ after.world.events ∧ after.world.accesses = [.added 1 0] ∧
    ¬ Register.Agrees (-1) after.world.accesses ∧
    after.world.segment.map Segment.payload = some (-1) ∧
    Register.value (-1) after.world.accesses = 0 := by
  have found : (machine.run (start (oneCreator.opening (-1))) attachesEarly).any
      (fun after => decide (.attached 1 ∈ after.world.events ∧
        after.world.accesses = [.added 1 0] ∧
        after.world.segment.map Segment.payload = some (-1))) = true := by
    decide +kernel
  obtain ⟨after, ran, seen⟩ := (Option.any_eq_true _ _).mp found
  obtain ⟨attached, accessed, wiped⟩ := of_decide_eq_true seen
  refine ⟨after, ran, attached, accessed, ?_, wiped, ?_⟩
  · rw [accessed]
    intro agrees
    have returned : (0 : Int) = -1 := agrees [] (.added 1 0) [] rfl
    cases returned
  · rw [accessed]
    decide

end Example

end Cursor
