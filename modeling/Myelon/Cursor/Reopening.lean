/-
Processes that all create the file of a cursor, or attach to it where it exists.

Between the test for the file and its creation another process may have created it,
and the creation empties what it finds. Where no creation does, there is one owner,
and what was stored stays.
-/

import Myelon.Cursor.Use

namespace Cursor

open Interleaving Delivery

variable {initialValue : Int}

def Event.owning : Event → Bool
  | .returned _ owner => owner
  | _ => false

namespace World

def owners (world : World) : Nat := world.events.countP Event.owning

@[simp] theorem put_owners (world : World) (segment : Segment) :
    (world.put segment).owners = world.owners := rfl

@[simp] theorem owners_record (world : World) (event : Event) :
    (world.record event).owners = world.owners + if event.owning = true then 1 else 0 := by
  unfold owners record
  rw [List.countP_append, List.countP_singleton]

end World

/-! ### The contract of a reopening -/

/-- No process truncates a file that exists, or writes the initial value where a value
has been stored. -/
def CreatesOnce : ProcessId → Unit → Action → World → Prop
  | _, _, .openTruncated _, world => world.segment = none
  | _, _, .writeInitial _, world => ∀ value, Access.stored value ∉ world.accesses
  | _, _, _, _ => True

def Owning (process : ProcessId) (world : World) : Prop :=
  .created process ∈ world.events ∧ world.owners = 0

structure Reopened (world : World) : Prop where
  untouched : world.segment = none → world.events = []
  creator : ∀ first second, .created first ∈ world.events → .created second ∈ world.events →
    first = second
  owners : world.owners ≤ 1
  lasting : ∀ before value rest, world.accesses = before ++ .stored value :: rest →
    ∃ segment, world.segment = some segment ∧ segment.payload = Register.value value rest

def reopeningGuarantee (process : ProcessId) (world : World) : Action → Prop
  | .create _ => False
  | .openTruncated creator => creator = process
  | .returned _ owner => world.segment ≠ none ∧ (owner = true → Owning process world)
  | _ => True

structure ReopeningRely (process : ProcessId) (before after : World) : Prop where
  there : before.segment ≠ none → after.segment ≠ none
  owning : Owning process before → Owning process after

theorem ReopeningRely.refl (process : ProcessId) (world : World) :
    ReopeningRely process world world := ⟨id, id⟩

theorem ReopeningRely.trans {process : ProcessId} {first second third : World}
    (left : ReopeningRely process first second) (right : ReopeningRely process second third) :
    ReopeningRely process first third where
  there := right.there ∘ left.there
  owning := right.owning ∘ left.owning

section Steps

variable {world : World}

theorem ReopeningRely.recorded {before after : World} {process : ProcessId}
    (more : before.events ⊆ after.events) (same : after.owners = before.owners)
    (there : after.segment ≠ none) : ReopeningRely process before after where
  there := fun _ => there
  owning := fun owning => ⟨more owning.1, same.trans owning.2⟩

theorem Reopened.put (reopened : Reopened world) {segment other : Segment}
    (there : world.segment = some segment) (same : other.payload = segment.payload) :
    Reopened (world.put other) where
  untouched := nofun
  creator := reopened.creator
  owners := reopened.owners
  lasting := by
    intro before value rest split
    obtain ⟨found, placed, payload⟩ := reopened.lasting before value rest split
    rw [there] at placed
    cases placed
    exact ⟨other, rfl, same.trans payload⟩

theorem Reopened.noted (reopened : Reopened world) {event : Event}
    (there : world.segment ≠ none) (passive : event.passive = true)
    (owners : (world.record event).owners ≤ 1) : Reopened (world.record event) where
  untouched := fun none => absurd none there
  creator := by
    intro first second atFirst atSecond
    have created := Event.passive_created passive
    refine reopened.creator first second ?_ ?_
    · exact (World.mem_record.mp atFirst).resolve_right (created first).symm
    · exact (World.mem_record.mp atSecond).resolve_right (created second).symm
  owners := owners
  lasting := by
    intro before value rest split
    rw [World.accesses_record, Event.passive_access passive, Option.toList_none,
      List.append_nil] at split
    exact reopened.lasting before value rest split

theorem Reopened.initialised (reopened : Reopened world) {segment : Segment} {value : Int}
    (unstored : ∀ value, Access.stored value ∉ world.accesses) :
    Reopened ((world.put segment).record (.initialised value)) where
  untouched := nofun
  creator := by
    intro first second atFirst atSecond
    refine reopened.creator first second ?_ ?_
    · exact (World.mem_record.mp atFirst).resolve_right nofun
    · exact (World.mem_record.mp atSecond).resolve_right nofun
  owners := by
    rw [World.owners_record]
    exact reopened.owners
  lasting := by
    intro before stored rest split
    rw [World.accesses_record, World.put_accesses] at split
    change world.accesses ++ [] = _ at split
    rw [List.append_nil] at split
    refine absurd ?_ (unstored stored)
    rw [split]
    exact List.mem_append_right _ List.mem_cons_self

theorem Reopened.accessed (reopened : Reopened world) {segment other : Segment}
    {access : Access} (there : world.segment = some segment)
    (left : other.payload = Register.after segment.payload access) :
    Reopened ((world.put other).record (.accessed access)) where
  untouched := nofun
  creator := by
    intro first second atFirst atSecond
    refine reopened.creator first second ?_ ?_
    · exact (World.mem_record.mp atFirst).resolve_right nofun
    · exact (World.mem_record.mp atSecond).resolve_right nofun
  owners := by
    rw [World.owners_record]
    exact reopened.owners
  lasting := by
    intro before stored rest split
    refine ⟨other, rfl, ?_⟩
    have grown : world.accesses ++ [access] = before ++ .stored stored :: rest := by
      rw [← split, World.accesses_record]
      rfl
    rcases List.eq_nil_or_concat rest with rfl | ⟨front, last, rfl⟩
    · have same := List.append_inj' grown rfl
      injection same.2 with same
      rw [left, same]
      rfl
    · rw [List.concat_eq_append, ← List.cons_append, ← List.append_assoc] at grown
      have both := List.append_inj' grown rfl
      obtain ⟨found, placed, payload⟩ := reopened.lasting before stored front both.1
      rw [there] at placed
      cases placed
      injection both.2 with same
      rw [left, payload, same, List.concat_eq_append, Register.value_snoc]

theorem owners_nil (empty : world.events = []) : world.owners = 0 := by
  unfold World.owners
  rw [empty]
  rfl

theorem Reopened.created (reopened : Reopened world) (none : world.segment = none)
    (segment : Segment) (process : ProcessId) :
    Reopened ((world.put segment).record (.created process)) := by
  have empty := reopened.untouched none
  have same : ∀ event, event ∈ ((world.put segment).record (.created process)).events →
      event = .created process := by
    intro event member
    rw [World.mem_record, World.put_events, empty] at member
    exact member.resolve_left List.not_mem_nil
  refine ⟨nofun, ?_, ?_, ?_⟩
  · intro first second atFirst atSecond
    cases same _ atFirst
    cases same _ atSecond
    rfl
  · rw [World.owners_record, World.put_owners, owners_nil empty]
    exact Nat.zero_le _
  · intro before value rest split
    have unused : ((world.put segment).record (.created process)).accesses = [] := by
      unfold World.accesses World.record World.put
      rw [empty]
      rfl
    rw [unused] at split
    cases before <;> cases split

theorem reopening_performed {before after : World} {process : ProcessId} {action : Action}
    {call : Call} {result : action.Result} (reopened : Reopened before)
    (met : CreatesOnce process () action before)
    (guaranteed : reopeningGuarantee process before action)
    (performed : perform action call before = some (result, after)) :
    Reopened after ∧ ∀ other, other ≠ process → ReopeningRely other before after := by
  have more := perform_events performed
  cases action
  case create => exact guaranteed.elim
  case openTruncated creator =>
    have empty := reopened.untouched met
    cases performed
    refine ⟨reopened.created met _ _,
      fun other _ => ⟨fun _ => Option.some_ne_none _, fun owning => ?_⟩⟩
    rw [Owning, empty] at owning
    exact absurd owning.1 List.not_mem_nil
  case returned returning owner =>
    obtain ⟨there, owns⟩ := guaranteed
    cases performed
    cases owner with
    | false =>
        have same : (before.record (.returned returning false)).owners = before.owners := by
          rw [World.owners_record]
          rfl
        exact ⟨reopened.noted there rfl (same.symm ▸ reopened.owners),
          fun other _ => ReopeningRely.recorded more same there⟩
    | true =>
        obtain ⟨created, unowned⟩ := owns rfl
        have one : (before.record (.returned returning true)).owners = 1 := by
          rw [World.owners_record, unowned]
          rfl
        refine ⟨reopened.noted there rfl (Nat.le_of_eq one), fun other different =>
          ⟨fun _ => there, fun owning => ?_⟩⟩
        exact absurd (reopened.creator other process owning.1 created) different
  case setLen =>
    simp only [perform, Option.map_eq_some_iff] at performed
    obtain ⟨segment, placed, done⟩ := performed
    cases done
    exact ⟨reopened.put placed rfl, fun other _ =>
      ReopeningRely.recorded more rfl (Option.some_ne_none _)⟩
  case writeLayout =>
    simp only [perform, Option.map_eq_some_iff] at performed
    obtain ⟨segment, placed, done⟩ := performed
    split at done <;> cases done
    · exact ⟨reopened.put placed rfl, fun other _ =>
        ReopeningRely.recorded more rfl (Option.some_ne_none _)⟩
    · exact ⟨reopened, fun other _ => ReopeningRely.refl other _⟩
  case validateLayout attacher =>
    simp only [perform, Option.map_eq_some_iff] at performed
    obtain ⟨segment, placed, done⟩ := performed
    have there : before.segment ≠ none := by
      rw [placed]
      exact Option.some_ne_none _
    split at done <;> cases done
    · have same : (before.record (.attached attacher)).owners = before.owners := by
        rw [World.owners_record]
        rfl
      exact ⟨reopened.noted there rfl (same.symm ▸ reopened.owners),
        fun other _ => ReopeningRely.recorded more same there⟩
    · exact ⟨reopened, fun other _ => ReopeningRely.refl other _⟩
  case writeInitial value =>
    simp only [perform, onSegment] at performed
    split at performed
    · split at performed <;> cases performed
      exact ⟨reopened.initialised met, fun other _ =>
        ReopeningRely.recorded more (by rw [World.owners_record]; rfl) (Option.some_ne_none _)⟩
    · cases performed
  case pathExists =>
    cases performed
    exact ⟨reopened, fun other _ => ReopeningRely.refl other _⟩
  case openExisting =>
    cases performed
    exact ⟨reopened, fun other _ => ReopeningRely.refl other _⟩
  case nextCall =>
    cases performed
    exact ⟨reopened, fun other _ => ReopeningRely.refl other _⟩
  case load =>
    simp only [perform, onSegment] at performed
    split at performed
    · rename_i segment placed
      split at performed <;> cases performed
      have kept : Reopened
          ((before.put segment).record (.accessed (.loaded segment.payload))) :=
        reopened.accessed placed rfl
      rw [World.put_self placed] at kept
      refine ⟨kept, fun other _ =>
        ReopeningRely.recorded more (by rw [World.owners_record]; rfl) ?_⟩
      exact fun none => absurd (placed.symm.trans none) (Option.some_ne_none _)
    · cases performed
  case store value =>
    simp only [perform, onSegment] at performed
    split at performed
    · rename_i segment placed
      split at performed <;> cases performed
      exact ⟨reopened.accessed placed rfl, fun other _ =>
        ReopeningRely.recorded more (by rw [World.owners_record]; rfl) (Option.some_ne_none _)⟩
    · cases performed
  case fetchAdd amount =>
    simp only [perform, onSegment] at performed
    split at performed
    · rename_i segment placed
      split at performed <;> cases performed
      exact ⟨reopened.accessed placed rfl, fun other _ =>
        ReopeningRely.recorded more (by rw [World.owners_record]; rfl) (Option.some_ne_none _)⟩
    · cases performed

end Steps

def reopeningContract : Contract machine where
  condition := CreatesOnce
  guarantee := fun process _ action world => reopeningGuarantee process world action
  invariant := Reopened
  rely := ReopeningRely
  relyRefl := ReopeningRely.refl
  relyTrans := ReopeningRely.trans
  performed := reopening_performed
  restarted := nofun

/-! ### What the processes do -/

section Triples

variable {process : ProcessId}

theorem reopening_lenient (process : ProcessId) : Lenient reopeningContract process where
  free := by
    intro action world free
    cases action <;> first | (cases free; done) | trivial
  there := ReopeningRely.there

def Opening (process : ProcessId) (opened : Opened) (world : World) : Prop :=
  Usable opened world ∧ (opened = some true → Owning process world)

theorem reattach_triple :
    reopeningContract.Triple process (fun _ _ => True) (attach process)
      (fun opened _ => Opening process opened) :=
  (reopening_lenient process).attach_triple.weaken
    (fun _ _ _ held => ⟨held.2, fun owns => absurd owns held.1⟩)

theorem owning_put {world : World} {segment : Segment} (owning : Owning process world) :
    Owning process (world.put segment) := owning

theorem reopen_triple (create : Bool) :
    reopeningContract.Triple process (fun _ _ => True)
      (MmapCursor.new process create initialValue) (fun opened _ => Opening process opened) := by
  unfold MmapCursor.new
  by_cases creates : create = true
  · rw [if_pos creates]
    refine Contract.Triple.through (fun _ _ => Owning process)
      (triple_act (fun _ _ _ _ => trivial) ?_) (fun _ => ?_)
    · intro world _ reopened none
      refine ⟨rfl, fun call result after performed => ?_⟩
      have empty := reopened.untouched none
      cases performed
      refine ⟨World.mem_record.mpr (.inr rfl), ?_⟩
      rw [World.owners_record, World.put_owners, owners_nil empty]
      rfl
    · refine Contract.Triple.bind ((reopening_lenient process).setLen_triple
        (fun _ _ relied => relied.owning) owning_put) (fun _ => ?_)
      refine ((reopening_lenient process).initialise_triple (Owning process)
        (fun _ _ relied => relied.owning) owning_put ?_).weaken
        (fun _ _ _ held => ⟨fun opened => (held opened).2,
          fun owns => (held (owns ▸ nofun)).1⟩)
      intro world owning _ _
      refine ⟨trivial, fun segment => ⟨World.mem_record.mpr (.inl owning.1), ?_⟩⟩
      rw [World.owners_record, World.put_owners, owning.2]
      rfl
  · rw [if_neg creates]
    exact reattach_triple

theorem newOrAttach_triple (create : Bool) :
    reopeningContract.Triple process (fun _ _ => True)
      (MmapCursor.newOrAttach process create initialValue)
      (fun opened _ => Opening process opened) := by
  refine Contract.Triple.bind ((reopening_lenient process).anytime rfl) (fun there => ?_)
  by_cases exists' : there = true
  · rw [if_pos exists']
    exact reattach_triple
  · rw [if_neg exists']
    exact reopen_triple create

end Triples

/-! ### Whole runs -/

theorem reopening_upheld (create : ProcessId → Bool) (initialValue : Int) :
    reopeningContract.Upheld
      (start fun process => MmapCursor.newOrAttach process (create process) initialValue) := by
  refine ⟨⟨fun _ => rfl, nofun, Nat.zero_le _, ?_⟩, ?_⟩
  · intro before value rest split
    cases before <;> cases split
  intro process fuel
  refine Contract.Safe.bind _
    (newOrAttach_triple (create process) () World.initial trivial fuel) ?_
  rintro ⟨opened, _self⟩ after ⟨usable, owns⟩ remaining _fewer
  refine (reopening_lenient process).holding_safe ?_ remaining
  rintro owner rfl before relied
  refine ⟨relied.there (usable nofun), fun owning => ?_⟩
  subst owning
  exact relied.owning (owns rfl)

/-- Where no file is truncated that exists, and no initial value overwrites a stored
one, there is at most one owner and no stored value is reset. -/
theorem reopening_keeps (create : ProcessId → Bool) (initialValue : Int)
    {moves : List (Move ProcessId machine.Oracle)} {after : State}
    (met : machine.Meets CreatesOnce
      (start fun process => MmapCursor.newOrAttach process (create process) initialValue) moves)
    (ran : machine.run
      (start fun process => MmapCursor.newOrAttach process (create process) initialValue)
      moves = some after) :
    after.world.owners ≤ 1 ∧
    ∀ before value rest, after.world.accesses = before ++ .stored value :: rest →
      ∃ segment, after.world.segment = some segment ∧
        segment.payload = Register.value value rest := by
  have upheld := (reopening_upheld create initialValue).run nofun met
    (Machine.accepts_always (fun _ _ _ _ _ => trivial) _ _) ran
  exact ⟨upheld.invariant.owners, upheld.invariant.lasting⟩

/-! ### A reopening in turn, and one that rolls a cursor back -/

section Example

abbrev reopening : State :=
  start fun process => MmapCursor.newOrAttach process true (-1)

def inTurn : List (Move ProcessId machine.Oracle) :=
  steps 0 [.load, .load, .load, .load, .load, .load] ++
  steps 1 [.load, .load, .load, .load, .load, .store 5, .load]

instance neverStored : (accesses : List Access) →
    Decidable (∀ value, Access.stored value ∉ accesses)
  | [] => .isTrue fun _ => List.not_mem_nil
  | .stored value :: _ => .isFalse fun none => none value List.mem_cons_self
  | .loaded _ :: rest =>
      @decidable_of_iff _ _ (by simp only [List.mem_cons, reduceCtorEq, false_or])
        (neverStored rest)
  | .added _ _ :: rest =>
      @decidable_of_iff _ _ (by simp only [List.mem_cons, reduceCtorEq, false_or])
        (neverStored rest)

instance (process : ProcessId) (self : Unit) (action : Action) (world : World) :
    Decidable (CreatesOnce process self action world) := by
  unfold CreatesOnce
  split <;> infer_instance

theorem reopening_keeps_inTurn : ∃ after, machine.run reopening inTurn = some after ∧
    after.world.accesses = [.stored 5] ∧ after.world.owners ≤ 1 := by
  have found : (machine.run reopening inTurn).any
      (fun after => decide (after.world.accesses = [.stored 5])) = true := by
    decide +kernel
  have checked : machine.checks CreatesOnce reopening inTurn = true := by
    decide +kernel
  obtain ⟨after, ran, stored⟩ := (Option.any_eq_true _ _).mp found
  exact ⟨after, ran, of_decide_eq_true stored,
    (reopening_keeps (fun _ => true) (-1) (Machine.meets_of_checks checked) ran).1⟩

/-- Both processes find no file. The first creates it and stores, and then the second
creates it once more. -/
def bothCreate : List (Move ProcessId machine.Oracle) :=
  steps 0 [.load] ++ steps 1 [.load] ++
  steps 0 [.load, .load, .load, .load, .load, .load, .store 5, .load] ++
  steps 1 [.load, .load, .load, .load, .load]

theorem reopening_rolls_back : ∃ after, machine.run reopening bothCreate = some after ∧
    after.world.owners = 2 ∧ after.world.accesses = [.stored 5] ∧
    after.world.segment.map Segment.payload = some (-1) := by
  have found : (machine.run reopening bothCreate).any (fun after =>
      decide (after.world.owners = 2 ∧ after.world.accesses = [.stored 5] ∧
        after.world.segment.map Segment.payload = some (-1))) = true := by
    decide +kernel
  obtain ⟨after, ran, rolled⟩ := (Option.any_eq_true _ _).mp found
  exact ⟨after, ran, of_decide_eq_true rolled⟩

end Example

end Cursor
