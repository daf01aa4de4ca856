/-
What a reader of a numbered stream does over all of its incarnations.

A reader takes values in order and commits how far it has come. After a crash it
goes on behind what it committed, so it takes again what it had read but not
committed, and nothing else. The log of a reader says all of this: where it
stands can be computed from the log, and every event has to fit where it stands.
-/

import Mathlib.Data.List.Induction

namespace Delivery

inductive Event (Value Output : Type) where
  | read (sequence : Int) (value : Value)
  /-- A value that was read, and is still held, is looked at once more. -/
  | reread (sequence : Int) (value : Value)
  | commit (sequence : Int)
  | handOver (output : Output)
  | crash

variable {Value Output : Type}

structure Position where
  committed : Int
  next : Int
  deriving DecidableEq

namespace Position

def start : Position := { committed := -1, next := 0 }

def after (position : Position) : Event Value Output → Position
  | .read sequence _ => { position with next := sequence + 1 }
  | .reread _ _ => position
  | .commit sequence => { position with committed := sequence }
  | .handOver _ => position
  | .crash => { position with next := position.committed + 1 }

def Idle (position : Position) : Prop := position.next = position.committed + 1

end Position

def position (log : List (Event Value Output)) : Position :=
  log.foldl Position.after .start

@[simp] theorem position_nil : position ([] : List (Event Value Output)) = .start := rfl

@[simp] theorem position_snoc (log : List (Event Value Output)) (event : Event Value Output) :
    position (log ++ [event]) = (position log).after event := by
  simp only [position, List.foldl_append, List.foldl_cons, List.foldl_nil]

namespace Event

/-- What an event may be where the reader stands, without regard to values. -/
def Ordered (position : Position) : Event Value Output → Prop
  | .read sequence _ => sequence = position.next
  | .reread sequence _ => position.committed < sequence ∧ sequence < position.next
  | .commit sequence => position.committed < sequence ∧ sequence + 1 = position.next
  | .handOver _ => True
  | .crash => True

/-- A value that was read is the one the stream has under its number. -/
def Genuine (stream : List Value) : Event Value Output → Prop
  | .read sequence value => 0 ≤ sequence ∧ stream[sequence.toNat]? = some value
  | .reread sequence value => 0 ≤ sequence ∧ stream[sequence.toNat]? = some value
  | _ => True

theorem Genuine.append {stream : List Value} {event : Event Value Output}
    (genuine : event.Genuine stream) (more : List Value) :
    event.Genuine (stream ++ more) := by
  have kept : ∀ {number : Nat} {value : Value}, stream[number]? = some value →
      (stream ++ more)[number]? = some value := by
    intro number value found
    rw [List.getElem?_append_left (List.getElem?_eq_some_iff.mp found).1]
    exact found
  cases event with
  | read sequence value => exact ⟨genuine.1, kept genuine.2⟩
  | reread sequence value => exact ⟨genuine.1, kept genuine.2⟩
  | commit sequence => trivial
  | handOver output => trivial
  | crash => trivial

end Event

/-! ### Logs whose events all fit -/

theorem snoc_split {Item : Type} {log before rest : List Item} {item last : Item} :
    log ++ [last] = before ++ item :: rest ↔
      (rest = [] ∧ log = before ∧ last = item) ∨
        ∃ more, rest = more ++ [last] ∧ log = before ++ item :: more := by
  constructor
  · intro same
    rcases List.eq_nil_or_concat rest with rfl | ⟨more, final, rfl⟩
    · obtain ⟨rfl, single⟩ := List.append_inj' same rfl
      cases single
      exact .inl ⟨rfl, rfl, rfl⟩
    · rw [List.concat_eq_append, ← List.cons_append, ← List.append_assoc] at same
      obtain ⟨front, single⟩ := List.append_inj' same rfl
      cases single
      exact .inr ⟨more, List.concat_eq_append, front⟩
  · intro either
    rcases either with ⟨rfl, rfl, rfl⟩ | ⟨more, rfl, rfl⟩
    · rfl
    · rw [List.append_assoc, List.cons_append]

/-- Every event of the log meets a predicate of the log before it. -/
def Throughout {Item : Type} (fits : List Item → Item → Prop) (log : List Item) : Prop :=
  ∀ before item rest, log = before ++ item :: rest → fits before item

theorem throughout_nil {Item : Type} {fits : List Item → Item → Prop} :
    Throughout fits [] := by
  intro before item rest same
  cases before <;> cases same

theorem throughout_snoc {Item : Type} {fits : List Item → Item → Prop} {log : List Item}
    {item : Item} : Throughout fits (log ++ [item]) ↔ Throughout fits log ∧ fits log item := by
  constructor
  · intro all
    refine ⟨fun before other rest same => ?_, all log item [] rfl⟩
    exact all before other (rest ++ [item]) (by rw [same, List.append_assoc, List.cons_append])
  · rintro ⟨all, last⟩ before other rest same
    rcases snoc_split.mp same with ⟨rfl, rfl, rfl⟩ | ⟨start, rfl, front⟩
    · exact last
    · exact all before other start front

theorem Throughout.front {Item : Type} {fits : List Item → Item → Prop} {log more : List Item}
    (all : Throughout fits (log ++ more)) : Throughout fits log :=
  fun before item rest same => all before item (rest ++ more) (by
    rw [same, List.append_assoc, List.cons_append])

theorem Throughout.imp {Item : Type} {fits weaker : List Item → Item → Prop}
    {log : List Item} (all : Throughout fits log)
    (implied : ∀ before item, fits before item → weaker before item) :
    Throughout weaker log :=
  fun before item rest same => implied before item (all before item rest same)

/-- The order in which a reader delivers: each event is where the reader stands. -/
def InOrder (log : List (Event Value Output)) : Prop :=
  Throughout (fun before event => event.Ordered (position before)) log

def Faithful (stream : List Value) (log : List (Event Value Output)) : Prop :=
  ∀ event ∈ log, event.Genuine stream

theorem Faithful.append {stream : List Value} {log : List (Event Value Output)}
    (faithful : Faithful stream log) (more : List Value) : Faithful (stream ++ more) log :=
  fun event member => (faithful event member).append more

theorem faithful_snoc {stream : List Value} {log : List (Event Value Output)}
    {event : Event Value Output} :
    Faithful stream (log ++ [event]) ↔ Faithful stream log ∧ event.Genuine stream := by
  simp only [Faithful, List.mem_append, List.mem_singleton, or_imp, forall_and, forall_eq]

/-! ### What a reader has read -/

def reads (log : List (Event Value Output)) : List (Int × Value) :=
  log.filterMap fun
    | .read sequence value => some (sequence, value)
    | _ => none

def outputs (log : List (Event Value Output)) : List Output :=
  log.filterMap fun
    | .handOver output => some output
    | _ => none

def numbered (stream : List Value) : List (Int × Value) :=
  stream.zipIdx.map fun entry => ((entry.2 : Int), entry.1)

theorem numbered_getElem? (stream : List Value) (number : Nat) :
    (numbered stream)[number]? = stream[number]?.map fun value => ((number : Int), value) := by
  simp only [numbered, List.getElem?_map, List.getElem?_zipIdx, Option.map_map, Nat.zero_add]
  rfl

theorem numbered_take (stream : List Value) (count : Nat) :
    (numbered stream).take count = numbered (stream.take count) := by
  refine List.ext_getElem? (fun number => ?_)
  rw [List.getElem?_take, numbered_getElem?, numbered_getElem?, List.getElem?_take]
  split <;> rfl

theorem numbered_mono {stream longer : List Value} (extends' : stream <+: longer) :
    numbered stream <+: numbered longer := by
  obtain ⟨more, rfl⟩ := extends'
  simp only [numbered, List.zipIdx_append, List.map_append]
  exact List.prefix_append _ _

@[simp] theorem numbered_length (stream : List Value) :
    (numbered stream).length = stream.length := by
  simp [numbered]

theorem InOrder.start_le {log : List (Event Value Output)} (ordered : InOrder log) :
    -1 ≤ (position log).committed ∧ (position log).committed < (position log).next := by
  induction log using List.reverseRecOn with
  | nil =>
      rw [position_nil]
      decide
  | append_singleton log event ih =>
      obtain ⟨before, fits⟩ := throughout_snoc.mp ordered
      obtain ⟨low, high⟩ := ih before
      rw [position_snoc]
      cases event with
      | read sequence value =>
          have same : sequence = (position log).next := fits
          simp only [Position.after]
          omega
      | reread sequence value => exact ⟨low, high⟩
      | commit sequence =>
          have within : (position log).committed < sequence ∧
              sequence + 1 = (position log).next := fits
          simp only [Position.after]
          omega
      | handOver output => exact ⟨low, high⟩
      | crash =>
          simp only [Position.after]
          omega

/-- No number below the one to be read next was skipped. -/
theorem InOrder.delivered {log : List (Event Value Output)} (ordered : InOrder log)
    {sequence : Int} (nonnegative : 0 ≤ sequence) (before : sequence < (position log).next) :
    ∃ value, Event.read sequence value ∈ log := by
  induction log using List.reverseRecOn with
  | nil =>
      have impossible : sequence < 0 := before
      omega
  | append_singleton log event ih =>
      obtain ⟨earlier, fits⟩ := throughout_snoc.mp ordered
      rw [position_snoc] at before
      by_cases already : sequence < (position log).next
      · obtain ⟨value, member⟩ := ih earlier already
        exact ⟨value, List.mem_append_left _ member⟩
      · cases event with
        | read last value =>
            have here : last = (position log).next := fits
            have within : sequence < last + 1 := before
            have same : sequence = last := by omega
            exact ⟨value, List.mem_append_right _ (by rw [same]; exact List.mem_cons_self)⟩
        | reread last value => exact absurd before already
        | commit last => exact absurd before already
        | handOver output => exact absurd before already
        | crash =>
            have within : sequence < (position log).committed + 1 := before
            have behind := (InOrder.start_le earlier).2
            omega

theorem InOrder.committed_le {earlier later : List (Event Value Output)}
    (ordered : InOrder later) (extends' : earlier <+: later) :
    (position earlier).committed ≤ (position later).committed := by
  obtain ⟨more, rfl⟩ := extends'
  induction more using List.reverseRecOn with
  | nil =>
      exact Int.le_of_eq (by rw [List.append_nil])
  | append_singleton more event ih =>
      rw [← List.append_assoc] at ordered ⊢
      obtain ⟨before, fits⟩ := throughout_snoc.mp ordered
      have kept := ih before
      rw [position_snoc]
      cases event with
      | commit sequence => exact Int.le_trans kept (Int.le_of_lt fits.1)
      | read sequence value => exact kept
      | reread sequence value => exact kept
      | handOver output => exact kept
      | crash => exact kept

theorem reads_append (first second : List (Event Value Output)) :
    reads (first ++ second) = reads first ++ reads second := by
  simp only [reads, List.filterMap_append]

/-- Between two crashes a reader reads a segment of the stream, each value once. -/
theorem reads_eq_segment {stream : List Value} (before : List (Event Value Output))
    {rest : List (Event Value Output)} (ordered : InOrder (before ++ rest))
    (faithful : Faithful stream rest) (uninterrupted : Event.crash ∉ rest) :
    (position before).next ≤ (position (before ++ rest)).next ∧
      reads rest = ((numbered stream).take (position (before ++ rest)).next.toNat).drop
        (position before).next.toNat := by
  induction rest using List.reverseRecOn with
  | nil =>
      rw [List.append_nil]
      refine ⟨Int.le_refl _, ?_⟩
      rw [List.drop_eq_nil_of_le (List.length_take_le _ _)]
      rfl
  | append_singleton rest event ih =>
      rw [← List.append_assoc] at ordered ⊢
      obtain ⟨earlier, fits⟩ := throughout_snoc.mp ordered
      obtain ⟨genuine, last⟩ := faithful_snoc.mp faithful
      rw [List.mem_append, not_or] at uninterrupted
      obtain ⟨further, same⟩ := ih earlier genuine uninterrupted.1
      rw [reads_append, position_snoc, same]
      cases event with
      | read sequence value =>
          have here : sequence = (position (before ++ rest)).next := fits
          obtain ⟨nonnegative, found⟩ :
            0 ≤ sequence ∧ stream[sequence.toNat]? = some value := last
          have number : (sequence + 1).toNat = sequence.toNat + 1 := by omega
          have within : sequence.toNat < (numbered stream).length := by
            rw [numbered_length]
            exact (List.getElem?_eq_some_iff.mp found).1
          have entry : (numbered stream)[sequence.toNat]? = some (sequence, value) := by
            rw [numbered_getElem?, found, Option.map_some, Int.toNat_of_nonneg nonnegative]
          refine ⟨by simp only [Position.after]; omega, ?_⟩
          simp only [Position.after, number, ← here, List.take_add_one, entry]
          rw [List.drop_append_of_le_length (by rw [List.length_take]; omega)]
          rfl
      | reread sequence value => exact ⟨further, List.append_nil _⟩
      | commit sequence => exact ⟨further, List.append_nil _⟩
      | handOver output => exact ⟨further, List.append_nil _⟩
      | crash => exact absurd List.mem_cons_self uninterrupted.2

theorem reads_eq_take {stream : List Value} {log : List (Event Value Output)}
    (ordered : InOrder log) (faithful : Faithful stream log)
    (uninterrupted : Event.crash ∉ log) :
    reads log = (numbered stream).take (position log).next.toNat :=
  (reads_eq_segment [] ordered faithful uninterrupted).2

end Delivery
