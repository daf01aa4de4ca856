/-
The high water mark of a counter.

A call loads the value and exchanges its own for it, over and over, until that works or the
value is no longer below its own. Other calls may come in between at every step, and a weak
exchange may fail for no reason. The value only grows, it is always one that was asked for, and
no call returns while it is below its own; so what the calls come to is the maximum, which the
ring takes in one step.
-/

import Myelon.Interleaving.RelyGuarantee
import Myelon.Ring.World

namespace Observability.HighWater

open Interleaving

/-! ### The counter -/

inductive Request where
  | recordMax (value : UInt64)
  | get

/-- What a step takes from outside: a request, or that a weak exchange fails. -/
inductive Answer where
  | request (request : Request)
  | silent
  | spurious

def Answer.isSpurious : Answer → Bool
  | .spurious => true
  | _ => false

structure Reading where
  value : UInt64
  returned : List UInt64

structure World (Caller : Type) where
  value : UInt64
  asked : List UInt64
  underWay : List (Caller × UInt64)
  returned : List UInt64
  /-- The values that were exchanged in, one after the other. -/
  raised : List UInt64
  readings : List Reading

def World.initial {Caller : Type} : World Caller :=
  { value := 0, asked := [], underWay := [], returned := [], raised := [], readings := [] }

inductive Action (Caller : Type) where
  | nextRequest (caller : Caller)
  | load
  | compareExchangeWeak (caller : Caller) (current new : UInt64)
  | get
  | returned (caller : Caller) (value : UInt64)

def Action.Result {Caller : Type} : Action Caller → Type
  | .nextRequest _ => Request
  | .load => UInt64
  | .compareExchangeWeak _ _ _ => Except UInt64 Unit
  | .get => UInt64
  | .returned _ _ => Unit

abbrev signature (Caller : Type) : Signature :=
  { Action := Action Caller, Result := Action.Result }

section Machine

variable {Caller : Type} [DecidableEq Caller]

/-- One atomic step. An exchange that fails tells the value that it found. -/
def perform : (action : Action Caller) → Answer → World Caller →
    Option (action.Result × World Caller)
  | .nextRequest caller, .request (.recordMax value), world =>
      some (.recordMax value, { world with
        asked := world.asked ++ [value]
        underWay := (caller, value) :: world.underWay })
  | .nextRequest _, .request .get, world => some (.get, world)
  | .nextRequest _, _, _ => none
  | .load, _, world => some (world.value, world)
  | .compareExchangeWeak _ current new, answer, world =>
      if world.value = current ∧ answer.isSpurious = false then
        some (.ok (), { world with value := new, raised := world.raised ++ [new] })
      else some (.error world.value, world)
  | .get, _, world =>
      some (world.value, { world with
        readings := world.readings ++ [{ value := world.value, returned := world.returned }] })
  | .returned caller value, _, world =>
      some ((), { world with
        returned := world.returned ++ [value]
        underWay := world.underWay.erase (caller, value) })

def counter (Caller : Type) [DecidableEq Caller] :
    Machine (signature Caller) Unit Caller (World Caller) :=
  { Oracle := Answer
    perform
    restart := fun _ _ => none }

end Machine

/-! ### The handle -/

abbrev Process (Caller : Type) := Routine (signature Caller) Unit Unit

variable {Caller : Type}

def act (action : Action Caller) : Process Caller action.Result :=
  @Routine.perform (signature Caller) Unit Unit (fun _ => ()) action

/-- The rounds of an exchange, each from the value that the one before it found. -/
def raise (caller : Caller) (value : UInt64) (current : UInt64) : Process Caller Unit :=
  Routine.repeat' (fun current =>
    if value > current then do
      let exchanged : Except UInt64 Unit ← act (.compareExchangeWeak caller current value)
      match exchanged with
      | .ok _ => pure (.inr ())
      | .error actual => pure (.inl actual)
    else pure (.inr ())) current

def recordMax (caller : Caller) (value : UInt64) : Process Caller Unit := do
  let current : UInt64 ← act .load
  raise caller value current

def serve (caller : Caller) : Process Caller Unit := do
  let request : Request ← act (.nextRequest caller)
  match request with
  | .recordMax value => do
      recordMax caller value
      act (.returned caller value)
  | .get => do
      let _ ← act .get
      pure ()

def started : Configuration (signature Caller) Unit Caller (World Caller) :=
  { program := fun caller => Routine.forever (serve caller) ()
    world := World.initial }

/-! ### What every step keeps -/

/-- The value grew through what was asked for, and no call came back before it was reached. -/
structure Raised (world : World Caller) : Prop where
  growing : world.raised.Pairwise (· < ·)
  reached : ∀ value ∈ world.raised, 0 < value ∧ value ≤ world.value ∧ value ∈ world.asked
  current : world.value = 0 ∨ world.value ∈ world.raised
  settled : ∀ value ∈ world.returned, value ≤ world.value
  calls : world.asked.Perm (world.returned ++ world.underWay.map Prod.snd)
  seen : ∀ reading ∈ world.readings, reading.value ≤ world.value ∧
    ∀ value ∈ reading.returned, value ≤ reading.value
  seenGrowing : world.readings.Pairwise (fun first second => first.value ≤ second.value)

structure Others (caller : Caller) (before after : World Caller) : Prop where
  grows : before.value ≤ after.value
  underWay : ∀ value, (caller, value) ∈ before.underWay → (caller, value) ∈ after.underWay

theorem Others.refl (caller : Caller) (world : World Caller) : Others caller world world :=
  ⟨UInt64.le_refl _, fun _ member => member⟩

theorem Others.trans {caller : Caller} {first second third : World Caller}
    (relied : Others caller first second) (further : Others caller second third) :
    Others caller first third :=
  ⟨UInt64.le_trans relied.grows further.grows, fun value member =>
    further.underWay value (relied.underWay value member)⟩

/-- Each caller moves only its own calls, raises the value, and returns where it is reached. -/
def Guarantees (caller : Caller) : Action Caller → World Caller → Prop
  | .nextRequest asking, _ => asking = caller
  | .compareExchangeWeak asking current new, world =>
      asking = caller ∧ current < new ∧ (caller, new) ∈ world.underWay
  | .returned asking value, world =>
      asking = caller ∧ (caller, value) ∈ world.underWay ∧ value ≤ world.value
  | _, _ => True

namespace Raised

variable {world : World Caller}

theorem initial : Raised (World.initial : World Caller) := by
  constructor
  · exact .nil
  · intro value impossible
    cases impossible
  · exact .inl rfl
  · intro value impossible
    cases impossible
  · exact .nil
  · intro reading impossible
    cases impossible
  · exact .nil

theorem request (raised : Raised world) (caller : Caller) (value : UInt64) :
    Raised { world with
      asked := world.asked ++ [value]
      underWay := (caller, value) :: world.underWay } := by
  constructor
  · exact raised.growing
  · intro other member
    obtain ⟨positive, below, asked⟩ := raised.reached other member
    exact ⟨positive, below, List.mem_append_left _ asked⟩
  · exact raised.current
  · exact raised.settled
  · have joined := (List.perm_append_singleton value world.asked).trans (raised.calls.cons value)
    exact joined.trans List.perm_middle.symm
  · exact raised.seen
  · exact raised.seenGrowing

theorem exchange (raised : Raised world) {caller : Caller} {new : UInt64}
    (above : world.value < new) (mine : (caller, new) ∈ world.underWay) :
    Raised { world with value := new, raised := world.raised ++ [new] } := by
  have higher : ∀ {value : UInt64}, value ≤ world.value → value ≤ new :=
    fun below => UInt64.le_trans below (UInt64.le_of_lt above)
  have asked : new ∈ world.asked := by
    apply raised.calls.mem_iff.mpr
    exact List.mem_append_right _ (List.mem_map_of_mem (f := Prod.snd) mine)
  constructor
  · rw [List.pairwise_append]
    refine ⟨raised.growing, List.pairwise_singleton _ _, ?_⟩
    intro value member other last
    rw [List.mem_singleton.mp last]
    exact UInt64.lt_of_le_of_lt (raised.reached value member).2.1 above
  · intro value member
    rcases List.mem_append.mp member with before | last
    · obtain ⟨positive, below, known⟩ := raised.reached value before
      exact ⟨positive, higher below, known⟩
    · rw [List.mem_singleton.mp last]
      exact ⟨UInt64.lt_of_le_of_lt UInt64.zero_le above, UInt64.le_refl _, asked⟩
  · exact .inr (List.mem_append_right _ List.mem_cons_self)
  · exact fun value member => higher (raised.settled value member)
  · exact raised.calls
  · exact fun reading member =>
      ⟨higher (raised.seen reading member).1, (raised.seen reading member).2⟩
  · exact raised.seenGrowing

theorem read (raised : Raised world) :
    Raised { world with
      readings := world.readings ++ [{ value := world.value, returned := world.returned }] } := by
  constructor
  · exact raised.growing
  · exact raised.reached
  · exact raised.current
  · exact raised.settled
  · exact raised.calls
  · intro reading member
    rcases List.mem_append.mp member with before | last
    · exact raised.seen reading before
    · rw [List.mem_singleton.mp last]
      exact ⟨UInt64.le_refl _, raised.settled⟩
  · rw [List.pairwise_append]
    refine ⟨raised.seenGrowing, List.pairwise_singleton _ _, ?_⟩
    intro reading member other last
    rw [List.mem_singleton.mp last]
    exact (raised.seen reading member).1

variable [DecidableEq Caller]

theorem hand (raised : Raised world) {caller : Caller} {value : UInt64}
    (mine : (caller, value) ∈ world.underWay) (reached : value ≤ world.value) :
    Raised { world with
      returned := world.returned ++ [value]
      underWay := world.underWay.erase (caller, value) } := by
  constructor
  · exact raised.growing
  · exact raised.reached
  · exact raised.current
  · intro other member
    rcases List.mem_append.mp member with before | last
    · exact raised.settled other before
    · rw [List.mem_singleton.mp last]
      exact reached
  · have split := (List.perm_cons_erase mine).map Prod.snd
    rw [List.append_assoc]
    exact raised.calls.trans (split.append_left world.returned)
  · exact raised.seen
  · exact raised.seenGrowing

end Raised

section Calls

variable [DecidableEq Caller]

theorem performed_raised {caller : Caller} {action : Action Caller} {answer : Answer}
    {world after : World Caller} {result : action.Result} (raised : Raised world)
    (guaranteed : Guarantees caller action world)
    (performed : perform action answer world = some (result, after)) :
    Raised after ∧ ∀ other, other ≠ caller → Others other world after := by
  have quiet : after = world →
      Raised after ∧ ∀ other, other ≠ caller → Others other world after := by
    intro same
    rw [same]
    exact ⟨raised, fun other _different => .refl other world⟩
  cases action with
  | nextRequest asking =>
      cases answer with
      | request request =>
          cases request with
          | recordMax value =>
              cases performed
              exact ⟨raised.request asking value, fun other _different =>
                ⟨UInt64.le_refl _, fun _ member => List.mem_cons_of_mem _ member⟩⟩
          | get =>
              cases performed
              exact quiet rfl
      | silent => cases performed
      | spurious => cases performed
  | load =>
      cases performed
      exact quiet rfl
  | compareExchangeWeak asking current new =>
      obtain ⟨_mine, above, waiting⟩ := guaranteed
      rw [perform] at performed
      split at performed
      · rename_i exchanged
        cases performed
        rw [← exchanged.1] at above
        exact ⟨raised.exchange above waiting, fun other _different =>
          ⟨UInt64.le_of_lt above, fun _ member => member⟩⟩
      · cases performed
        exact quiet rfl
  | get =>
      cases performed
      exact ⟨raised.read, fun other _different =>
        ⟨UInt64.le_refl _, fun _ member => member⟩⟩
  | returned asking value =>
      obtain ⟨rfl, waiting, reached⟩ := guaranteed
      cases performed
      constructor
      · exact raised.hand waiting reached
      · intro other different
        constructor
        · exact UInt64.le_refl _
        · intro value member
          exact (List.mem_erase_of_ne (fun same =>
            different (congrArg Prod.fst same))).mpr member

def raising : Contract (counter Caller) where
  condition := fun _ _ _ _ => True
  guarantee := fun caller _ action world => Guarantees caller action world
  invariant := Raised
  rely := Others
  relyRefl := Others.refl
  relyTrans := Others.trans
  performed := fun raised _ guaranteed performed =>
    performed_raised raised guaranteed performed
  restarted := fun _ restarted => nomatch restarted

variable {caller : Caller}

theorem act_triple {pre : World Caller → Prop} {action : Action Caller}
    {post : action.Result → World Caller → Prop}
    (stable : ∀ before after, Others caller before after → pre before → pre after)
    (guaranteed : ∀ world, pre world → Guarantees caller action world)
    (outcome : ∀ answer world result after, pre world →
      perform action answer world = some (result, after) → post result after) :
    raising.Triple caller (fun _ => pre) (act action) (fun result _ => post result) := by
  apply Contract.Triple.perform
  intro self world before held relied _raised _met
  have kept := stable world before relied held
  exact ⟨guaranteed before kept, fun answer result after performed =>
    outcome answer before result after kept performed⟩

def Waiting (caller : Caller) (value : UInt64) (world : World Caller) : Prop :=
  (caller, value) ∈ world.underWay

theorem raise_triple (value current : UInt64) :
    raising.Triple caller
      (fun _ world => Waiting caller value world ∧ current ≤ world.value)
      (raise caller value current)
      (fun _ _ world => Waiting caller value world ∧ value ≤ world.value) := by
  have stable : ∀ (bound : UInt64) (before after : World Caller), Others caller before after →
      Waiting caller value before ∧ bound ≤ before.value →
        Waiting caller value after ∧ bound ≤ after.value :=
    fun bound before after relied held =>
      ⟨relied.underWay value held.1, UInt64.le_trans held.2 relied.grows⟩
  apply Contract.Triple.repeat'
    (fun (current : UInt64) (_ : Unit) (world : World Caller) =>
      Waiting caller value world ∧ current ≤ world.value)
  intro current
  by_cases above : value > current
  · rw [if_pos above]
    apply Contract.Triple.through (fun (exchanged : Except UInt64 Unit) _ world =>
      Waiting caller value world ∧ match exchanged with
        | .ok _ => value ≤ world.value
        | .error actual => actual ≤ world.value)
    · apply act_triple
      · exact stable current
      · exact fun world held => ⟨rfl, above, held.1⟩
      · intro answer world exchanged after held performed
        rw [perform] at performed
        split at performed
        · cases performed
          exact ⟨held.1, UInt64.le_refl _⟩
        · cases performed
          exact ⟨held.1, UInt64.le_refl _⟩
    · intro exchanged
      cases exchanged with
      | ok done => exact Contract.Triple.pure _ (fun _ _ held => held)
      | error actual => exact Contract.Triple.pure _ (fun _ _ held => held)
  · rw [if_neg above]
    apply Contract.Triple.pure
    intro self world held
    exact ⟨held.1, UInt64.le_trans (UInt64.not_lt.mp above) held.2⟩

theorem recordMax_triple (value : UInt64) :
    raising.Triple caller (fun _ => Waiting caller value) (recordMax caller value)
      (fun _ _ world => Waiting caller value world ∧ value ≤ world.value) := by
  apply Contract.Triple.through (fun (current : UInt64) _ world =>
    Waiting caller value world ∧ current ≤ world.value)
  · apply act_triple
    · exact fun before after relied waiting => relied.underWay value waiting
    · exact fun _ _ => trivial
    · intro answer world current after waiting performed
      cases performed
      exact ⟨waiting, UInt64.le_refl _⟩
  · exact fun current => raise_triple value current

theorem serve_triple :
    raising.Triple caller (fun _ _ => True) (serve caller) (fun _ _ _ => True) := by
  apply Contract.Triple.through (fun (request : Request) _ world =>
    ∀ value, request = .recordMax value → Waiting caller value world)
  · apply act_triple
    · exact fun _ _ _ _ => trivial
    · exact fun _ _ => rfl
    · intro answer world request after _held performed value asked
      cases answer with
      | request given =>
          cases given with
          | recordMax other =>
              cases performed
              cases asked
              exact List.mem_cons_self
          | get =>
              cases performed
              cases asked
      | silent => cases performed
      | spurious => cases performed
  · intro request
    cases request with
    | recordMax value =>
        have records : raising.Triple caller
            (fun _ world => ∀ other, Request.recordMax value = .recordMax other →
              Waiting caller other world) (recordMax caller value)
            (fun _ _ world => Waiting caller value world ∧ value ≤ world.value) :=
          (recordMax_triple value).strengthen (fun _ _ held => held value rfl)
        apply Contract.Triple.bind records
        intro _
        apply act_triple
        · exact fun before after relied held =>
            ⟨relied.underWay value held.1, UInt64.le_trans held.2 relied.grows⟩
        · exact fun world held => ⟨rfl, held⟩
        · exact fun _ _ _ _ _ _ => trivial
    | get =>
        have reads : raising.Triple caller (fun _ (_ : World Caller) => True) (act .get)
            (fun _ _ _ => True) := by
          apply act_triple
          · exact fun _ _ _ _ => trivial
          · exact fun _ _ => trivial
          · exact fun _ _ _ _ _ _ => trivial
        apply Contract.Triple.bind (reads.strengthen (fun _ _ _ => trivial))
        exact fun _ => Contract.Triple.pure () (fun _ _ _ => trivial)

theorem started_upheld : raising.Upheld (started : Configuration (signature Caller) Unit Caller
    (World Caller)) := by
  constructor
  · exact Raised.initial
  · intro caller fuel
    exact Contract.Triple.forever serve_triple trivial fuel _

omit [DecidableEq Caller] in
theorem Raised.all_reached {world : World Caller} (raised : Raised world)
    (idle : world.underWay = []) {value : UInt64} (asked : value ∈ world.asked) :
    value ≤ world.value := by
  have calls := raised.calls
  rw [idle, List.map_nil, List.append_nil] at calls
  exact raised.settled value (calls.mem_iff.mp asked)

end Calls

/-! ### What the calls come to -/

/-- One step for each value leads to the largest of them. -/
theorem recordMax_folded {interface : Ring.Interface} (mark : Ring.Counter) {bound : Nat}
    {values : List UInt64} (below : ∀ value ∈ values, value.toNat ≤ bound)
    (ring : Ring.World interface) (start : ring.counters mark ≤ bound)
    (reached : ring.counters mark = bound ∨ ∃ value ∈ values, value.toNat = bound) :
    (values.foldl (fun ring value => Ring.recordMax ring mark value.toNat) ring).counters mark =
      bound := by
  induction values generalizing ring with
  | nil =>
      rcases reached with there | impossible
      · exact there
      · obtain ⟨value, member, _⟩ := impossible
        cases member
  | cons value rest ih =>
      have within := below value List.mem_cons_self
      have recorded : (Ring.recordMax ring mark value.toNat).counters mark =
          max (ring.counters mark) value.toNat := by
        simp only [Ring.recordMax, Function.update_self]
      rw [List.foldl_cons]
      apply ih (fun other member => below other (List.mem_cons_of_mem value member))
      · rw [recorded]
        omega
      · rw [recorded]
        rcases reached with there | ⟨other, member, same⟩
        · left
          omega
        · rcases List.mem_cons.mp member with here | later
          · rw [here] at same
            left
            omega
          · exact .inr ⟨other, later, same⟩

variable [DecidableEq Caller]

/-- In every run: the value grows strictly, through values that were asked for, a call returns
where its own is reached, and later readings are never lower. Where no call is under way it is
what the ring has in one step for each call. -/
theorem high_water_raised {after : Configuration (signature Caller) Unit Caller (World Caller)}
    {moves : List (Move Caller Answer)} (ran : (counter Caller).run started moves = some after) :
    Raised after.world ∧
    ∀ {interface : Ring.Interface} (ring : Ring.World interface) (mark : Ring.Counter),
      ring.counters mark = 0 → after.world.underWay = [] →
        (after.world.asked.foldl (fun ring value => Ring.recordMax ring mark value.toNat)
          ring).counters mark = after.world.value.toNat := by
  have upheld : raising.Upheld after := by
    apply Contract.Upheld.run _ started_upheld _ _ ran
    · exact fun _ _ _ _ _ restarted => nomatch restarted
    · exact Machine.meets_always (fun _ _ _ _ => trivial) _ _
    · exact Machine.accepts_always (fun _ _ _ _ _ => trivial) _ _
  have raised : Raised after.world := upheld.invariant
  constructor
  · exact raised
  · intro interface ring mark empty idle
    apply recordMax_folded
    · exact fun value asked => UInt64.le_iff_toNat_le.mp (raised.all_reached idle asked)
    · omega
    · rcases raised.current with zero | last
      · left
        rw [empty, zero]
        rfl
      · exact .inr ⟨_, (raised.reached _ last).2.2, rfl⟩

/-- Two calls, one of which finds the value of the other and then fails for no reason. -/
def twoCalls : List (Move Bool Answer) :=
  [.step false .silent, .step false (.request (.recordMax 5)), .step false .silent,
    .step false .silent, .step true .silent, .step true (.request (.recordMax 3)),
    .step true .silent, .step true .silent, .step true .silent, .step false .silent,
    .step false .silent, .step false .spurious, .step false .silent, .step false .silent,
    .step true .silent, .step false .silent, .step true .silent, .step true (.request .get),
    .step true .silent]

theorem high_water_raised_two : ∃ after, (counter Bool).run started twoCalls = some after ∧
    after.world.underWay = [] ∧ after.world.raised = [3, 5] ∧ Raised after.world :=
  ⟨_, rfl, rfl, rfl,
    (high_water_raised (show (counter Bool).run started twoCalls = some _ from rfl)).1⟩

end Observability.HighWater
