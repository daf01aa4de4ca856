/-
The counters file of a segment.

A counter in the header hands the slots out, and a call that finds them all taken gives its
number back. What describes a slot is plain memory that one store of its flags publishes.
Any number of callers, each over a handle of its own, register and take snapshots, and add
to the counters they have got.
-/

import Mathlib.Algebra.Order.Ring.Int
import Myelon.Interleaving.Execution

namespace Observability

open Interleaving

def maxCounterSlots : Nat := 62

def counterLabelBytes : Nat := 48

def counterFlagInUse : UInt32 := 1

structure CounterSlot where
  id : UInt32
  flags : UInt32
  value : UInt64
  label : List UInt8

structure CounterSnapshot where
  id : UInt32
  flags : UInt32
  value : UInt64
  label : String

structure Registration where
  id : UInt32
  flags : UInt32
  label : String

/-- What an application asks of its handle next. A counter is named by its place among those
that the caller has got, the last one first. -/
inductive Request where
  | register (registration : Registration)
  | snapshot
  | add (counter : Nat) (amount : UInt64)

/-- How far a call of `register` has come. -/
inductive Stage where
  | entered
  | overshot
  | refused
  | holding (slot : Nat)
  deriving DecidableEq

/-- The region, and what was asked for and returned so far. No code reads the histories. -/
structure World (Caller : Type) where
  slotCount : UInt32
  slots : Nat → CounterSlot
  requests : List Registration
  underWay : List (Caller × Stage)
  outcomes : List (Option Nat)
  snapshots : List (List CounterSnapshot)

namespace World

variable {Caller : Type}

def initial : World Caller :=
  { slotCount := 0
    slots := fun _ => { id := 0, flags := 0, value := 0, label := List.replicate 48 0 }
    requests := []
    underWay := []
    outcomes := []
    snapshots := [] }

def write (world : World Caller) (slot : Nat) (change : CounterSlot → CounterSlot) :
    World Caller :=
  { world with slots := Function.update world.slots slot (change (world.slots slot)) }

variable [DecidableEq Caller]

def proceed (world : World Caller) (caller : Caller) (before after : Stage) : World Caller :=
  { world with underWay := (caller, after) :: world.underWay.erase (caller, before) }

end World

inductive Action (Caller : Type) where
  | nextRequest (caller : Caller)
  | fetchAddSlotCount (caller : Caller)
  | fetchSubSlotCount (caller : Caller)
  | loadSlotCount
  | writeId (slot : Nat) (id : UInt32)
  | fillLabel (slot : Nat)
  | copyLabel (slot : Nat) (bytes : List UInt8)
  | storeFlags (slot : Nat) (flags : UInt32)
  | loadFlags (slot : Nat)
  | readId (slot : Nat)
  | readLabel (slot : Nat)
  | loadValue (slot : Nat)
  | fetchAddValue (slot : Nat) (amount : UInt64)
  | returned (caller : Caller) (outcome : Option Nat)
  | reported (snapshot : List CounterSnapshot)

def Action.Result {Caller : Type} : Action Caller → Type
  | .nextRequest _ => Request
  | .fetchAddSlotCount _ => UInt32
  | .loadSlotCount => UInt32
  | .loadFlags _ => UInt32
  | .readId _ => UInt32
  | .readLabel _ => List UInt8
  | .loadValue _ => UInt64
  | _ => Unit

abbrev signature (Caller : Type) : Signature :=
  { Action := Action Caller, Result := Action.Result }

section Machine

variable {Caller : Type} [DecidableEq Caller]

def Stage.ofIndex (index : Nat) : Stage :=
  if index < maxCounterSlots then .holding index else .overshot

/-- One atomic step. The words of the header and of a slot wrap. -/
def perform : (action : Action Caller) → Request → World Caller →
    Option (action.Result × World Caller)
  | .nextRequest caller, request, world =>
      match request with
      | .register registration =>
          some (request, { world with
            requests := world.requests ++ [registration]
            underWay := (caller, .entered) :: world.underWay })
      | _ => some (request, world)
  | .fetchAddSlotCount caller, _, world =>
      some (world.slotCount, { world.proceed caller .entered (.ofIndex world.slotCount.toNat) with
        slotCount := world.slotCount + 1 })
  | .fetchSubSlotCount caller, _, world =>
      some ((), { world.proceed caller .overshot .refused with slotCount := world.slotCount - 1 })
  | .loadSlotCount, _, world => some (world.slotCount, world)
  | .writeId slot id, _, world => some ((), world.write slot fun before => { before with id })
  | .fillLabel slot, _, world =>
      some ((), world.write slot fun before =>
        { before with label := List.replicate counterLabelBytes 0 })
  | .copyLabel slot bytes, _, world =>
      some ((), world.write slot fun before =>
        { before with label := bytes ++ before.label.drop bytes.length })
  | .storeFlags slot flags, _, world =>
      some ((), world.write slot fun before => { before with flags })
  | .loadFlags slot, _, world => some ((world.slots slot).flags, world)
  | .readId slot, _, world => some ((world.slots slot).id, world)
  | .readLabel slot, _, world => some ((world.slots slot).label, world)
  | .loadValue slot, _, world => some ((world.slots slot).value, world)
  | .fetchAddValue slot amount, _, world =>
      some ((), world.write slot fun before => { before with value := before.value + amount })
  | .returned caller outcome, _, world =>
      some ((), { world with
        outcomes := world.outcomes ++ [outcome]
        underWay := world.underWay.erase (caller, outcome.elim .refused .holding) })
  | .reported snapshot, _, world =>
      some ((), { world with snapshots := world.snapshots ++ [snapshot] })

def countersFile (Caller : Type) [DecidableEq Caller] :
    Machine (signature Caller) Unit Caller (World Caller) :=
  { Oracle := Request
    perform
    restart := fun _ _ => none }

end Machine

/-! ### The handles -/

abbrev Process (Caller : Type) := Routine (signature Caller) Unit (List Nat)

variable {Caller : Type}

def act (action : Action Caller) : Process Caller action.Result :=
  @Routine.perform (signature Caller) Unit (List Nat) (fun _ => ()) action

def labelBytes (label : String) : List UInt8 :=
  label.toByteArray.data.toList.take counterLabelBytes

def register (caller : Caller) (registration : Registration) : Process Caller (Option Nat) := do
  let index : UInt32 ← act (.fetchAddSlotCount caller)
  if index.toNat ≥ maxCounterSlots then do
    act (.fetchSubSlotCount caller)
    pure none
  else do
    act (.writeId index.toNat registration.id)
    act (.fillLabel index.toNat)
    act (.copyLabel index.toNat (labelBytes registration.label))
    act (.storeFlags index.toNat (registration.flags ||| counterFlagInUse))
    pure (some index.toNat)

/-- The bytes of a label in front of the first zero. -/
def labelLength (label : List UInt8) : Nat :=
  (label.findIdx? (· == 0)).getD counterLabelBytes

variable (fromUtf8Lossy : List UInt8 → String)

def snapshotSlot (out : List CounterSnapshot) (slot : Nat) :
    Process Caller (List CounterSnapshot) := do
  let flags : UInt32 ← act (.loadFlags slot)
  if flags &&& counterFlagInUse = 0 then pure out
  else do
    let label : List UInt8 ← act (.readLabel slot)
    let labelLen := labelLength label
    let text : List UInt8 ← act (.readLabel slot)
    let id : UInt32 ← act (.readId slot)
    let value : UInt64 ← act (.loadValue slot)
    pure (out ++ [{ id, flags, value, label := fromUtf8Lossy (text.take labelLen) }])

def snapshot : Process Caller (List CounterSnapshot) := do
  let count : UInt32 ← act .loadSlotCount
  Routine.fold (snapshotSlot fromUtf8Lossy) (List.range (min count.toNat maxCounterSlots)) []

def serve (caller : Caller) : Process Caller Unit := do
  let request : Request ← act (.nextRequest caller)
  match request with
  | .register registration => do
      let outcome ← register caller registration
      act (.returned caller outcome)
      modify fun counters => outcome.toList ++ counters
  | .snapshot => do
      let taken ← snapshot fromUtf8Lossy
      act (.reported taken)
  | .add counter amount => do
      let counters ← get
      match counters[counter]? with
      | none => pure ()
      | some slot => act (.fetchAddValue slot amount)

def started : Configuration (signature Caller) Unit Caller (World Caller) :=
  { program := fun caller => Routine.forever (serve fromUtf8Lossy caller) []
    world := World.initial }

end Observability
