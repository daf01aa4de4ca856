/-
Machines that read a stream item by item and put out at most one result for each.

What such a machine puts out over a stream is composed of what it puts out over
the parts, so neither the cut of a stream into batches nor a change of the state
representation matters.
-/

import Mathlib.Data.List.Induction

namespace Streaming

structure Transducer (State Input Output : Type) where
  step : State → Input → State × Option Output

namespace Transducer

variable {State Input Output : Type} (machine : Transducer State Input Output)

def after (state : State) : List Input → State
  | [] => state
  | item :: rest => after (machine.step state item).1 rest

def outputs (state : State) : List Input → List Output
  | [] => []
  | item :: rest =>
      (machine.step state item).2.toList ++ outputs (machine.step state item).1 rest

/-- What is put out while the stream comes in batches. -/
def batchOutputs (state : State) : List (List Input) → List (List Output)
  | [] => []
  | batch :: rest =>
      machine.outputs state batch :: batchOutputs (machine.after state batch) rest

variable {machine}

@[simp] theorem outputs_nil (state : State) : machine.outputs state [] = [] := rfl

theorem after_cons (state : State) (item : Input) (rest : List Input) :
    machine.after state (item :: rest) =
      machine.after (machine.step state item).1 rest := rfl

theorem outputs_cons (state : State) (item : Input) (rest : List Input) :
    machine.outputs state (item :: rest) =
      (machine.step state item).2.toList ++
        machine.outputs (machine.step state item).1 rest := rfl

theorem after_append (state : State) (first second : List Input) :
    machine.after state (first ++ second) =
      machine.after (machine.after state first) second := by
  induction first generalizing state with
  | nil => rfl
  | cons item rest ih => exact ih _

theorem outputs_append (state : State) (first second : List Input) :
    machine.outputs state (first ++ second) =
      machine.outputs state first ++
        machine.outputs (machine.after state first) second := by
  induction first generalizing state with
  | nil => rfl
  | cons item rest ih =>
      rw [List.cons_append, outputs_cons, outputs_cons, ih, List.append_assoc]
      rfl

theorem after_snoc (state : State) (items : List Input) (item : Input) :
    machine.after state (items ++ [item]) =
      (machine.step (machine.after state items) item).1 := by
  rw [after_append]
  rfl

theorem outputs_snoc (state : State) (items : List Input) (item : Input) :
    machine.outputs state (items ++ [item]) =
      machine.outputs state items ++
        (machine.step (machine.after state items) item).2.toList := by
  rw [outputs_append, outputs_cons, outputs_nil, List.append_nil]

/-- The cut into batches does not matter. -/
theorem batchOutputs_flatten (state : State) (batches : List (List Input)) :
    (machine.batchOutputs state batches).flatten = machine.outputs state batches.flatten := by
  induction batches generalizing state with
  | nil => rfl
  | cons batch rest ih =>
      rw [List.flatten_cons, outputs_append, ← ih]
      rfl

/-! ### The next output -/

/-- How many items the machine reads until it puts something out, what it is then, and what
it puts out. -/
def next (machine : Transducer State Input Output) (state : State) :
    List Input → Option (Nat × State × Output)
  | [] => none
  | item :: rest =>
      match machine.step state item with
      | (later, some output) => some (1, later, output)
      | (later, none) => (machine.next later rest).map fun found => (found.1 + 1, found.2)

theorem next_none {state : State} {items : List Input}
    (silent : machine.outputs state items = []) : machine.next state items = none := by
  induction items generalizing state with
  | nil => rfl
  | cons item rest ih =>
      rw [outputs_cons] at silent
      obtain ⟨here, later⟩ := List.append_eq_nil_iff.mp silent
      have still : (machine.step state item).2 = none := Option.toList_eq_nil_iff.mp here
      have same : machine.step state item = ((machine.step state item).1, none) :=
        Prod.ext rfl still
      rw [next, same]
      change (machine.next (machine.step state item).1 rest).map _ = none
      rw [ih later]
      rfl

theorem next_some {state later : State} {items rest : List Input} {item : Input}
    {output : Output} (silent : machine.outputs state items = [])
    (step : machine.step (machine.after state items) item = (later, some output)) :
    machine.next state (items ++ item :: rest) = some (items.length + 1, later, output) := by
  induction items generalizing state with
  | nil =>
      rw [List.nil_append, next, show machine.step state item = (later, some output) from step]
      rfl
  | cons first others ih =>
      rw [outputs_cons] at silent
      obtain ⟨here, silentLater⟩ := List.append_eq_nil_iff.mp silent
      have still : (machine.step state first).2 = none := Option.toList_eq_nil_iff.mp here
      have same : machine.step state first = ((machine.step state first).1, none) :=
        Prod.ext rfl still
      rw [List.cons_append, next, same]
      change (machine.next (machine.step state first).1 (others ++ item :: rest)).map _ = _
      rw [ih silentLater step]
      rfl

theorem next_last {state later : State} {items : List Input} {item : Input} {output : Output}
    (silent : machine.outputs state items = [])
    (after : machine.after state (items ++ [item]) = later)
    (outputs : machine.outputs state (items ++ [item]) = [output]) (rest : List Input) :
    machine.next state (items ++ item :: rest) = some (items.length + 1, later, output) := by
  apply next_some silent
  rw [after_snoc] at after
  rw [outputs_snoc, silent, List.nil_append] at outputs
  apply Prod.ext after
  cases out : (machine.step (machine.after state items) item).2 with
  | none =>
      rw [out] at outputs
      cases outputs
  | some found =>
      rw [out] at outputs
      exact congrArg some (List.singleton_inj.mp outputs)

/-- Machines whose steps correspond find their next output at the same place. -/
theorem next_eq_of_related {OtherState : Type} {other : Transducer OtherState Input Output}
    (related : State → OtherState → Prop)
    (steps : ∀ first second item, related first second →
      (machine.step first item).2 = (other.step second item).2 ∧
        related (machine.step first item).1 (other.step second item).1)
    {first : State} {second : OtherState} (start : related first second)
    {items : List Input} {taken : Nat} {later : OtherState} {output : Output}
    (found : other.next second items = some (taken, later, output)) :
    ∃ state, machine.next first items = some (taken, state, output) ∧ related state later := by
  induction items generalizing first second taken with
  | nil => cases found
  | cons item rest ih =>
      obtain ⟨same, kept⟩ := steps first second item start
      rw [next] at found ⊢
      rcases step : other.step second item with ⟨otherLater, otherOutput⟩
      rcases stepped : machine.step first item with ⟨state, out⟩
      rw [step, stepped] at same kept
      rw [step] at found
      cases same
      cases otherOutput with
      | some output =>
          cases found
          exact ⟨state, rfl, kept⟩
      | none =>
          obtain ⟨⟨before, last, out⟩, there, equal⟩ := Option.map_eq_some_iff.mp found
          cases equal
          obtain ⟨reached, here, relation⟩ := ih kept there
          refine ⟨reached, ?_, relation⟩
          change (machine.next state rest).map _ = _
          rw [here]
          rfl

theorem after_related {OtherState : Type} {other : Transducer OtherState Input Output}
    (related : State → OtherState → Prop)
    (steps : ∀ first second item, related first second →
      (machine.step first item).2 = (other.step second item).2 ∧
        related (machine.step first item).1 (other.step second item).1)
    {first : State} {second : OtherState} (start : related first second)
    (items : List Input) : related (machine.after first items) (other.after second items) := by
  induction items generalizing first second with
  | nil => exact start
  | cons item rest ih => exact ih (steps first second item start).2

theorem outputs_eq_of_related {OtherState : Type}
    {other : Transducer OtherState Input Output} (related : State → OtherState → Prop)
    (steps : ∀ first second item, related first second →
      (machine.step first item).2 = (other.step second item).2 ∧
        related (machine.step first item).1 (other.step second item).1)
    {first : State} {second : OtherState} (start : related first second)
    (items : List Input) : machine.outputs first items = other.outputs second items := by
  induction items generalizing first second with
  | nil => rfl
  | cons item rest ih =>
      obtain ⟨same, later⟩ := steps first second item start
      rw [outputs_cons, outputs_cons, same, ih later]

end Transducer
end Streaming
