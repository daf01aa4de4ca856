/-
Programs of one thread over a signature of atomic actions.

A program is a tree of actions whose continuation receives the result of the
action. Every action carries the private state of the thread at that point, so
an observer of an interleaving can speak about private state without handing it
to the other threads. An unbounded loop is a constructor of its own; unrolling
it is a step that touches nothing.
-/

import Mathlib.Logic.Function.Basic

namespace Interleaving

/-- The atomic actions a thread may perform and the result of each of them. -/
structure Signature where
  Action : Type
  Result : Action → Type

inductive Program (signature : Signature) (Private : Type) : Type → Type 1 where
  | done {α : Type} (value : α) : Program signature Private α
  | act {α : Type} (self : Private) (action : signature.Action)
      (next : signature.Result action → Program signature Private α) :
      Program signature Private α
  | loop {α β γ : Type} (body : γ → Program signature Private (γ ⊕ β)) (state : γ)
      (next : β → Program signature Private α) : Program signature Private α

namespace Program

variable {signature : Signature} {Private α β γ : Type}

def bind : Program signature Private α → (α → Program signature Private β) →
    Program signature Private β
  | .done value, rest => rest value
  | .act self action next, rest =>
      .act self action (fun result => bind (next result) rest)
  | .loop body state next, rest =>
      .loop body state (fun result => bind (next result) rest)

instance : Monad (Program signature Private) where
  pure := .done
  bind := bind

theorem bind_eq (program : Program signature Private α)
    (rest : α → Program signature Private β) :
    program >>= rest = program.bind rest := rfl

def unroll (body : γ → Program signature Private (γ ⊕ β)) (state : γ)
    (next : β → Program signature Private α) : Program signature Private α :=
  bind (body state) fun
    | .inl again => .loop body again next
    | .inr result => next result

theorem bind_done (program : Program signature Private α) :
    program.bind .done = program := by
  induction program with
  | done value => rfl
  | act self action next ih =>
      simp only [bind, ih]
  | loop body state next _ ih =>
      simp only [bind, ih]

theorem bind_assoc (program : Program signature Private α)
    (rest : α → Program signature Private β) (last : β → Program signature Private γ) :
    (program.bind rest).bind last =
      program.bind (fun value => (rest value).bind last) := by
  induction program with
  | done value => rfl
  | act self action next ih =>
      simp only [bind, ih]
  | loop body state next _ ih =>
      simp only [bind, ih]

instance : LawfulMonad (Program signature Private) :=
  LawfulMonad.mk' _ bind_done (fun _ _ => rfl) bind_assoc

theorem unroll_bind (body : γ → Program signature Private (γ ⊕ β)) (state : γ)
    {δ : Type} (next : β → Program signature Private α)
    (rest : α → Program signature Private δ) :
    (unroll body state next).bind rest =
      unroll body state (fun result => (next result).bind rest) := by
  unfold unroll
  rw [bind_assoc]
  congr 1
  funext result
  cases result with
  | inl again => rfl
  | inr result => rfl

end Program

/-- A program with a private state of its own. The view turns that state into
the one which its actions carry. -/
abbrev Routine (signature : Signature) (Private State : Type) :=
  StateT State (Program signature Private)

namespace Routine

variable {signature : Signature} {Private State α β γ : Type}

def perform (view : State → Private) (action : signature.Action) :
    Routine signature Private State (signature.Result action) :=
  fun self => .act (view self) action (fun result => .done (result, self))

/-- Rounds of a body until it returns on the right. -/
def repeat' (body : γ → Routine signature Private State (γ ⊕ β)) (state : γ) :
    Routine signature Private State β :=
  fun self => .loop
    (fun round : γ × State => do
      let (result, after) ← body round.1 round.2
      match result with
      | .inl again => pure (.inl (again, after))
      | .inr result => pure (.inr (result, after)))
    (state, self) .done

def forever (body : Routine signature Private State Unit) (self : State) :
    Program signature Private Unit :=
  .loop (fun self => do
    let (_, after) ← body self
    pure (.inl after)) self (fun never : Empty => nomatch never)

def each (body : α → Routine signature Private State Unit) :
    List α → Routine signature Private State Unit
  | [] => pure ()
  | item :: rest => do
      body item
      each body rest

def fold (body : β → α → Routine signature Private State β) :
    List α → β → Routine signature Private State β
  | [], value => pure value
  | item :: rest, value => do
      let next ← body value item
      fold body rest next

end Routine
end Interleaving
