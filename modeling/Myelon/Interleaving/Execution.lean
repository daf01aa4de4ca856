/-
Interleavings of the programs of several threads.

A machine says what an action does to the shared world. What the outside decides
(a scheduler, a clock, a caller) is an oracle that comes with each step. A crash
throws away the program of a thread, with its private state, and puts the
program of its restart in the place of it.
-/

import Myelon.Interleaving.Program

namespace Interleaving

structure Machine (signature : Signature) (Private Thread World : Type) where
  Oracle : Type
  perform : (action : signature.Action) → Oracle → World →
    Option (signature.Result action × World)
  restart : Thread → World → Option (Program signature Private Unit × World)

inductive Move (Thread Oracle : Type) where
  | step (thread : Thread) (oracle : Oracle)
  | crash (thread : Thread)

structure Configuration (signature : Signature) (Private Thread World : Type) where
  program : Thread → Program signature Private Unit
  world : World

namespace Configuration

variable {signature : Signature} {Private Thread World : Type}

def AboutTo (configuration : Configuration signature Private Thread World)
    (thread : Thread) (self : Private) (action : signature.Action) : Prop :=
  ∃ next, configuration.program thread = .act self action next

variable [DecidableEq Thread]

/-- The configuration in which one thread goes on with another program. -/
def launch (configuration : Configuration signature Private Thread World)
    (thread : Thread) (program : Program signature Private Unit) :
    Configuration signature Private Thread World :=
  { configuration with program := Function.update configuration.program thread program }

@[simp] theorem launch_world (configuration : Configuration signature Private Thread World)
    (thread : Thread) (program : Program signature Private Unit) :
    (configuration.launch thread program).world = configuration.world := rfl

@[simp] theorem launch_same (configuration : Configuration signature Private Thread World)
    (thread : Thread) (program : Program signature Private Unit) :
    (configuration.launch thread program).program thread = program := by
  simp only [launch, Function.update_self]

theorem launch_other (configuration : Configuration signature Private Thread World)
    {thread other : Thread} (program : Program signature Private Unit)
    (different : other ≠ thread) :
    (configuration.launch thread program).program other = configuration.program other := by
  simp only [launch, Function.update_of_ne different]

end Configuration

namespace Machine

variable {signature : Signature} {Private Thread World : Type} [DecidableEq Thread]
variable (machine : Machine signature Private Thread World)

def move (configuration : Configuration signature Private Thread World) :
    Move Thread machine.Oracle → Option (Configuration signature Private Thread World)
  | .step thread oracle =>
      match configuration.program thread with
      | .done _ => none
      | .act _ action next =>
          match machine.perform action oracle configuration.world with
          | none => none
          | some (result, world) =>
              some ({ configuration with world := world }.launch thread (next result))
      | .loop body state next =>
          some (configuration.launch thread (Program.unroll body state next))
  | .crash thread =>
      match machine.restart thread configuration.world with
      | none => none
      | some (program, world) =>
          some ({ configuration with world := world }.launch thread program)

def run (configuration : Configuration signature Private Thread World) :
    List (Move Thread machine.Oracle) →
      Option (Configuration signature Private Thread World)
  | [] => some configuration
  | first :: rest =>
      match machine.move configuration first with
      | none => none
      | some next => run next rest

/-- Every action of the run is taken in a state that meets the condition. -/
def Meets (condition : Thread → Private → signature.Action → World → Prop) :
    Configuration signature Private Thread World →
      List (Move Thread machine.Oracle) → Prop
  | _, [] => True
  | configuration, first :: rest =>
      (∀ thread oracle self action, first = .step thread oracle →
        configuration.AboutTo thread self action →
          condition thread self action configuration.world) ∧
      ∀ next, machine.move configuration first = some next → Meets condition next rest

/-- Every action of the run gets an answer from the outside that is accepted. -/
def Accepts (accepted : Thread → Private → signature.Action → machine.Oracle → World → Prop) :
    Configuration signature Private Thread World →
      List (Move Thread machine.Oracle) → Prop
  | _, [] => True
  | configuration, first :: rest =>
      (∀ thread oracle self action, first = .step thread oracle →
        configuration.AboutTo thread self action →
          accepted thread self action oracle configuration.world) ∧
      ∀ next, machine.move configuration first = some next → Accepts accepted next rest

variable {machine}

theorem move_step {configuration after : Configuration signature Private Thread World}
    {thread : Thread} {oracle : machine.Oracle}
    (moved : machine.move configuration (.step thread oracle) = some after) :
    (∃ self action next result world,
      configuration.program thread = .act self action next ∧
      machine.perform action oracle configuration.world = some (result, world) ∧
      after = { configuration with world := world }.launch thread (next result)) ∨
    (∃ (β γ : Type) (body : γ → Program signature Private (γ ⊕ β)) (state : γ)
        (next : β → Program signature Private Unit),
      configuration.program thread = .loop body state next ∧
      after = configuration.launch thread (Program.unroll body state next)) := by
  simp only [move] at moved
  split at moved
  · cases moved
  · rename_i self action next placed
    split at moved
    · cases moved
    · rename_i result world performed
      cases moved
      exact .inl ⟨self, action, next, result, world, placed, performed, rfl⟩
  · rename_i body state next placed
    cases moved
    exact .inr ⟨_, _, body, state, next, placed, rfl⟩

theorem move_crash {configuration after : Configuration signature Private Thread World}
    {thread : Thread} (moved : machine.move configuration (.crash thread) = some after) :
    ∃ program world, machine.restart thread configuration.world = some (program, world) ∧
      after = { configuration with world := world }.launch thread program := by
  simp only [move] at moved
  split at moved
  · cases moved
  · rename_i program world restarted
    cases moved
    exact ⟨program, world, restarted, rfl⟩

theorem run_append (configuration : Configuration signature Private Thread World)
    (first second : List (Move Thread machine.Oracle)) :
    machine.run configuration (first ++ second) =
      (machine.run configuration first).bind (fun middle => machine.run middle second) := by
  induction first generalizing configuration with
  | nil => rfl
  | cons head tail ih =>
      simp only [List.cons_append, run]
      cases machine.move configuration head with
      | none => rfl
      | some next => exact ih next

theorem run_through {before middle after : Configuration signature Private Thread World}
    {first second : List (Move Thread machine.Oracle)}
    (reached : machine.run before first = some middle)
    (further : machine.run middle second = some after) :
    machine.run before (first ++ second) = some after := by
  rw [run_append, reached]
  exact further

theorem Meets.imp {condition weaker : Thread → Private → signature.Action → World → Prop}
    (implied : ∀ thread self action world, condition thread self action world →
      weaker thread self action world)
    {configuration : Configuration signature Private Thread World}
    {moves : List (Move Thread machine.Oracle)}
    (met : machine.Meets condition configuration moves) :
    machine.Meets weaker configuration moves := by
  induction moves generalizing configuration with
  | nil => trivial
  | cons head tail ih =>
      exact ⟨fun thread oracle self action same about =>
        implied thread self action _ (met.1 thread oracle self action same about),
        fun next moved => ih (met.2 next moved)⟩

theorem Accepts.imp
    {accepted weaker : Thread → Private → signature.Action → machine.Oracle → World → Prop}
    (implied : ∀ thread self action oracle world,
      accepted thread self action oracle world → weaker thread self action oracle world)
    {configuration : Configuration signature Private Thread World}
    {moves : List (Move Thread machine.Oracle)}
    (answered : machine.Accepts accepted configuration moves) :
    machine.Accepts weaker configuration moves := by
  induction moves generalizing configuration with
  | nil => trivial
  | cons first rest ih =>
      constructor
      · intro thread oracle self action same about
        exact implied thread self action oracle _
          (answered.1 thread oracle self action same about)
      · intro next moved
        exact ih (answered.2 next moved)

theorem accepts_always
    {accepted : Thread → Private → signature.Action → machine.Oracle → World → Prop}
    (always : ∀ thread self action oracle world, accepted thread self action oracle world)
    (configuration : Configuration signature Private Thread World)
    (moves : List (Move Thread machine.Oracle)) :
    machine.Accepts accepted configuration moves := by
  induction moves generalizing configuration with
  | nil => trivial
  | cons head tail ih =>
      exact ⟨fun thread oracle self action _ _ => always thread self action oracle _,
        fun next _moved => ih next⟩

theorem meets_always {condition : Thread → Private → signature.Action → World → Prop}
    (always : ∀ thread self action world, condition thread self action world)
    (configuration : Configuration signature Private Thread World)
    (moves : List (Move Thread machine.Oracle)) :
    machine.Meets condition configuration moves := by
  induction moves generalizing configuration with
  | nil => trivial
  | cons head tail ih =>
      exact ⟨fun thread _ self action _ _ => always thread self action _,
        fun next _moved => ih next⟩

section Decided

variable {condition : Thread → Private → signature.Action → World → Prop}
variable {accepted : Thread → Private → signature.Action → machine.Oracle → World → Prop}
variable [∀ thread self action world, Decidable (condition thread self action world)]
variable [∀ thread self action oracle world,
  Decidable (accepted thread self action oracle world)]
variable {configuration : Configuration signature Private Thread World}
variable {moves : List (Move Thread machine.Oracle)}

variable (machine condition) in
def tests (configuration : Configuration signature Private Thread World) :
    Move Thread machine.Oracle → Bool
  | .crash _ => true
  | .step thread _ =>
      match configuration.program thread with
      | .act self action _ => decide (condition thread self action configuration.world)
      | _ => true

variable (machine accepted) in
def testsAnswer (configuration : Configuration signature Private Thread World) :
    Move Thread machine.Oracle → Bool
  | .crash _ => true
  | .step thread oracle =>
      match configuration.program thread with
      | .act self action _ => decide (accepted thread self action oracle configuration.world)
      | _ => true

variable (machine accepted) in
def checksAnswers :
    Configuration signature Private Thread World → List (Move Thread machine.Oracle) → Bool
  | _, [] => true
  | configuration, first :: rest =>
      machine.testsAnswer accepted configuration first &&
        (machine.move configuration first).all fun next => checksAnswers next rest

theorem accepts_of_checks
    (checked : machine.checksAnswers accepted configuration moves = true) :
    machine.Accepts accepted configuration moves := by
  induction moves generalizing configuration with
  | nil => trivial
  | cons first rest ih =>
      obtain ⟨here, later⟩ := Bool.and_eq_true_iff.mp checked
      constructor
      · rintro thread oracle self action rfl ⟨following, placed⟩
        simpa only [testsAnswer, placed, decide_eq_true_eq] using here
      · intro next moved
        apply ih
        rw [moved, Option.all_some] at later
        exact later

variable (machine condition) in
/-- Whether a run meets a condition can be found out by running it. -/
def checks :
    Configuration signature Private Thread World → List (Move Thread machine.Oracle) → Bool
  | _, [] => true
  | configuration, first :: rest =>
      machine.tests condition configuration first &&
        (machine.move configuration first).all fun next => checks next rest

theorem meets_of_checks (checked : machine.checks condition configuration moves = true) :
    machine.Meets condition configuration moves := by
  induction moves generalizing configuration with
  | nil => trivial
  | cons first rest ih =>
      obtain ⟨here, later⟩ := Bool.and_eq_true_iff.mp checked
      refine ⟨?_, fun next moved => ih ?_⟩
      · rintro thread oracle self action rfl ⟨following, placed⟩
        simpa only [tests, placed, decide_eq_true_eq] using here
      · rw [moved, Option.all_some] at later
        exact later

end Decided

end Machine
end Interleaving
