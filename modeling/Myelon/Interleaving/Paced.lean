/-
Time between the actions of a machine, and a chronicle of it.

Behind every action the world goes on for a while by itself, and both the action and that while
are written down. A contract that does not mind the time holds for the machine with time as well,
and may keep something of the chronicle on top.
-/

import Myelon.Interleaving.RelyGuarantee

namespace Interleaving

/-- How the world goes on by itself, and what is written down of the world before an action and
of the world when the time behind it is over. -/
structure Pacing (World Chronicle : Type) where
  Gap : Type
  pass : Gap → World → World
  note : World → World → Chronicle → Chronicle

variable {signature : Signature} {Private Thread World Chronicle α : Type}

/-- The outside also says how long it takes from one action to the next. -/
def Pacing.machine (pacing : Pacing World Chronicle)
    (base : Machine signature Private Thread World) :
    Machine signature Private Thread (World × Chronicle) where
  Oracle := base.Oracle × pacing.Gap
  perform := fun action answer world =>
    (base.perform action answer.1 world.1).map fun done =>
      (done.1, pacing.pass answer.2 done.2,
        pacing.note world.1 (pacing.pass answer.2 done.2) world.2)
  restart := fun thread world =>
    (base.restart thread world.1).map fun done => (done.1, done.2, world.2)

def Configuration.chronicled (configuration : Configuration signature Private Thread World)
    (chronicle : Chronicle) : Configuration signature Private Thread (World × Chronicle) :=
  { program := configuration.program
    world := (configuration.world, chronicle) }

variable {base : Machine signature Private Thread World}

/-- A contract that does not mind the time, and what it keeps of the chronicle. -/
structure Paced (lower : Contract base) (pacing : Pacing World Chronicle) where
  kept : World × Chronicle → Prop
  passed : ∀ {world} gap, lower.invariant world → lower.invariant (pacing.pass gap world)
  relied : ∀ {thread world} gap, lower.rely thread world (pacing.pass gap world)
  noted : ∀ {thread self action oracle gap world chronicle result after},
    lower.invariant world → lower.guarantee thread self action world →
    lower.condition thread self action world →
    base.perform action oracle world = some (result, after) → kept (world, chronicle) →
    kept (pacing.pass gap after, pacing.note world (pacing.pass gap after) chronicle)
  restarted : ∀ {thread world chronicle program after}, lower.invariant world →
    base.restart thread world = some (program, after) → kept (world, chronicle) →
    kept (after, chronicle)

namespace Paced

variable {lower : Contract base} {pacing : Pacing World Chronicle}
variable (paced : Paced lower pacing)

def contract : Contract (pacing.machine base) where
  condition := fun thread self action world => lower.condition thread self action world.1
  accepts := fun thread self action answer world =>
    lower.accepts thread self action answer.1 world.1
  guarantee := fun thread self action world => lower.guarantee thread self action world.1
  invariant := fun world => lower.invariant world.1 ∧ paced.kept world
  rely := fun thread before after => lower.rely thread before.1 after.1
  relyRefl := fun thread world => lower.relyRefl thread world.1
  relyTrans := fun left right => lower.relyTrans left right
  performed := by
    intro thread self action answer before result after holds met guaranteed performed
    obtain ⟨⟨outcome, world⟩, done, same⟩ := Option.map_eq_some_iff.mp performed
    cases same
    obtain ⟨kept, relied⟩ := lower.performed holds.1 met guaranteed done
    refine ⟨⟨paced.passed answer.2 kept, paced.noted holds.1 guaranteed met done holds.2⟩, ?_⟩
    intro other different
    exact lower.relyTrans (relied other different) (paced.relied answer.2)
  restarted := by
    intro thread before program after holds restarted
    obtain ⟨⟨outcome, world⟩, done, same⟩ := Option.map_eq_some_iff.mp restarted
    cases same
    obtain ⟨kept, relied⟩ := lower.restarted holds.1 done
    exact ⟨⟨kept, paced.restarted holds.1 done holds.2⟩, relied⟩

variable {paced} {thread : Thread}

theorem safe {fuel : Nat} {program : Program signature Private α} {post : α → World → Prop}
    {world : World} (chronicle : Chronicle)
    (stable : ∀ value before after, lower.rely thread before after → post value before →
      post value after)
    (safe : lower.Safe thread fuel program post world) :
    paced.contract.Safe thread fuel program (fun value after => post value after.1)
      (world, chronicle) := by
  induction fuel generalizing program world chronicle with
  | zero => trivial
  | succ fuel ih =>
      cases program with
      | done value => exact safe
      | act self action next =>
          intro before relied kept met
          obtain ⟨guaranteed, following⟩ := safe before.1 relied kept.1 met
          refine ⟨guaranteed, fun answer result after accepted performed => ?_⟩
          obtain ⟨⟨outcome, later⟩, done, same⟩ := Option.map_eq_some_iff.mp performed
          cases same
          exact ih _ ((following answer.1 outcome later accepted done).interfere stable
            (paced.relied answer.2))
      | loop body state next => exact ih chronicle safe

theorem upheld {configuration : Configuration signature Private Thread World}
    {chronicle : Chronicle} (upheld : lower.Upheld configuration)
    (kept : paced.kept (configuration.world, chronicle)) :
    paced.contract.Upheld (configuration.chronicled chronicle) where
  invariant := ⟨upheld.invariant, kept⟩
  safe := fun thread fuel =>
    Paced.safe chronicle (fun _ _ _ _ _ => trivial) (upheld.safe thread fuel)

theorem boots (boots : ∀ thread world program later, lower.invariant world →
      base.restart thread world = some (program, later) →
      ∀ fuel, lower.Safe thread fuel program (fun _ _ => True) later)
    (thread : Thread) (world : World × Chronicle) (program : Program signature Private Unit)
    (later : World × Chronicle) (holds : paced.contract.invariant world)
    (restarted : (pacing.machine base).restart thread world = some (program, later))
    (fuel : Nat) : paced.contract.Safe thread fuel program (fun _ _ => True) later := by
  obtain ⟨⟨outcome, after⟩, done, same⟩ := Option.map_eq_some_iff.mp restarted
  cases same
  exact Paced.safe world.2 (fun _ _ _ _ _ => trivial)
    (boots thread world.1 outcome after holds.1 done fuel)

end Paced

/-! ### Runs -/

variable [DecidableEq Thread]

/-- A condition that every action meets may be read with hindsight: where it is met, the rest
of the run is known. -/
theorem Contract.Upheld.hindsight {machine : Machine signature Private Thread World}
    {contract : Contract machine}
    {given wanted : Thread → Private → signature.Action → World → Prop}
    {configuration after : Configuration signature Private Thread World}
    {moves : List (Move Thread machine.Oracle)}
    (boots : ∀ thread world program later, contract.invariant world →
      machine.restart thread world = some (program, later) →
      ∀ fuel, contract.Safe thread fuel program (fun _ _ => True) later)
    (upheld : contract.Upheld configuration)
    (met : machine.Meets contract.condition configuration moves)
    (accepted : machine.Accepts contract.accepts configuration moves)
    (gives : machine.Meets given configuration moves)
    (ran : machine.run configuration moves = some after)
    (implied : ∀ middle rest thread self action, contract.Upheld middle →
      machine.run middle rest = some after → middle.AboutTo thread self action →
      given thread self action middle.world → wanted thread self action middle.world) :
    machine.Meets wanted configuration moves := by
  induction moves generalizing configuration with
  | nil => trivial
  | cons first rest ih =>
      refine ⟨?_, fun next moved => ?_⟩
      · intro thread oracle self action steps about
        exact implied configuration (first :: rest) thread self action upheld ran about
          (gives.1 thread oracle self action steps about)
      · have goesOn := ran
        simp only [Machine.run, moved] at goesOn
        have later : contract.Upheld next := upheld.move
          (fun thread world program after _crashes => boots thread world program after)
          met.1 accepted.1 moved
        exact ih later (met.2 next moved) (accepted.2 next moved) (gives.2 next moved) goesOn

end Interleaving
