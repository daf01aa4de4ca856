/-
Rely and guarantee for interleaved programs.

A contract gives each thread what it must establish before every action, and
what it may rely on while the others move. A program is safe when each of its
actions keeps the contract whatever the others do in between. Safety composes
along the program, one rule for each way to build one, and a family of safe
programs keeps the invariant of the contract in every interleaving.
-/

import Myelon.Interleaving.Execution

namespace Interleaving

/-- The condition of an action is an assumption about a run, and so is what the outside
may answer to it; where they fail the contract promises nothing. -/
structure Contract {signature : Signature} {Private Thread World : Type}
    (machine : Machine signature Private Thread World) where
  condition : Thread → Private → signature.Action → World → Prop
  accepts : Thread → Private → signature.Action → machine.Oracle → World → Prop :=
    fun _ _ _ _ _ => True
  guarantee : Thread → Private → signature.Action → World → Prop
  invariant : World → Prop
  rely : Thread → World → World → Prop
  relyRefl : ∀ thread world, rely thread world world
  relyTrans : ∀ {thread first second third},
    rely thread first second → rely thread second third → rely thread first third
  performed : ∀ {thread self action oracle world result after}, invariant world →
    condition thread self action world → guarantee thread self action world →
    machine.perform action oracle world = some (result, after) →
    invariant after ∧ ∀ other, other ≠ thread → rely other world after
  restarted : ∀ {thread world program after}, invariant world →
    machine.restart thread world = some (program, after) →
    invariant after ∧ ∀ other, other ≠ thread → rely other world after

namespace Contract

variable {signature : Signature} {Private Thread World : Type}
variable {machine : Machine signature Private Thread World}
variable (contract : Contract machine) (thread : Thread)

/-! ### Safe programs -/

/-- No action of the program breaks the contract within the given number of
steps, and where it is done within them the postcondition holds. -/
def Safe {α : Type} : Nat → Program signature Private α → (α → World → Prop) → World → Prop
  | 0, _, _, _ => True
  | _ + 1, .done value, post, world => post value world
  | fuel + 1, .act self action next, post, world =>
      ∀ before, contract.rely thread world before → contract.invariant before →
        contract.condition thread self action before →
        contract.guarantee thread self action before ∧
        ∀ oracle result after, contract.accepts thread self action oracle before →
          machine.perform action oracle before = some (result, after) →
          Safe fuel (next result) post after
  | fuel + 1, .loop body state next, post, world =>
      Safe fuel (Program.unroll body state next) post world

variable {contract thread} {α β γ : Type}

theorem Safe.conseq {fuel : Nat} {program : Program signature Private α}
    {post weaker : α → World → Prop} {world : World}
    (safe : contract.Safe thread fuel program post world)
    (weaken : ∀ value after, post value after → weaker value after) :
    contract.Safe thread fuel program weaker world := by
  induction fuel generalizing program world with
  | zero => trivial
  | succ fuel ih =>
      cases program with
      | done value => exact weaken value world safe
      | act self action next =>
          intro before relied kept met
          obtain ⟨guaranteed, following⟩ := safe before relied kept met
          exact ⟨guaranteed, fun oracle result after accepted performed =>
            ih (following oracle result after accepted performed)⟩
      | loop body state next => exact ih safe

theorem Safe.interfere {fuel : Nat} {program : Program signature Private α}
    {post : α → World → Prop} {world later : World}
    (stable : ∀ value before after, contract.rely thread before after →
      post value before → post value after)
    (safe : contract.Safe thread fuel program post world)
    (relied : contract.rely thread world later) :
    contract.Safe thread fuel program post later := by
  induction fuel generalizing program with
  | zero => trivial
  | succ fuel ih =>
      cases program with
      | done value => exact stable value world later relied safe
      | act self action next =>
          intro before further kept met
          exact safe before (contract.relyTrans relied further) kept met
      | loop body state next => exact ih safe

theorem Safe.bind {fuel : Nat} {program : Program signature Private α}
    {rest : α → Program signature Private β} (middle : α → World → Prop)
    {post : β → World → Prop} {world : World}
    (safe : contract.Safe thread fuel program middle world)
    (continues : ∀ value after, middle value after → ∀ remaining, remaining ≤ fuel →
      contract.Safe thread remaining (rest value) post after) :
    contract.Safe thread fuel (program.bind rest) post world := by
  induction fuel generalizing program world with
  | zero => trivial
  | succ fuel ih =>
      have fewer : ∀ value after, middle value after → ∀ remaining, remaining ≤ fuel →
          contract.Safe thread remaining (rest value) post after :=
        fun value after held remaining less => continues value after held remaining (by omega)
      cases program with
      | done value => exact continues value world safe (fuel + 1) (Nat.le_refl _)
      | act self action next =>
          intro before relied kept met
          obtain ⟨guaranteed, following⟩ := safe before relied kept met
          exact ⟨guaranteed, fun oracle result after accepted performed =>
            ih (following oracle result after accepted performed) fewer⟩
      | loop body state next =>
          have unrolled : contract.Safe thread fuel
              ((Program.unroll body state next).bind rest) post world := ih safe fewer
          rw [Program.unroll_bind] at unrolled
          exact unrolled

/-- A contract that relies on less and guarantees less accepts the same programs. -/
theorem Safe.weaken {other : Contract machine} {fuel : Nat}
    {program : Program signature Private α} {post : α → World → Prop} {world : World}
    (rely : ∀ before after, other.rely thread before after →
      contract.rely thread before after)
    (invariant : ∀ world, other.invariant world → contract.invariant world)
    (condition : ∀ self action world, other.condition thread self action world →
      contract.condition thread self action world)
    (accepts : ∀ self action oracle world, other.accepts thread self action oracle world →
      contract.accepts thread self action oracle world)
    (guarantee : ∀ self action world, other.invariant world →
      contract.guarantee thread self action world →
      other.guarantee thread self action world)
    (safe : contract.Safe thread fuel program post world) :
    other.Safe thread fuel program post world := by
  induction fuel generalizing program world with
  | zero => trivial
  | succ fuel ih =>
      cases program with
      | done value => exact safe
      | act self action next =>
          intro before relied kept met
          obtain ⟨guaranteed, following⟩ :=
            safe before (rely world before relied) (invariant before kept)
              (condition self action before met)
          exact ⟨guarantee self action before kept guaranteed,
            fun oracle result after accepted performed =>
              ih (following oracle result after
                (accepts self action oracle before accepted) performed)⟩
      | loop body state next => exact ih safe

/-! ### Triples of routines -/

variable {State : Type}

/-- Started where the precondition holds, the routine keeps the contract, and it
returns only where the postcondition holds. -/
def Triple (contract : Contract machine) (thread : Thread) (pre : State → World → Prop)
    (routine : Routine signature Private State α) (post : α → State → World → Prop) : Prop :=
  ∀ self world, pre self world → ∀ fuel,
    contract.Safe thread fuel (routine self) (fun out => post out.1 out.2) world

variable {pre stronger : State → World → Prop}

theorem Triple.conseq {routine : Routine signature Private State α}
    {post weaker : α → State → World → Prop}
    (triple : contract.Triple thread pre routine post)
    (strengthen : ∀ self world, stronger self world → pre self world)
    (weaken : ∀ value self world, post value self world → weaker value self world) :
    contract.Triple thread stronger routine weaker := by
  intro self world holds fuel
  exact (triple self world (strengthen self world holds) fuel).conseq
    (fun out after => weaken out.1 out.2 after)

theorem Triple.strengthen {routine : Routine signature Private State α}
    {post : α → State → World → Prop}
    (triple : contract.Triple thread pre routine post)
    (implied : ∀ self world, stronger self world → pre self world) :
    contract.Triple thread stronger routine post :=
  triple.conseq implied (fun _ _ _ holds => holds)

theorem Triple.weaken {routine : Routine signature Private State α}
    {post weaker : α → State → World → Prop}
    (triple : contract.Triple thread pre routine post)
    (implied : ∀ value self world, post value self world → weaker value self world) :
    contract.Triple thread pre routine weaker :=
  triple.conseq (fun _ _ holds => holds) implied

theorem Triple.assume {routine : Routine signature Private State α}
    {post : α → State → World → Prop} {fact : Prop}
    (implied : ∀ self world, pre self world → fact)
    (triple : fact → contract.Triple thread pre routine post) :
    contract.Triple thread pre routine post := by
  intro self world holds fuel
  exact triple (implied self world holds) self world holds fuel

theorem Triple.given (fact : Prop) {routine : Routine signature Private State α}
    {post : α → State → World → Prop} (implied : ∀ self world, pre self world → fact)
    (triple : fact → contract.Triple thread pre routine post) :
    contract.Triple thread pre routine post :=
  Triple.assume implied triple

theorem Triple.exists {ι : Type} {holding : ι → State → World → Prop}
    {routine : Routine signature Private State α} {post : α → State → World → Prop}
    (triple : ∀ index, contract.Triple thread (holding index) routine post) :
    contract.Triple thread (fun self world => ∃ index, holding index self world)
      routine post := by
  rintro self world ⟨index, holds⟩ fuel
  exact triple index self world holds fuel

theorem Triple.pure (value : α) {post : α → State → World → Prop}
    (holds : ∀ self world, pre self world → post value self world) :
    contract.Triple thread pre (Pure.pure value) post := by
  intro self world held fuel
  cases fuel with
  | zero => trivial
  | succ fuel => exact holds self world held

theorem Triple.bind {routine : Routine signature Private State α}
    {rest : α → Routine signature Private State β}
    {middle : α → State → World → Prop} {post : β → State → World → Prop}
    (first : contract.Triple thread pre routine middle)
    (second : ∀ value, contract.Triple thread (middle value) (rest value) post) :
    contract.Triple thread pre (routine >>= rest) post := by
  intro self world holds fuel
  exact (first self world holds fuel).bind _
    (fun out after held remaining _fewer => second out.1 out.2 after held remaining)

theorem Triple.through (middle : α → State → World → Prop)
    {routine : Routine signature Private State α} {rest : α → Routine signature Private State β}
    {post : β → State → World → Prop}
    (first : contract.Triple thread pre routine middle)
    (second : ∀ value, contract.Triple thread (middle value) (rest value) post) :
    contract.Triple thread pre (routine >>= rest) post :=
  Triple.bind first second

theorem Triple.map {routine : Routine signature Private State α} {change : α → β}
    {post : β → State → World → Prop}
    (triple : contract.Triple thread pre routine
      (fun value => post (change value))) :
    contract.Triple thread pre (change <$> routine) post :=
  Triple.bind triple (fun value => Triple.pure (change value) (fun _ _ holds => holds))

theorem Triple.get :
    contract.Triple thread pre (MonadState.get : Routine signature Private State State)
      (fun value self world => value = self ∧ pre self world) := by
  intro self world holds fuel
  cases fuel with
  | zero => trivial
  | succ fuel => exact ⟨rfl, holds⟩

theorem Triple.update {change : State → State} {post : State → World → Prop}
    (holds : ∀ self world, pre self world → post (change self) world) :
    contract.Triple thread pre
      (modify change : Routine signature Private State Unit)
      (fun _ => post) := by
  intro self world held fuel
  cases fuel with
  | zero => trivial
  | succ fuel => exact holds self world held

/-- The rule of one action: the assertion must survive what the others do, and
in what is left of it the action must keep the contract. -/
theorem Triple.performAccepted {view : State → Private} {action : signature.Action}
    {post : signature.Result action → State → World → Prop}
    (kept : ∀ self world before, pre self world → contract.rely thread world before →
      contract.invariant before → contract.condition thread (view self) action before →
      contract.guarantee thread (view self) action before ∧
      ∀ oracle result after, contract.accepts thread (view self) action oracle before →
        machine.perform action oracle before = some (result, after) →
        post result self after) :
    contract.Triple thread pre (Routine.perform view action) post := by
  intro self world holds fuel
  cases fuel with
  | zero => trivial
  | succ fuel =>
      intro before relied invariant met
      obtain ⟨guaranteed, following⟩ := kept self world before holds relied invariant met
      refine ⟨guaranteed, fun oracle result after accepted performed => ?_⟩
      cases fuel with
      | zero => trivial
      | succ fuel => exact following oracle result after accepted performed

theorem Triple.perform {view : State → Private} {action : signature.Action}
    {post : signature.Result action → State → World → Prop}
    (kept : ∀ self world before, pre self world → contract.rely thread world before →
      contract.invariant before → contract.condition thread (view self) action before →
      contract.guarantee thread (view self) action before ∧
      ∀ oracle result after, machine.perform action oracle before = some (result, after) →
        post result self after) :
    contract.Triple thread pre (Routine.perform view action) post := by
  apply Triple.performAccepted
  intro self world before holds relied invariant met
  obtain ⟨guaranteed, following⟩ := kept self world before holds relied invariant met
  exact ⟨guaranteed, fun oracle result after _accepted performed =>
    following oracle result after performed⟩

/-- The rule of a loop: what every round keeps holds at the end of the last one. -/
theorem Triple.repeat' (kept : γ → State → World → Prop)
    {body : γ → Routine signature Private State (γ ⊕ β)} {post : β → State → World → Prop}
    (round : ∀ state, contract.Triple thread (kept state) (body state)
      (fun result self world => match result with
        | .inl again => kept again self world
        | .inr value => post value self world)) (state : γ) :
    contract.Triple thread (kept state) (Routine.repeat' body state) post := by
  intro self world holds fuel
  induction fuel using Nat.strongRecOn generalizing state self world with
  | ind fuel ih =>
      cases fuel with
      | zero => trivial
      | succ fuel =>
          refine Safe.bind (fun result after => match result with
            | .inl (again, self) => kept again self after
            | .inr (value, self) => post value self after) ?_ ?_
          · refine Safe.bind _ (round state self world holds fuel) ?_
            rintro ⟨result, self⟩ after held remaining _fewer
            cases remaining with
            | zero => trivial
            | succ remaining => cases result <;> exact held
          · rintro (⟨again, self⟩ | ⟨value, self⟩) after held remaining fewer
            · exact ih remaining (by omega) again self after held
            · cases remaining with
              | zero => trivial
              | succ remaining => exact held

theorem Triple.forever {body : Routine signature Private State Unit}
    (round : contract.Triple thread pre body (fun _ => pre)) {self : State} {world : World}
    (holds : pre self world) (fuel : Nat) (post : Unit → World → Prop) :
    contract.Safe thread fuel (Routine.forever body self) post world := by
  induction fuel using Nat.strongRecOn generalizing self world with
  | ind fuel ih =>
      cases fuel with
      | zero => trivial
      | succ fuel =>
          refine Safe.bind (fun result after => result.elim (fun self => pre self after)
            Empty.elim) ?_ ?_
          · refine Safe.bind _ (round self world holds fuel) ?_
            rintro ⟨result, self⟩ after held remaining _fewer
            cases remaining with
            | zero => trivial
            | succ remaining => exact held
          · rintro (again | never) after held remaining fewer
            · exact ih remaining (by omega) held
            · exact nomatch never

theorem Triple.eachOf (kept : List α → State → World → Prop)
    {body : α → Routine signature Private State Unit} (items : List α)
    (item : ∀ item rest, contract.Triple thread (kept (item :: rest)) (body item)
      (fun _ => kept rest)) :
    contract.Triple thread (kept items) (Routine.each body items) (fun _ => kept []) := by
  induction items with
  | nil => exact Triple.pure () (fun _ _ holds => holds)
  | cons head tail ih => exact Triple.bind (item head tail) (fun _ => ih)

theorem Triple.each {body : α → Routine signature Private State Unit} {items : List α}
    (item : ∀ item, contract.Triple thread pre (body item) (fun _ => pre)) :
    contract.Triple thread pre (Routine.each body items) (fun _ => pre) :=
  Triple.eachOf (fun _ => pre) items (fun head _ => item head)

theorem Triple.fold (kept : List α → β → State → World → Prop)
    {body : β → α → Routine signature Private State β} (items : List α)
    (item : ∀ item rest value, contract.Triple thread (kept (item :: rest) value)
      (body value item) (fun next => kept rest next)) (value : β) :
    contract.Triple thread (kept items value) (Routine.fold body items value)
      (fun result => kept [] result) := by
  induction items generalizing value with
  | nil => exact Triple.pure value (fun _ _ holds => holds)
  | cons head tail ih => exact Triple.bind (item head tail value) ih

/-! ### Families of safe programs -/

/-- Every thread is safe, and so is every thread that starts again. -/
structure Upheld (contract : Contract machine)
    (configuration : Configuration signature Private Thread World) : Prop where
  invariant : contract.invariant configuration.world
  safe : ∀ thread fuel, contract.Safe thread fuel (configuration.program thread)
    (fun _ _ => True) configuration.world

theorem Upheld.guaranteed {configuration : Configuration signature Private Thread World}
    {self : Private} {action : signature.Action}
    (upheld : contract.Upheld configuration)
    (about : configuration.AboutTo thread self action)
    (met : contract.condition thread self action configuration.world) :
    contract.guarantee thread self action configuration.world := by
  obtain ⟨next, placed⟩ := about
  have safe := upheld.safe thread 1
  rw [placed] at safe
  exact (safe configuration.world (contract.relyRefl thread _) upheld.invariant met).1

variable [DecidableEq Thread]

private theorem upheld_launch {configuration : Configuration signature Private Thread World}
    {program : Program signature Private Unit} (after : World)
    (upheld : contract.Upheld configuration) (kept : contract.invariant after)
    (relied : ∀ other, other ≠ thread → contract.rely other configuration.world after)
    (safe : ∀ fuel, contract.Safe thread fuel program (fun _ _ => True) after) :
    contract.Upheld ({ configuration with world := after }.launch thread program) := by
  refine ⟨kept, fun other fuel => ?_⟩
  by_cases same : other = thread
  · subst same
    rw [Configuration.launch_same]
    exact safe fuel
  · rw [Configuration.launch_other _ _ same]
    exact (upheld.safe other fuel).interfere (fun _ _ _ _ _ => trivial) (relied other same)

/-- The rule of one step of the interleaving. -/
theorem Upheld.move {configuration after : Configuration signature Private Thread World}
    {first : Move Thread machine.Oracle}
    (boots : ∀ thread world program later, first = .crash thread → contract.invariant world →
      machine.restart thread world = some (program, later) →
      ∀ fuel, contract.Safe thread fuel program (fun _ _ => True) later)
    (upheld : contract.Upheld configuration)
    (met : ∀ thread oracle self action, first = .step thread oracle →
      configuration.AboutTo thread self action →
        contract.condition thread self action configuration.world)
    (accepted : ∀ thread oracle self action, first = .step thread oracle →
      configuration.AboutTo thread self action →
        contract.accepts thread self action oracle configuration.world)
    (moved : machine.move configuration first = some after) :
    contract.Upheld after := by
  cases first with
  | step thread oracle =>
      rcases Machine.move_step moved with
        ⟨self, action, next, result, world, placed, performed, rfl⟩ |
          ⟨β, γ, body, state, next, placed, rfl⟩
      · have condition := met thread oracle self action rfl ⟨next, placed⟩
        have answered := accepted thread oracle self action rfl ⟨next, placed⟩
        have proceeds : ∀ fuel,
            contract.guarantee thread self action configuration.world ∧
            ∀ oracle result after,
              contract.accepts thread self action oracle configuration.world →
              machine.perform action oracle configuration.world = some (result, after) →
              contract.Safe thread fuel (next result) (fun _ _ => True) after := by
          intro fuel
          have safe := upheld.safe thread (fuel + 1)
          rw [placed] at safe
          exact safe configuration.world (contract.relyRefl thread _)
            upheld.invariant condition
        obtain ⟨kept, relied⟩ :=
          contract.performed upheld.invariant condition (proceeds 0).1 performed
        exact upheld_launch _ upheld kept relied
          (fun fuel => (proceeds fuel).2 oracle result world answered performed)
      · refine upheld_launch configuration.world upheld upheld.invariant
          (fun other _ => contract.relyRefl other _) (fun fuel => ?_)
        have safe := upheld.safe thread (fuel + 1)
        rw [placed] at safe
        exact safe
  | crash thread =>
      obtain ⟨program, world, restarted, rfl⟩ := Machine.move_crash moved
      obtain ⟨kept, relied⟩ := contract.restarted upheld.invariant restarted
      exact upheld_launch _ upheld kept relied
        (boots thread configuration.world program world rfl upheld.invariant restarted)

/-- Soundness, where some threads do not crash: only the others have to start again. -/
theorem Upheld.runSparing {configuration after : Configuration signature Private Thread World}
    {moves : List (Move Thread machine.Oracle)} {spared : Thread → Prop}
    (boots : ∀ thread world program later, ¬ spared thread → contract.invariant world →
      machine.restart thread world = some (program, later) →
      ∀ fuel, contract.Safe thread fuel program (fun _ _ => True) later)
    (noCrash : ∀ thread, spared thread → .crash thread ∉ moves)
    (upheld : contract.Upheld configuration)
    (met : machine.Meets contract.condition configuration moves)
    (accepted : machine.Accepts contract.accepts configuration moves)
    (ran : machine.run configuration moves = some after) : contract.Upheld after := by
  induction moves generalizing configuration with
  | nil =>
      cases ran
      exact upheld
  | cons first rest ih =>
      simp only [Machine.run] at ran
      split at ran
      · cases ran
      · rename_i next moved
        have rested : ∀ thread, spared thread → .crash thread ∉ rest :=
          fun thread is_spared member =>
            noCrash thread is_spared (List.mem_cons_of_mem first member)
        refine ih rested (upheld.move ?_ met.1 accepted.1 moved) (met.2 next moved)
          (accepted.2 next moved) ran
        intro thread world program later crashes holds restarted
        subst crashes
        exact boots thread world program later
          (fun is_spared => noCrash thread is_spared List.mem_cons_self) holds restarted

/-- Soundness: a family of safe programs upholds its contract in every run. -/
theorem Upheld.run {configuration after : Configuration signature Private Thread World}
    {moves : List (Move Thread machine.Oracle)}
    (boots : ∀ thread world program later, contract.invariant world →
      machine.restart thread world = some (program, later) →
      ∀ fuel, contract.Safe thread fuel program (fun _ _ => True) later)
    (upheld : contract.Upheld configuration)
    (met : machine.Meets contract.condition configuration moves)
    (accepted : machine.Accepts contract.accepts configuration moves)
    (ran : machine.run configuration moves = some after) : contract.Upheld after := by
  have noCrash : ∀ thread : Thread, False → .crash thread ∉ moves := fun _ => False.elim
  exact Upheld.runSparing (fun thread world program later _spared =>
    boots thread world program later) noCrash upheld met accepted ran

/-- What every guaranteed action keeps under a condition of its own, a whole run keeps. -/
theorem Upheld.keeps {extra : Thread → Private → signature.Action → World → Prop}
    {kept : World → Prop} {configuration after : Configuration signature Private Thread World}
    {moves : List (Move Thread machine.Oracle)}
    (boots : ∀ thread world program later, contract.invariant world →
      machine.restart thread world = some (program, later) →
      ∀ fuel, contract.Safe thread fuel program (fun _ _ => True) later)
    (acted : ∀ {thread self action oracle world result later}, contract.invariant world →
      contract.guarantee thread self action world → extra thread self action world →
      machine.perform action oracle world = some (result, later) → kept world → kept later)
    (crashed : ∀ {thread world program later}, contract.invariant world →
      machine.restart thread world = some (program, later) → kept world → kept later)
    (upheld : contract.Upheld configuration)
    (met : machine.Meets contract.condition configuration moves)
    (accepted : machine.Accepts contract.accepts configuration moves)
    (further : machine.Meets extra configuration moves)
    (ran : machine.run configuration moves = some after) (holds : kept configuration.world) :
    kept after.world := by
  induction moves generalizing configuration with
  | nil =>
      cases ran
      exact holds
  | cons first rest ih =>
      simp only [Machine.run] at ran
      split at ran
      · cases ran
      · rename_i next moved
        refine ih (upheld.move (fun thread world program later _crashes =>
            boots thread world program later) met.1 accepted.1 moved) (met.2 next moved)
          (accepted.2 next moved) (further.2 next moved) ran ?_
        cases first with
        | step thread oracle =>
            rcases Machine.move_step moved with
              ⟨self, action, continuation, result, world, placed, performed, rfl⟩ |
                ⟨β, γ, body, state, continuation, placed, rfl⟩
            · have about : configuration.AboutTo thread self action := ⟨continuation, placed⟩
              exact acted upheld.invariant
                (upheld.guaranteed about (met.1 thread oracle self action rfl about))
                (further.1 thread oracle self action rfl about) performed holds
            · exact holds
        | crash thread =>
            obtain ⟨program, world, restarted, rfl⟩ := Machine.move_crash moved
            exact crashed upheld.invariant restarted holds

theorem Upheld.meets_held {extra : Thread → Private → signature.Action → World → Prop}
    {configuration : Configuration signature Private Thread World}
    {moves : List (Move Thread machine.Oracle)}
    (boots : ∀ thread world program later, contract.invariant world →
      machine.restart thread world = some (program, later) →
      ∀ fuel, contract.Safe thread fuel program (fun _ _ => True) later)
    (upheld : contract.Upheld configuration)
    (met : machine.Meets contract.condition configuration moves)
    (accepted : machine.Accepts contract.accepts configuration moves)
    (further : machine.Meets extra configuration moves) :
    machine.Meets (fun thread self action world =>
      extra thread self action world ∧ contract.invariant world) configuration moves := by
  induction moves generalizing configuration with
  | nil => trivial
  | cons first rest ih =>
      constructor
      · intro thread oracle self action same about
        exact ⟨further.1 thread oracle self action same about, upheld.invariant⟩
      · intro next moved
        exact ih (upheld.move (fun thread world program later _crashes =>
            boots thread world program later) met.1 accepted.1 moved) (met.2 next moved)
          (accepted.2 next moved) (further.2 next moved)

theorem Upheld.launch {configuration : Configuration signature Private Thread World}
    {program : Program signature Private Unit} (upheld : contract.Upheld configuration)
    (safe : ∀ fuel, contract.Safe thread fuel program (fun _ _ => True) configuration.world) :
    contract.Upheld (configuration.launch thread program) :=
  upheld_launch configuration.world upheld upheld.invariant
    (fun other _ => contract.relyRefl other _) safe

/-- One thread goes on with another program and under a contract that is the same to the
others. -/
theorem Upheld.exchange {first second : Contract machine}
    {configuration : Configuration signature Private Thread World}
    {program : Program signature Private Unit} (upheld : first.Upheld configuration)
    (holds : second.invariant configuration.world)
    (others : ∀ other, other ≠ thread → ∀ fuel (program : Program signature Private Unit) world,
      first.Safe other fuel program (fun _ _ => True) world →
      second.Safe other fuel program (fun _ _ => True) world)
    (safe : ∀ fuel, second.Safe thread fuel program (fun _ _ => True) configuration.world) :
    second.Upheld (configuration.launch thread program) := by
  refine ⟨holds, fun other fuel => ?_⟩
  by_cases same : other = thread
  · subst same
    rw [Configuration.launch_same]
    exact safe fuel
  · rw [Configuration.launch_other _ _ same]
    exact others other same fuel _ _ (upheld.safe other fuel)

/-! ### Two contracts at once -/

def both (first second : Contract machine) : Contract machine where
  condition := fun thread self action world =>
    first.condition thread self action world ∧ second.condition thread self action world
  accepts := fun thread self action oracle world =>
    first.accepts thread self action oracle world ∧ second.accepts thread self action oracle world
  guarantee := fun thread self action world =>
    first.guarantee thread self action world ∧ second.guarantee thread self action world
  invariant := fun world => first.invariant world ∧ second.invariant world
  rely := fun thread before after =>
    first.rely thread before after ∧ second.rely thread before after
  relyRefl := fun thread world => ⟨first.relyRefl thread world, second.relyRefl thread world⟩
  relyTrans := fun left right =>
    ⟨first.relyTrans left.1 right.1, second.relyTrans left.2 right.2⟩
  performed := by
    intro thread self action oracle world result after holds met guaranteed performed
    obtain ⟨kept, relied⟩ := first.performed holds.1 met.1 guaranteed.1 performed
    obtain ⟨keptToo, reliedToo⟩ := second.performed holds.2 met.2 guaranteed.2 performed
    exact ⟨⟨kept, keptToo⟩, fun other different =>
      ⟨relied other different, reliedToo other different⟩⟩
  restarted := by
    intro thread world program after holds restarted
    obtain ⟨kept, relied⟩ := first.restarted holds.1 restarted
    obtain ⟨keptToo, reliedToo⟩ := second.restarted holds.2 restarted
    exact ⟨⟨kept, keptToo⟩, fun other different =>
      ⟨relied other different, reliedToo other different⟩⟩

omit [DecidableEq Thread] in
theorem Safe.both {first second : Contract machine} {fuel : Nat}
    {program : Program signature Private α} {post further : α → World → Prop} {world : World}
    (safe : first.Safe thread fuel program post world)
    (safeToo : second.Safe thread fuel program further world) :
    (first.both second).Safe thread fuel program
      (fun value after => post value after ∧ further value after) world := by
  induction fuel generalizing program world with
  | zero => trivial
  | succ fuel ih =>
      cases program with
      | done value => exact ⟨safe, safeToo⟩
      | act self action next =>
          intro before relied kept met
          obtain ⟨guaranteed, following⟩ := safe before relied.1 kept.1 met.1
          obtain ⟨guaranteedToo, followingToo⟩ := safeToo before relied.2 kept.2 met.2
          exact ⟨⟨guaranteed, guaranteedToo⟩, fun oracle result after accepted performed =>
            ih (following oracle result after accepted.1 performed)
              (followingToo oracle result after accepted.2 performed)⟩
      | loop body state next => exact ih safe safeToo

omit [DecidableEq Thread] in
theorem Safe.adopt {first second : Contract machine} {fuel : Nat}
    {program : Program signature Private α} {post : α → World → Prop} {world : World}
    (implied : ∀ self action world, first.invariant world →
      first.guarantee thread self action world → second.guarantee thread self action world)
    (safe : first.Safe thread fuel program post world) :
    (first.both second).Safe thread fuel program post world :=
  safe.weaken (fun _ _ relied => relied.1) (fun _ holds => holds.1) (fun _ _ _ met => met.1)
    (fun _ _ _ _ accepted => accepted.1)
    (fun self action world holds guaranteed =>
      ⟨guaranteed, implied self action world holds.1 guaranteed⟩)

omit [DecidableEq Thread] in
theorem Upheld.both {first second : Contract machine}
    {configuration : Configuration signature Private Thread World}
    (upheld : first.Upheld configuration) (holds : second.invariant configuration.world)
    (each : ∀ thread, (∀ self action world, first.invariant world →
        first.guarantee thread self action world → second.guarantee thread self action world) ∨
      ∀ fuel, second.Safe thread fuel (configuration.program thread) (fun _ _ => True)
        configuration.world) :
    (first.both second).Upheld configuration := by
  refine ⟨⟨upheld.invariant, holds⟩, fun thread fuel => ?_⟩
  rcases each thread with implied | safe
  · exact (upheld.safe thread fuel).adopt implied
  · exact ((upheld.safe thread fuel).both (safe fuel)).conseq (fun _ _ _ => trivial)

end Contract
end Interleaving
