/-
Programs that run with nobody else.

A program that is alone ends in a value and a world, or it does not end: it may be stuck,
or go on for ever. Two routines agree where both of them end or neither, and where they
end in related states, whatever the outside answers to each of them.
-/

import Myelon.Interleaving.Execution

namespace Interleaving

variable {signature : Signature} {Private Thread World α β γ : Type}

namespace Machine

variable (machine : Machine signature Private Thread World)

/-- The run of one program, with an answer of the outside for each of its steps. -/
def alone : List machine.Oracle → Program signature Private α → World → Option (α × World)
  | [], .done value, world => some (value, world)
  | oracle :: rest, .act _ action next, world =>
      match machine.perform action oracle world with
      | none => none
      | some (result, after) => alone rest (next result) after
  | _ :: rest, .loop body state next, world =>
      alone rest (Program.unroll body state next) world
  | _, _, _ => none

def Ends (program : Program signature Private α) (world : World) (value : α) (after : World) :
    Prop :=
  ∃ oracles, machine.alone oracles program world = some (value, after)

/-! ### One thread of many -/

def advance : List machine.Oracle → Program signature Private α → World →
    Option (Program signature Private α × World)
  | [], program, world => some (program, world)
  | oracle :: rest, .act _ action next, world =>
      match machine.perform action oracle world with
      | none => none
      | some (result, after) => advance rest (next result) after
  | _ :: rest, .loop body state next, world =>
      advance rest (Program.unroll body state next) world
  | _ :: _, .done _, _ => none

variable {machine}

theorem run_advance [DecidableEq Thread] {thread : Thread} {oracles : List machine.Oracle}
    {configuration : Configuration signature Private Thread World}
    {program : Program signature Private Unit} {world : World}
    (advanced : machine.advance oracles (configuration.program thread) configuration.world =
      some (program, world)) :
    machine.run configuration (oracles.map (.step thread)) =
      some ({ configuration with world := world }.launch thread program) := by
  induction oracles generalizing configuration with
  | nil =>
      cases advanced
      simp only [List.map_nil, run, Configuration.launch, Function.update_eq_self]
  | cons oracle rest ih =>
      cases placed : configuration.program thread with
      | done value =>
          rw [placed] at advanced
          cases advanced
      | act self action next =>
          simp only [placed, advance] at advanced
          simp only [List.map_cons, run, move, placed]
          cases performed : machine.perform action oracle configuration.world with
          | none =>
              rw [performed] at advanced
              cases advanced
          | some outcome =>
              rw [performed] at advanced
              simp only
              rw [ih (by
                simpa only [Configuration.launch_same, Configuration.launch_world] using advanced)]
              simp only [Configuration.launch, Function.update_idem]
      | loop body state next =>
          simp only [placed, advance] at advanced
          simp only [List.map_cons, run, move, placed]
          rw [ih (by
            simpa only [Configuration.launch_same, Configuration.launch_world] using advanced)]
          simp only [Configuration.launch, Function.update_idem]

/-! ### How a program ends -/

theorem alone_append {first second : List machine.Oracle}
    {program : Program signature Private α} {rest : α → Program signature Private β}
    {world middle after : World} {value : α} {result : β}
    (ended : machine.alone first program world = some (value, middle))
    (later : machine.alone second (rest value) middle = some (result, after)) :
    machine.alone (first ++ second) (program.bind rest) world = some (result, after) := by
  induction first generalizing program world with
  | nil =>
      cases program with
      | done value =>
          cases ended
          exact later
      | act self action next => cases ended
      | loop body state next => cases ended
  | cons oracle oracles ih =>
      cases program with
      | done value => cases ended
      | act self action next =>
          simp only [alone] at ended
          split at ended
          · cases ended
          · rename_i outcome between performed
            simp only [List.cons_append, Program.bind, alone, performed]
            exact ih ended
      | loop body state next =>
          simp only [List.cons_append, Program.bind, alone]
          rw [← Program.unroll_bind]
          exact ih ended

theorem alone_split {oracles : List machine.Oracle}
    {program : Program signature Private α} {rest : α → Program signature Private β}
    {world after : World} {result : β}
    (ended : machine.alone oracles (program.bind rest) world = some (result, after)) :
    ∃ first second value middle, oracles = first ++ second ∧
      machine.alone first program world = some (value, middle) ∧
      machine.alone second (rest value) middle = some (result, after) := by
  induction oracles generalizing program world with
  | nil =>
      cases program with
      | done value => exact ⟨[], [], value, world, rfl, rfl, ended⟩
      | act self action next => cases ended
      | loop body state next => cases ended
  | cons oracle oracles ih =>
      cases program with
      | done value => exact ⟨[], oracle :: oracles, value, world, rfl, rfl, ended⟩
      | act self action next =>
          simp only [Program.bind, alone] at ended
          split at ended
          · cases ended
          · rename_i outcome between performed
            obtain ⟨first, second, value, middle, rfl, started, later⟩ := ih ended
            refine ⟨oracle :: first, second, value, middle, rfl, ?_, later⟩
            simp only [alone, performed]
            exact started
      | loop body state next =>
          simp only [Program.bind, alone] at ended
          rw [← Program.unroll_bind] at ended
          obtain ⟨first, second, value, middle, rfl, started, later⟩ := ih ended
          exact ⟨oracle :: first, second, value, middle, rfl, started, later⟩

theorem ends_done {value result : α} {world after : World} :
    machine.Ends (.done value) world result after ↔ result = value ∧ after = world := by
  constructor
  · rintro ⟨oracles, ended⟩
    cases oracles with
    | nil =>
        cases ended
        exact ⟨rfl, rfl⟩
    | cons oracle oracles => cases ended
  · rintro ⟨rfl, rfl⟩
    exact ⟨[], rfl⟩

theorem ends_act {self : Private} {action : signature.Action}
    {next : signature.Result action → Program signature Private α} {world after : World}
    {value : α} :
    machine.Ends (.act self action next) world value after ↔
      ∃ oracle result middle, machine.perform action oracle world = some (result, middle) ∧
        machine.Ends (next result) middle value after := by
  constructor
  · rintro ⟨oracles, ended⟩
    cases oracles with
    | nil => cases ended
    | cons oracle oracles =>
        simp only [alone] at ended
        split at ended
        · cases ended
        · rename_i result middle performed
          exact ⟨oracle, result, middle, performed, oracles, ended⟩
  · rintro ⟨oracle, result, middle, performed, oracles, ended⟩
    refine ⟨oracle :: oracles, ?_⟩
    simp only [alone, performed]
    exact ended

theorem ends_bind {program : Program signature Private α}
    {rest : α → Program signature Private β} {world after : World} {result : β} :
    machine.Ends (program.bind rest) world result after ↔
      ∃ value middle, machine.Ends program world value middle ∧
        machine.Ends (rest value) middle result after := by
  constructor
  · rintro ⟨oracles, ended⟩
    obtain ⟨first, second, value, middle, _same, started, later⟩ := alone_split ended
    exact ⟨value, middle, ⟨first, started⟩, second, later⟩
  · rintro ⟨value, middle, ⟨first, started⟩, second, later⟩
    exact ⟨first ++ second, alone_append started later⟩

/-! ### Programs that are never stuck -/

/-- Within so many steps the program comes to no action that has no outcome. -/
def Flows (machine : Machine signature Private Thread World) :
    Nat → Program signature Private α → World → Prop
  | 0, _, _ => True
  | _ + 1, .done _, _ => True
  | steps + 1, .act _ action next, world =>
      (∃ oracle result after, machine.perform action oracle world = some (result, after)) ∧
      ∀ oracle result after, machine.perform action oracle world = some (result, after) →
        Flows machine steps (next result) after
  | steps + 1, .loop body state next, world =>
      Flows machine steps (Program.unroll body state next) world

theorem flows_done (steps : Nat) (value : α) (world : World) :
    machine.Flows steps (.done value : Program signature Private α) world := by
  cases steps with
  | zero => exact trivial
  | succ steps => exact trivial

theorem flows_pred {steps : Nat} {program : Program signature Private α} {world : World}
    (flows : machine.Flows (steps + 1) program world) : machine.Flows steps program world := by
  induction steps generalizing program world with
  | zero => exact trivial
  | succ steps ih =>
      cases program with
      | done value => exact trivial
      | act self action next =>
          exact ⟨flows.1, fun oracle result after performed =>
            ih (flows.2 oracle result after performed)⟩
      | loop body state next =>
          have unrolled : machine.Flows (steps + 1) (Program.unroll body state next) world := flows
          have fewer : machine.Flows steps (Program.unroll body state next) world := ih unrolled
          exact fewer

theorem ends_loop (oracle : machine.Oracle) {State : Type}
    {body : State → Program signature Private (State ⊕ β)}
    {state : State} {next : β → Program signature Private α} {world after : World} {value : α}
    (unrolled : machine.Ends (Program.unroll body state next) world value after) :
    machine.Ends (.loop body state next) world value after := by
  obtain ⟨oracles, ran⟩ := unrolled
  exact ⟨oracle :: oracles, ran⟩

theorem flows_bind (oracle : machine.Oracle) {steps : Nat} {program : Program signature Private α}
    {rest : α → Program signature Private β} {world : World}
    (first : machine.Flows steps program world)
    (second : ∀ value middle, machine.Ends program world value middle →
      machine.Flows steps (rest value) middle) :
    machine.Flows steps (program.bind rest) world := by
  induction steps generalizing program world with
  | zero => exact trivial
  | succ steps ih =>
      cases program with
      | done value => exact second value world (ends_done.mpr ⟨rfl, rfl⟩)
      | act self action next =>
          refine ⟨first.1, fun oracle result after performed => ?_⟩
          apply ih (first.2 oracle result after performed)
          intro value middle ended
          exact flows_pred (second value middle
            (ends_act.mpr ⟨oracle, result, after, performed, ended⟩))
      | loop body state next =>
          change machine.Flows steps (Program.unroll body state fun result =>
            (next result).bind rest) world
          rw [← Program.unroll_bind]
          exact ih first fun value middle ended =>
            flows_pred (second value middle (ends_loop oracle ended))

/-! ### How a loop ends -/

variable {State : Type}

theorem alone_repeat {body : γ → Routine signature Private State (γ ⊕ β)} {state : γ}
    {self : State} {world after : World} {out : β × State} {oracles : List machine.Oracle}
    (ended : machine.alone oracles (Routine.repeat' body state self) world = some (out, after)) :
    ∃ result later middle, machine.Ends (body state self) world (result, later) middle ∧
      match result with
      | .inl again => ∃ fewer, fewer.length < oracles.length ∧
          machine.alone fewer (Routine.repeat' body again later) middle = some (out, after)
      | .inr value => out = (value, later) ∧ after = middle := by
  cases oracles with
  | nil => cases ended
  | cons oracle oracles =>
      simp only [Routine.repeat', alone] at ended
      obtain ⟨first, second, round, middle, rfl, started, later⟩ := alone_split ended
      obtain ⟨inner, step, ⟨result, after⟩, between, rfl, ran, returned⟩ := alone_split started
      refine ⟨result, after, between, ⟨inner, ran⟩, ?_⟩
      cases result with
      | inl again =>
          obtain ⟨rfl, rfl⟩ := ends_done.mp ⟨step, returned⟩
          refine ⟨second, ?_, later⟩
          simp only [List.length_cons, List.length_append]
          omega
      | inr value =>
          obtain ⟨rfl, rfl⟩ := ends_done.mp ⟨step, returned⟩
          exact ends_done.mp ⟨second, later⟩

/-- One more round before a loop that ends. The unrolling takes an answer too, any of them. -/
theorem ends_repeat (oracle : machine.Oracle)
    {body : γ → Routine signature Private State (γ ⊕ β)} {state : γ}
    {self later : State} {world middle after : World} {result : γ ⊕ β} {out : β × State}
    (ended : machine.Ends (body state self) world (result, later) middle)
    (goesOn : match result with
      | .inl again => machine.Ends (Routine.repeat' body again later) middle out after
      | .inr value => out = (value, later) ∧ after = middle) :
    machine.Ends (Routine.repeat' body state self) world out after := by
  have unrolled : machine.Ends
      (Program.unroll (fun round : γ × State => do
        let (result, after) ← body round.1 round.2
        match result with
        | .inl again => pure (.inl (again, after))
        | .inr result => pure (.inr (result, after))) (state, self) .done) world out after := by
    cases result with
    | inl again =>
        exact ends_bind.mpr ⟨.inl (again, later), middle,
          ends_bind.mpr ⟨_, _, ended, ends_done.mpr ⟨rfl, rfl⟩⟩, goesOn⟩
    | inr value =>
        obtain ⟨rfl, rfl⟩ := goesOn
        exact ends_bind.mpr ⟨.inr (value, later), after,
          ends_bind.mpr ⟨_, _, ended, ends_done.mpr ⟨rfl, rfl⟩⟩, ends_done.mpr ⟨rfl, rfl⟩⟩
  exact ends_loop oracle unrolled

theorem flows_repeat (oracle : machine.Oracle) {steps : Nat}
    {body : γ → Routine signature Private State (γ ⊕ β)} {state : γ} {self : State}
    {world : World} (round : machine.Flows steps (body state self) world)
    (goesOn : ∀ again later middle,
      machine.Ends (body state self) world (.inl again, later) middle →
        machine.Flows steps (Routine.repeat' body again later) middle) :
    machine.Flows (steps + 1) (Routine.repeat' body state self) world := by
  change machine.Flows steps (Program.bind (Program.bind (body state self) _) _) world
  apply flows_bind oracle
  · apply flows_bind oracle round
    rintro ⟨result, later⟩ middle _ended
    cases result with
    | inl again => exact flows_done _ _ _
    | inr value => exact flows_done _ _ _
  · intro value middle ended
    obtain ⟨⟨result, later⟩, between, ran, returned⟩ := ends_bind.mp ended
    cases result with
    | inl again =>
        obtain ⟨rfl, rfl⟩ := ends_done.mp returned
        exact goesOn again later middle ran
    | inr value =>
        obtain ⟨rfl, rfl⟩ := ends_done.mp returned
        exact flows_done _ _ _

/-! ### Routines that may not end -/

/-- Started where the precondition holds, the routine ends nowhere but where the
postcondition holds; it need not end. -/
def Leads (machine : Machine signature Private Thread World) (pre : State → World → Prop)
    (routine : Routine signature Private State α) (post : α → State → World → Prop) : Prop :=
  ∀ self world, pre self world →
    ∀ out after, machine.Ends (routine self) world out after → post out.1 out.2 after

namespace Leads

variable {pre stronger : State → World → Prop} {post weaker : α → State → World → Prop}

theorem conseq {routine : Routine signature Private State α}
    (leads : machine.Leads pre routine post)
    (strengthen : ∀ self world, stronger self world → pre self world)
    (weaken : ∀ value self world, post value self world → weaker value self world) :
    machine.Leads stronger routine weaker :=
  fun self world held out after ended =>
    weaken _ _ _ (leads self world (strengthen self world held) out after ended)

theorem strengthen {routine : Routine signature Private State α}
    (leads : machine.Leads pre routine post)
    (implied : ∀ self world, stronger self world → pre self world) :
    machine.Leads stronger routine post :=
  leads.conseq implied (fun _ _ _ held => held)

theorem given (fact : Prop) {routine : Routine signature Private State α}
    (implied : ∀ self world, pre self world → fact)
    (leads : fact → machine.Leads pre routine post) : machine.Leads pre routine post :=
  fun self world held => leads (implied self world held) self world held

theorem instead {routine other : Routine signature Private State α}
    (same : ∀ self world, pre self world → routine self = other self)
    (leads : machine.Leads pre other post) : machine.Leads pre routine post := by
  intro self world held
  rw [same self world held]
  exact leads self world held

theorem bind {routine : Routine signature Private State α}
    {rest : α → Routine signature Private State β} {middle : α → State → World → Prop}
    {post : β → State → World → Prop} (first : machine.Leads pre routine middle)
    (second : ∀ value, machine.Leads (middle value) (rest value) post) :
    machine.Leads pre (routine >>= rest) post := by
  intro self world held out after whole
  obtain ⟨⟨value, between⟩, reached, ended, later⟩ := ends_bind.mp whole
  exact second value between reached (first self world held _ reached ended) out after later

theorem never {routine : Routine signature Private State α}
    {rest : α → Routine signature Private State β} {post : β → State → World → Prop}
    (stuck : machine.Leads pre routine (fun _ _ _ => False)) :
    machine.Leads pre (routine >>= rest) post :=
  bind stuck (fun _ _ _ impossible => impossible.elim)

theorem repeat' {body : γ → Routine signature Private State (γ ⊕ β)}
    {kept : γ → State → World → Prop} {post : β → State → World → Prop}
    (round : ∀ state, machine.Leads (kept state) (body state) (fun result self world =>
      match result with
      | .inl again => kept again self world
      | .inr value => post value self world)) (state : γ) :
    machine.Leads (kept state) (Routine.repeat' body state) post := by
  rintro self world held out after ⟨oracles, ended⟩
  induction length : oracles.length using Nat.strongRecOn generalizing oracles state self world with
  | ind length ih =>
      obtain ⟨result, later, middle, ran, goesOn⟩ := alone_repeat ended
      have kept' := round state self world held _ _ ran
      cases result with
      | inl again =>
          obtain ⟨fewer, less, ended⟩ := goesOn
          exact ih fewer.length (by omega) again later middle kept' fewer ended rfl
      | inr value =>
          obtain ⟨rfl, rfl⟩ := goesOn
          exact kept'

/-- A loop without a last round never ends. -/
theorem endless {body : γ → Routine signature Private State (γ ⊕ β)}
    {kept : State → World → Prop}
    (round : ∀ state, machine.Leads kept (body state) (fun result self world =>
      kept self world ∧ ∃ again, result = .inl again)) (state : γ) :
    machine.Leads kept (Routine.repeat' body state) (fun _ _ _ => False) := by
  have rounds : ∀ state, machine.Leads ((fun (_ : γ) => kept) state) (body state)
      (fun result self world => match result with
        | .inl again => (fun (_ : γ) => kept) again self world
        | .inr value => (fun (_ : β) (_ : State) (_ : World) => False) value self world) := by
    intro state
    refine (round state).conseq (fun _ _ held => held) ?_
    intro result self world ⟨held, again, same⟩
    rw [same]
    exact held
  exact repeat' rounds state

end Leads

/-! ### Routines that always end -/

/-- Started where the precondition holds, the routine can end and is never stuck, and it
ends nowhere but where the postcondition holds. -/
def Settles (machine : Machine signature Private Thread World) (pre : State → World → Prop)
    (routine : Routine signature Private State α) (post : α → State → World → Prop) : Prop :=
  ∀ self world, pre self world →
    (∃ out after, machine.Ends (routine self) world out after) ∧
    (∀ out after, machine.Ends (routine self) world out after → post out.1 out.2 after) ∧
    (machine.Oracle → ∀ steps, machine.Flows steps (routine self) world)

theorem Settles.leads {pre : State → World → Prop} {post : α → State → World → Prop}
    {routine : Routine signature Private State α} (settles : machine.Settles pre routine post) :
    machine.Leads pre routine post :=
  fun self world held => (settles self world held).2.1

namespace Settles

variable {pre stronger : State → World → Prop} {post weaker : α → State → World → Prop}

theorem conseq {routine : Routine signature Private State α}
    (settles : machine.Settles pre routine post)
    (strengthen : ∀ self world, stronger self world → pre self world)
    (weaken : ∀ value self world, post value self world → weaker value self world) :
    machine.Settles stronger routine weaker := by
  intro self world held
  obtain ⟨ends, settled, flows⟩ := settles self world (strengthen self world held)
  exact ⟨ends, fun out after ended => weaken out.1 out.2 after (settled out after ended), flows⟩

theorem strengthen {routine : Routine signature Private State α}
    (settles : machine.Settles pre routine post)
    (implied : ∀ self world, stronger self world → pre self world) :
    machine.Settles stronger routine post :=
  settles.conseq implied (fun _ _ _ held => held)

/-- A fact that the precondition implies may be used. -/
theorem given (fact : Prop) {routine : Routine signature Private State α}
    (implied : ∀ self world, pre self world → fact)
    (settles : fact → machine.Settles pre routine post) : machine.Settles pre routine post :=
  fun self world held => settles (implied self world held) self world held

theorem instead {routine other : Routine signature Private State α}
    (same : ∀ self world, pre self world → routine self = other self)
    (settles : machine.Settles pre other post) : machine.Settles pre routine post := by
  intro self world held
  rw [same self world held]
  exact settles self world held

theorem pure (value : α) (holds : ∀ self world, pre self world → post value self world) :
    machine.Settles pre (Pure.pure value) post := by
  intro self world held
  refine ⟨⟨(value, self), world, ends_done.mpr ⟨rfl, rfl⟩⟩, ?_, ?_⟩
  · intro out after ended
    obtain ⟨rfl, rfl⟩ := ends_done.mp ended
    exact holds self after held
  · intro _ steps
    exact flows_done _ _ _

theorem get : machine.Settles pre (MonadState.get : Routine signature Private State State)
    (fun value self world => value = self ∧ pre self world) := by
  intro self world held
  refine ⟨⟨(self, self), world, ends_done.mpr ⟨rfl, rfl⟩⟩, ?_, ?_⟩
  · intro out after ended
    obtain ⟨rfl, rfl⟩ := ends_done.mp ended
    exact ⟨rfl, held⟩
  · intro _ steps
    exact flows_done _ _ _

theorem modifyGet {change : State → α × State}
    (holds : ∀ self world, pre self world → post (change self).1 (change self).2 world) :
    machine.Settles pre (MonadStateOf.modifyGet change : Routine signature Private State α)
      post := by
  intro self world held
  refine ⟨⟨change self, world, ends_done.mpr ⟨rfl, rfl⟩⟩, ?_, ?_⟩
  · intro out after ended
    obtain ⟨rfl, rfl⟩ := ends_done.mp ended
    exact holds self after held
  · intro _ steps
    exact flows_done _ _ _

theorem perform {view : State → Private} {action : signature.Action}
    {post : signature.Result action → State → World → Prop}
    (answered : ∀ self world, pre self world →
      ∃ oracle result after, machine.perform action oracle world = some (result, after))
    (outcome : ∀ self world oracle result after, pre self world →
      machine.perform action oracle world = some (result, after) → post result self after) :
    machine.Settles pre (Routine.perform view action) post := by
  intro self world held
  refine ⟨?_, ?_, ?_⟩
  · obtain ⟨oracle, result, after, performed⟩ := answered self world held
    exact ⟨(result, self), after, ends_act.mpr
      ⟨oracle, result, after, performed, ends_done.mpr ⟨rfl, rfl⟩⟩⟩
  · intro out after ended
    obtain ⟨oracle, result, middle, performed, returned⟩ := ends_act.mp ended
    obtain ⟨rfl, rfl⟩ := ends_done.mp returned
    exact outcome self world oracle result after held performed
  · intro _ steps
    cases steps with
    | zero => exact trivial
    | succ steps => exact ⟨answered self world held, fun _ _ _ _ => flows_done _ _ _⟩

theorem bind {routine : Routine signature Private State α}
    {rest : α → Routine signature Private State β} {middle : α → State → World → Prop}
    {post : β → State → World → Prop} (first : machine.Settles pre routine middle)
    (second : ∀ value, machine.Settles (middle value) (rest value) post) :
    machine.Settles pre (routine >>= rest) post := by
  intro self world held
  obtain ⟨⟨⟨value, between⟩, reached, ended⟩, settled, flows⟩ := first self world held
  refine ⟨?_, ?_, ?_⟩
  · obtain ⟨⟨out, after, later⟩, _settled⟩ :=
      second value between reached (settled _ reached ended)
    exact ⟨out, after, ends_bind.mpr ⟨_, _, ended, later⟩⟩
  · intro out after whole
    obtain ⟨⟨value, between⟩, reached, ended, later⟩ := ends_bind.mp whole
    exact (second value between reached (settled _ reached ended)).2.1 out after later
  · intro oracle steps
    apply flows_bind oracle (flows oracle steps)
    rintro ⟨value, between⟩ reached ended
    exact (second value between reached (settled _ reached ended)).2.2 oracle steps

theorem fold (kept : List α → β → State → World → Prop)
    {body : β → α → Routine signature Private State β} (items : List α)
    (item : ∀ item rest value, machine.Settles (kept (item :: rest) value)
      (body value item) (fun next => kept rest next)) (value : β) :
    machine.Settles (kept items value) (Routine.fold body items value)
      (fun result => kept [] result) := by
  induction items generalizing value with
  | nil => exact pure value (fun _ _ holds => holds)
  | cons head tail ih => exact bind (item head tail value) ih

theorem eachOf (kept : List α → State → World → Prop)
    {body : α → Routine signature Private State Unit} (items : List α)
    (item : ∀ item rest, machine.Settles (kept (item :: rest)) (body item) (fun _ => kept rest)) :
    machine.Settles (kept items) (Routine.each body items) (fun _ => kept []) := by
  induction items with
  | nil => exact pure () (fun _ _ holds => holds)
  | cons head tail ih => exact bind (item head tail) (fun _ => ih)

theorem each {body : α → Routine signature Private State Unit} {items : List α}
    (item : ∀ item, machine.Settles pre (body item) (fun _ => pre)) :
    machine.Settles pre (Routine.each body items) (fun _ => pre) :=
  eachOf (fun _ => pre) items (fun head _ => item head)

theorem unroll (oracle : machine.Oracle)
    {body : γ → Routine signature Private State (γ ⊕ β)} {state : γ}
    {middle : γ ⊕ β → State → World → Prop} {post : β → State → World → Prop}
    (round : machine.Settles pre (body state) middle)
    (again : ∀ next, machine.Settles (middle (.inl next)) (Routine.repeat' body next) post)
    (ended : ∀ value self world, middle (.inr value) self world → post value self world) :
    machine.Settles pre (Routine.repeat' body state) post := by
  intro self world held
  obtain ⟨⟨⟨result, later⟩, between, ran⟩, settled, flows⟩ := round self world held
  refine ⟨?_, ?_, ?_⟩
  · cases result with
    | inl next =>
        obtain ⟨⟨out, after, goesOn⟩, _settled⟩ := again next later between (settled _ _ ran)
        exact ⟨out, after, ends_repeat oracle ran goesOn⟩
    | inr value => exact ⟨(value, later), between, ends_repeat oracle ran ⟨rfl, rfl⟩⟩
  · rintro out after ⟨oracles, whole⟩
    obtain ⟨result, later, between, ran, goesOn⟩ := alone_repeat whole
    have reached := settled _ _ ran
    cases result with
    | inl next =>
        obtain ⟨fewer, _less, rest⟩ := goesOn
        exact (again next later between reached).2.1 out after ⟨fewer, rest⟩
    | inr value =>
        obtain ⟨rfl, rfl⟩ := goesOn
        exact ended value later after reached
  · intro answer steps
    cases steps with
    | zero => exact trivial
    | succ steps =>
        apply flows_repeat answer (flows answer steps)
        intro next later middle ran
        exact (again next later middle (settled _ _ ran)).2.2 answer steps

/-- A loop of which any round can be the last keeps what every round keeps. -/
theorem repeat' (oracle : machine.Oracle)
    {body : γ → Routine signature Private State (γ ⊕ β)}
    {kept : γ → State → World → Prop} {post : β → State → World → Prop}
    (finishes : ∀ state self world, kept state self world → ∃ value later after,
      machine.Ends (body state self) world (.inr value, later) after)
    (round : ∀ state, machine.Settles (kept state) (body state) (fun result self world =>
      match result with
      | .inl again => kept again self world
      | .inr value => post value self world)) (state : γ) :
    machine.Settles (kept state) (Routine.repeat' body state) post := by
  intro self world held
  refine ⟨?_, ?_, ?_⟩
  · obtain ⟨value, later, after, ended⟩ := finishes state self world held
    exact ⟨_, after, ends_repeat oracle ended ⟨rfl, rfl⟩⟩
  · exact Leads.repeat' (fun state => (round state).leads) state self world held
  · intro answer steps
    induction steps generalizing state self world with
    | zero => exact trivial
    | succ steps ih =>
        obtain ⟨_, settled, flows⟩ := round state self world held
        apply flows_repeat answer (flows answer steps)
        intro again later middle ran
        exact ih again later middle (settled _ _ ran)

end Settles

/-! ### Routines that agree -/

variable {Other : Type}

/-- Started in related states, both routines can end or neither can, and where they end
they return the same, in related states. -/
def Agrees (left right : Machine signature Private Thread World)
    (pre : State → World → Other → World → Prop) (first : Routine signature Private State α)
    (second : Routine signature Private Other α)
    (post : α → State → World → Other → World → Prop) : Prop :=
  ∀ self world other beyond, pre self world other beyond →
    ((∃ out after, left.Ends (first self) world out after) ↔
      ∃ out after, right.Ends (second other) beyond out after) ∧
    ∀ out after out' after', left.Ends (first self) world out after →
      right.Ends (second other) beyond out' after' →
      out.1 = out'.1 ∧ post out.1 out.2 after out'.2 after'

namespace Agrees

variable {left right : Machine signature Private Thread World}
variable {pre stronger : State → World → Other → World → Prop}

theorem strengthen {first : Routine signature Private State α}
    {second : Routine signature Private Other α}
    {post : α → State → World → Other → World → Prop}
    (agrees : left.Agrees right pre first second post)
    (implied : ∀ self world other beyond, stronger self world other beyond →
      pre self world other beyond) : left.Agrees right stronger first second post :=
  fun self world other beyond related =>
    agrees self world other beyond (implied self world other beyond related)

theorem conseq {first : Routine signature Private State α}
    {second : Routine signature Private Other α}
    {post weaker : α → State → World → Other → World → Prop}
    (agrees : left.Agrees right pre first second post)
    (strengthen : ∀ self world other beyond, stronger self world other beyond →
      pre self world other beyond)
    (weaken : ∀ value self world other beyond, post value self world other beyond →
      weaker value self world other beyond) :
    left.Agrees right stronger first second weaker := by
  intro self world other beyond related
  obtain ⟨both, same⟩ := agrees self world other beyond
    (strengthen self world other beyond related)
  refine ⟨both, fun out after out' after' ended ended' => ?_⟩
  obtain ⟨equal, held⟩ := same out after out' after' ended ended'
  exact ⟨equal, weaken _ _ _ _ _ held⟩

theorem pure (value : α) {post : α → State → World → Other → World → Prop}
    (holds : ∀ self world other beyond, pre self world other beyond →
      post value self world other beyond) :
    left.Agrees right pre (Pure.pure value) (Pure.pure value) post := by
  intro self world other beyond related
  constructor
  · constructor
    · intro _
      exact ⟨(value, other), beyond, ends_done.mpr ⟨rfl, rfl⟩⟩
    · intro _
      exact ⟨(value, self), world, ends_done.mpr ⟨rfl, rfl⟩⟩
  · intro out after out' after' ended ended'
    obtain ⟨rfl, rfl⟩ := ends_done.mp ended
    obtain ⟨rfl, rfl⟩ := ends_done.mp ended'
    exact ⟨rfl, holds self after other after' related⟩

theorem bind {first : Routine signature Private State α}
    {second : Routine signature Private Other α}
    {rest : α → Routine signature Private State β}
    {further : α → Routine signature Private Other β}
    {middle : α → State → World → Other → World → Prop}
    {post : β → State → World → Other → World → Prop}
    (begins : left.Agrees right pre first second middle)
    (goesOn : ∀ value, left.Agrees right (middle value) (rest value) (further value) post) :
    left.Agrees right pre (first >>= rest) (second >>= further) post := by
  intro self world other beyond related
  obtain ⟨both, same⟩ := begins self world other beyond related
  constructor
  · constructor
    · rintro ⟨out, after, whole⟩
      obtain ⟨⟨value, between⟩, reached, ended, later⟩ := ends_bind.mp whole
      obtain ⟨⟨value', between'⟩, reached', ended'⟩ := both.mp ⟨_, _, ended⟩
      obtain ⟨rfl, held⟩ := same _ _ _ _ ended ended'
      obtain ⟨out', after', later'⟩ :=
        (goesOn value between reached between' reached' held).1.mp ⟨out, after, later⟩
      exact ⟨out', after', ends_bind.mpr ⟨_, _, ended', later'⟩⟩
    · rintro ⟨out, after, whole⟩
      obtain ⟨⟨value, between⟩, reached, ended, later⟩ := ends_bind.mp whole
      obtain ⟨⟨value', between'⟩, reached', ended'⟩ := both.mpr ⟨_, _, ended⟩
      obtain ⟨rfl, held⟩ := same _ _ _ _ ended' ended
      obtain ⟨out', after', later'⟩ :=
        (goesOn value' between' reached' between reached held).1.mpr ⟨out, after, later⟩
      exact ⟨out', after', ends_bind.mpr ⟨_, _, ended', later'⟩⟩
  · intro out after out' after' whole whole'
    obtain ⟨⟨value, between⟩, reached, ended, later⟩ := ends_bind.mp whole
    obtain ⟨⟨value', between'⟩, reached', ended', later'⟩ := ends_bind.mp whole'
    obtain ⟨rfl, held⟩ := same _ _ _ _ ended ended'
    exact (goesOn value between reached between' reached' held).2 _ _ _ _ later later'

theorem withStates {rest : State → Routine signature Private State α}
    {further : Other → Routine signature Private Other α}
    {post : α → State → World → Other → World → Prop}
    (goesOn : ∀ self other, left.Agrees right
      (fun self' world other' beyond => self' = self ∧ other' = other ∧
        pre self' world other' beyond) (rest self) (further other) post) :
    left.Agrees right pre (MonadState.get >>= rest) (MonadState.get >>= further) post :=
  fun self world other beyond related =>
    goesOn self other self world other beyond ⟨rfl, rfl, related⟩

theorem given (fact : Prop) {first : Routine signature Private State α}
    {second : Routine signature Private Other α}
    {post : α → State → World → Other → World → Prop}
    (implied : ∀ self world other beyond, pre self world other beyond → fact)
    (agrees : fact → left.Agrees right pre first second post) :
    left.Agrees right pre first second post :=
  fun self world other beyond related =>
    agrees (implied self world other beyond related) self world other beyond related

theorem modifyGet {change : State → α × State} {change' : Other → α × Other}
    {post : α → State → World → Other → World → Prop}
    (holds : ∀ self world other beyond, pre self world other beyond →
      (change self).1 = (change' other).1 ∧
        post (change self).1 (change self).2 world (change' other).2 beyond) :
    left.Agrees right pre
      (MonadStateOf.modifyGet change : Routine signature Private State α)
      (MonadStateOf.modifyGet change' : Routine signature Private Other α) post := by
  intro self world other beyond related
  constructor
  · constructor
    · intro _
      exact ⟨change' other, beyond, ends_done.mpr ⟨rfl, rfl⟩⟩
    · intro _
      exact ⟨change self, world, ends_done.mpr ⟨rfl, rfl⟩⟩
  · intro out after out' after' ended ended'
    obtain ⟨rfl, rfl⟩ := ends_done.mp ended
    obtain ⟨rfl, rfl⟩ := ends_done.mp ended'
    exact holds self after other after' related

theorem perform {view : State → Private} {view' : Other → Private}
    {action : signature.Action}
    {post : signature.Result action → State → World → Other → World → Prop}
    (both : ∀ self world other beyond, pre self world other beyond →
      ((∃ oracle result after, left.perform action oracle world = some (result, after)) ↔
        ∃ oracle result after, right.perform action oracle beyond = some (result, after)))
    (outcome : ∀ self world other beyond oracle result after oracle' result' after',
      pre self world other beyond →
      left.perform action oracle world = some (result, after) →
      right.perform action oracle' beyond = some (result', after') →
      result = result' ∧ post result self after other after') :
    left.Agrees right pre (Routine.perform view action) (Routine.perform view' action) post := by
  intro self world other beyond related
  constructor
  · constructor
    · rintro ⟨out, after, ended⟩
      obtain ⟨oracle, result, middle, performed, _⟩ := ends_act.mp ended
      obtain ⟨oracle', result', after', performed'⟩ :=
        (both self world other beyond related).mp ⟨oracle, result, middle, performed⟩
      exact ⟨(result', other), after', ends_act.mpr
        ⟨oracle', result', after', performed', ends_done.mpr ⟨rfl, rfl⟩⟩⟩
    · rintro ⟨out, after, ended⟩
      obtain ⟨oracle, result, middle, performed, _⟩ := ends_act.mp ended
      obtain ⟨oracle', result', after', performed'⟩ :=
        (both self world other beyond related).mpr ⟨oracle, result, middle, performed⟩
      exact ⟨(result', self), after', ends_act.mpr
        ⟨oracle', result', after', performed', ends_done.mpr ⟨rfl, rfl⟩⟩⟩
  · intro out after out' after' ended ended'
    obtain ⟨oracle, result, middle, performed, returned⟩ := ends_act.mp ended
    obtain ⟨oracle', result', middle', performed', returned'⟩ := ends_act.mp ended'
    obtain ⟨rfl, rfl⟩ := ends_done.mp returned
    obtain ⟨rfl, rfl⟩ := ends_done.mp returned'
    exact outcome self world other beyond oracle result after oracle' result' after' related
      performed performed'

theorem stuck {view : State → Private} {view' : Other → Private} {action : signature.Action}
    {rest : signature.Result action → Routine signature Private State α}
    {further : signature.Result action → Routine signature Private Other α}
    {post : α → State → World → Other → World → Prop}
    (never : ∀ oracle world, left.perform action oracle world = none)
    (never' : ∀ oracle world, right.perform action oracle world = none) :
    left.Agrees right pre (Routine.perform view action >>= rest)
      (Routine.perform view' action >>= further) post := by
  have never_begins : left.Agrees right pre (Routine.perform view action)
      (Routine.perform view' action) (fun _ _ _ _ _ => False) := by
    apply perform
    · intro self world other beyond _related
      constructor
      · rintro ⟨oracle, result, after, performed⟩
        rw [never] at performed
        cases performed
      · rintro ⟨oracle, result, after, performed⟩
        rw [never'] at performed
        cases performed
    · intro self world other beyond oracle result after oracle' result' after' _related
        performed _performed'
      rw [never] at performed
      cases performed
  exact bind never_begins (fun _ _ _ _ _ impossible => impossible.elim)

/-- Two routines that always end agree as far as what they end in does. -/
theorem settled {first : Routine signature Private State α}
    {second : Routine signature Private Other α}
    {post : α → State → World → Other → World → Prop}
    (both : ∀ self world other beyond, pre self world other beyond → ∃ ends ends',
      left.Settles (fun self' world' => self' = self ∧ world' = world) first ends ∧
      right.Settles (fun other' beyond' => other' = other ∧ beyond' = beyond) second ends' ∧
      ∀ value later after value' later' after', ends value later after →
        ends' value' later' after' → value = value' ∧ post value later after later' after') :
    left.Agrees right pre first second post := by
  intro self world other beyond related
  obtain ⟨ends, ends', settles, settles', same⟩ := both self world other beyond related
  obtain ⟨ended, settled, _flows⟩ := settles self world ⟨rfl, rfl⟩
  obtain ⟨ended', settled', _flows'⟩ := settles' other beyond ⟨rfl, rfl⟩
  constructor
  · exact ⟨fun _ => ended', fun _ => ended⟩
  · intro out after out' after' reached reached'
    exact same _ _ _ _ _ _ (settled out after reached) (settled' out' after' reached')

theorem each {body : γ → Routine signature Private State Unit}
    {body' : γ → Routine signature Private Other Unit} {items : List γ}
    (item : ∀ item ∈ items, left.Agrees right pre (body item) (body' item) (fun _ => pre)) :
    left.Agrees right pre (Routine.each body items) (Routine.each body' items)
      (fun _ => pre) := by
  induction items with
  | nil => exact pure () (fun _ _ _ _ holds => holds)
  | cons head tail ih =>
      apply bind (item head List.mem_cons_self)
      intro _
      exact ih (fun other member => item other (List.mem_cons_of_mem head member))

end Agrees

end Machine
end Interleaving
