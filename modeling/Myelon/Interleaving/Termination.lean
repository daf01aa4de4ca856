/-
Programs of which every run comes to an end.

A program halts where no run of it gets stuck and none goes on for ever. One without loops
halts as soon as it is never stuck; a loop halts where each of its rounds does and no round
is followed by others without end.
-/

import Myelon.Interleaving.Sequential

namespace Interleaving

variable {signature : Signature} {Private α β γ : Type}

/-! ### Programs without loops -/

namespace Program

def LoopFree : Program signature Private α → Prop
  | .done _ => True
  | .act _ _ next => ∀ result, LoopFree (next result)
  | .loop _ _ _ => False

theorem LoopFree.bind {program : Program signature Private α}
    {rest : α → Program signature Private β} (first : program.LoopFree)
    (second : ∀ value, (rest value).LoopFree) : (program.bind rest).LoopFree := by
  induction program with
  | done value => exact second value
  | act self action next ih => exact fun result => ih result (first result) second
  | loop body state next _ _ => exact first.elim

end Program

namespace Routine

variable {State : Type}

structure LoopFree (routine : Routine signature Private State α) : Prop where
  program : ∀ self, (routine self).LoopFree

namespace LoopFree

theorem pure (value : α) : (Pure.pure value : Routine signature Private State α).LoopFree :=
  ⟨fun _ => trivial⟩

theorem get : (MonadState.get : Routine signature Private State State).LoopFree :=
  ⟨fun _ => trivial⟩

theorem modifyGet (change : State → α × State) :
    (MonadStateOf.modifyGet change : Routine signature Private State α).LoopFree :=
  ⟨fun _ => trivial⟩

theorem bind {routine : Routine signature Private State α}
    {rest : α → Routine signature Private State β} (first : routine.LoopFree)
    (second : ∀ value, (rest value).LoopFree) : (routine >>= rest).LoopFree :=
  ⟨fun self => Program.LoopFree.bind (first.program self)
    (fun out => (second out.1).program out.2)⟩

theorem each {body : α → Routine signature Private State Unit}
    (item : ∀ item, (body item).LoopFree) (items : List α) :
    (Routine.each body items).LoopFree := by
  induction items with
  | nil => exact pure ()
  | cons head tail ih => exact bind (item head) (fun _ => ih)

theorem fold {body : β → α → Routine signature Private State β}
    (item : ∀ value item, (body value item).LoopFree) (items : List α) (value : β) :
    (Routine.fold body items value).LoopFree := by
  induction items generalizing value with
  | nil => exact pure value
  | cons head tail ih => exact bind (item value head) ih

end LoopFree
end Routine

/-! ### Programs that halt -/

namespace Machine

variable {Thread World : Type} {machine : Machine signature Private Thread World}

/-- Alone from this world, every run of the program is finite and none is stuck. -/
inductive Halts (machine : Machine signature Private Thread World) :
    {α : Type} → Program signature Private α → World → Prop
  | done {α : Type} {value : α} {world : World} : Halts machine (.done value) world
  | act {α : Type} {self : Private} {action : signature.Action}
      {next : signature.Result action → Program signature Private α} {world : World}
      (answered : ∃ oracle result after,
        machine.perform action oracle world = some (result, after))
      (goesOn : ∀ oracle result after,
        machine.perform action oracle world = some (result, after) →
          Halts machine (next result) after) : Halts machine (.act self action next) world
  | loop {α β γ : Type} {body : γ → Program signature Private (γ ⊕ β)} {state : γ}
      {next : β → Program signature Private α} {world : World}
      (unrolled : Halts machine (Program.unroll body state next) world) :
      Halts machine (.loop body state next) world

namespace Halts

theorem of_flows {program : Program signature Private α} {world : World}
    (loopFree : program.LoopFree) (flows : ∀ steps, machine.Flows steps program world) :
    machine.Halts program world := by
  induction program generalizing world with
  | done value => exact .done
  | act self action next ih =>
      apply Halts.act (flows 1).1
      intro oracle result after performed
      apply ih result (loopFree result)
      intro steps
      exact (flows (steps + 1)).2 oracle result after performed
  | loop body state next _ _ => exact loopFree.elim

theorem ends (oracle : machine.Oracle) {program : Program signature Private α} {world : World}
    (halts : machine.Halts program world) :
    ∃ value after, machine.Ends program world value after := by
  induction halts with
  | done => exact ⟨_, _, ends_done.mpr ⟨rfl, rfl⟩⟩
  | act answered goesOn ih =>
      obtain ⟨given, result, middle, performed⟩ := answered
      obtain ⟨value, after, ended⟩ := ih given result middle performed
      exact ⟨value, after, ends_act.mpr ⟨given, result, middle, performed, ended⟩⟩
  | loop unrolled ih =>
      obtain ⟨value, after, ended⟩ := ih
      exact ⟨value, after, ends_loop oracle ended⟩

theorem bind (oracle : machine.Oracle) {program : Program signature Private α}
    {rest : α → Program signature Private β} {world : World}
    (first : machine.Halts program world)
    (second : ∀ value middle, machine.Ends program world value middle →
      machine.Halts (rest value) middle) : machine.Halts (program.bind rest) world := by
  induction first with
  | done => exact second _ _ (ends_done.mpr ⟨rfl, rfl⟩)
  | act answered goesOn ih =>
      apply Halts.act answered
      intro given result middle performed
      apply ih given result middle performed
      intro value after ended
      exact second value after (ends_act.mpr ⟨given, result, middle, performed, ended⟩)
  | loop unrolled ih =>
      apply Halts.loop
      rw [← Program.unroll_bind]
      exact ih (fun value after ended => second value after (ends_loop oracle ended))

theorem repeat' (oracle : machine.Oracle) {State : Type}
    {body : γ → Routine signature Private State (γ ⊕ β)} {state : γ} {self : State}
    {world : World} (round : machine.Halts (body state self) world)
    (again : ∀ next later middle,
      machine.Ends (body state self) world (.inl next, later) middle →
        machine.Halts (Routine.repeat' body next later) middle) :
    machine.Halts (Routine.repeat' body state self) world := by
  apply Halts.loop
  change machine.Halts (Program.bind (Program.bind (body state self) _) _) world
  apply bind oracle
  · apply bind oracle round
    rintro ⟨result, later⟩ middle _ended
    cases result with
    | inl next => exact .done
    | inr value => exact .done
  · intro value middle ended
    obtain ⟨⟨result, later⟩, between, ran, returned⟩ := ends_bind.mp ended
    cases result with
    | inl next =>
        obtain ⟨rfl, rfl⟩ := ends_done.mp returned
        exact again next later middle ran
    | inr value =>
        obtain ⟨rfl, rfl⟩ := ends_done.mp returned
        exact .done

end Halts

/-- Started where the precondition holds, every run of the routine is finite, and ends
where the postcondition holds. -/
def Terminates (machine : Machine signature Private Thread World) {State : Type}
    (pre : State → World → Prop) (routine : Routine signature Private State α)
    (post : α → State → World → Prop) : Prop :=
  ∀ self world, pre self world →
    machine.Halts (routine self) world ∧
      ∀ out after, machine.Ends (routine self) world out after → post out.1 out.2 after

namespace Terminates

variable {State : Type} {pre : State → World → Prop}

theorem of_settles (oracle : machine.Oracle) {routine : Routine signature Private State α}
    {post : α → State → World → Prop} (loopFree : routine.LoopFree)
    (settles : machine.Settles pre routine post) : machine.Terminates pre routine post := by
  intro self world held
  obtain ⟨_ended, settled, flows⟩ := settles self world held
  exact ⟨.of_flows (loopFree.program self) (flows oracle), settled⟩

theorem instead {routine other : Routine signature Private State α}
    {post : α → State → World → Prop}
    (same : ∀ self world, pre self world → routine self = other self)
    (terminates : machine.Terminates pre other post) : machine.Terminates pre routine post := by
  intro self world held
  rw [same self world held]
  exact terminates self world held

theorem conseq {stronger : State → World → Prop} {post weaker : α → State → World → Prop}
    {routine : Routine signature Private State α}
    (terminates : machine.Terminates pre routine post)
    (strengthen : ∀ self world, stronger self world → pre self world)
    (weaken : ∀ value self world, post value self world → weaker value self world) :
    machine.Terminates stronger routine weaker := by
  intro self world held
  obtain ⟨halts, settled⟩ := terminates self world (strengthen self world held)
  exact ⟨halts, fun out after ended => weaken out.1 out.2 after (settled out after ended)⟩

theorem once (oracle : machine.Oracle) {body : γ → Routine signature Private State (γ ⊕ β)}
    {state : γ} {post : β → State → World → Prop}
    (round : machine.Terminates pre (body state) (fun result self world =>
      match result with
      | .inl _ => False
      | .inr value => post value self world)) :
    machine.Terminates pre (Routine.repeat' body state) post := by
  intro self world held
  obtain ⟨halts, settled⟩ := round self world held
  constructor
  · apply Halts.repeat' oracle halts
    intro next later middle ran
    exact (settled _ middle ran).elim
  · intro out after ⟨oracles, ended⟩
    obtain ⟨result, later, middle, ran, goesOn⟩ := alone_repeat ended
    have reached := settled _ middle ran
    cases result with
    | inl next => exact reached.elim
    | inr value =>
        obtain ⟨rfl, rfl⟩ := goesOn
        exact reached

theorem not_of_leads (oracle : machine.Oracle) {routine : Routine signature Private State α}
    {post : α → State → World → Prop}
    (stuck : machine.Leads pre routine (fun _ _ _ => False)) {self : State} {world : World}
    (held : pre self world) : ¬ machine.Terminates pre routine post := by
  intro terminates
  obtain ⟨value, after, ended⟩ := (terminates self world held).1.ends oracle
  exact stuck self world held value after ended

end Terminates

end Machine
end Interleaving
