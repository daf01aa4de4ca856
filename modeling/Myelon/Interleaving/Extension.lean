/-
More actions on top of a machine, and a history of those it has.

An extension adds state and actions of its own. The actions of the machine are marked
with the thread that takes them, so that the history can tell the threads apart. The
programs of the machine run on the extension, and are safe there for a contract that is
laid over their own.
-/

import Myelon.Interleaving.RelyGuarantee

namespace Interleaving

def Signature.extend (signature further : Signature) (Thread : Type) : Signature :=
  { Action := Thread × signature.Action ⊕ further.Action
    Result := fun action => match action with
      | .inl (_, action) => signature.Result action
      | .inr action => further.Result action }

variable {signature further : Signature} {Private Thread World State Extra α β γ : Type}

namespace Program

def marked (further : Signature) (thread : Thread) :
    {α : Type} → Program signature Private α → Program (signature.extend further Thread) Private α
  | _, .done value => .done value
  | _, .act self action next =>
      .act self (.inl (thread, action)) (fun result => marked further thread (next result))
  | _, .loop body state next =>
      .loop (fun again => marked further thread (body again)) state
        (fun result => marked further thread (next result))

theorem marked_bind (thread : Thread) (program : Program signature Private α)
    (rest : α → Program signature Private β) :
    (program.bind rest).marked further thread =
      (program.marked further thread).bind fun value => (rest value).marked further thread := by
  induction program with
  | done value => rfl
  | act self action next ih =>
      simp only [bind, marked]
      congr 1
      funext result
      exact ih result rest
  | loop body state next _ ih =>
      simp only [bind, marked]
      congr 1
      funext result
      exact ih result rest

theorem marked_unroll (thread : Thread) (body : γ → Program signature Private (γ ⊕ β))
    (state : γ) (next : β → Program signature Private α) :
    (unroll body state next).marked further thread =
      unroll (fun again => (body again).marked further thread) state
        (fun result => (next result).marked further thread) := by
  unfold unroll
  rw [marked_bind]
  congr 1
  funext result
  cases result with
  | inl again => rfl
  | inr result => rfl

/-- Every action of the program is one of those allowed, and so is every value. -/
def Only (allowed : signature.Action → Prop) :
    {α : Type} → Program signature Private α → (α → Prop) → Prop
  | _, .done value, yields => yields value
  | _, .act _ action next, yields => allowed action ∧ ∀ result, Only allowed (next result) yields
  | _, .loop body _ next, yields =>
      (∀ again, Only allowed (body again) fun _ => True) ∧
      ∀ result, Only allowed (next result) yields

namespace Only

variable {allowed : signature.Action → Prop} {yields : α → Prop}

theorem bind {program : Program signature Private α} {rest : α → Program signature Private β}
    {further : β → Prop} (only : program.Only allowed yields)
    (later : ∀ value, yields value → (rest value).Only allowed further) :
    (program.bind rest).Only allowed further := by
  induction program with
  | done value => exact later value only
  | act self action next ih => exact ⟨only.1, fun result => ih result (only.2 result) later⟩
  | loop body state next _ ih =>
      exact ⟨only.1, fun result => ih result (only.2 result) later⟩

theorem unroll {body : γ → Program signature Private (γ ⊕ β)} {state : γ}
    {next : β → Program signature Private α}
    (rounds : ∀ again, (body again).Only allowed fun _ => True)
    (later : ∀ result, (next result).Only allowed yields) :
    (Program.unroll body state next).Only allowed yields := by
  apply bind (rounds state)
  rintro (again | result) _
  · exact ⟨rounds, later⟩
  · exact later result

end Only
end Program

namespace Routine

def marked (further : Signature) (thread : Thread) (routine : Routine signature Private State α) :
    Routine (signature.extend further Thread) Private State α :=
  fun self => (routine self).marked further thread

/-- An action of the extension, stamped with the private state it is taken in. -/
def performFurther (Thread : Type) (view : State → Private) (action : further.Action) :
    Routine (signature.extend further Thread) Private State (further.Result action) :=
  fun self => .act (view self) (.inr action) (fun result => .done (result, self))

/-- Whatever the private state, the routine does only what is allowed. -/
def Only (allowed : signature.Action → Prop) (routine : Routine signature Private State α)
    (yields : α → Prop) : Prop :=
  ∀ self, (routine self).Only allowed fun out => yields out.1

namespace Only

variable {allowed : signature.Action → Prop} {yields : α → Prop}

theorem pure (value : α) (held : yields value) :
    Only allowed (Pure.pure value : Routine signature Private State α) yields :=
  fun _ => held

theorem get : Only allowed (MonadState.get : Routine signature Private State State)
    (fun _ => True) :=
  fun _ => trivial

theorem perform (view : State → Private) {action : signature.Action} (may : allowed action) :
    Only allowed (Routine.perform view action) (fun _ => True) :=
  fun _ => ⟨may, fun _ => trivial⟩

theorem bind {routine : Routine signature Private State α}
    {rest : α → Routine signature Private State β} {later : β → Prop}
    (only : routine.Only allowed yields)
    (further : ∀ value, yields value → (rest value).Only allowed later) :
    Only allowed (routine >>= rest) later :=
  fun self => (only self).bind fun out held => further out.1 held out.2

theorem each {body : α → Routine signature Private State Unit} {items : List α}
    (item : ∀ item, (body item).Only allowed fun _ => True) :
    Only allowed (Routine.each body items) (fun _ => True) := by
  induction items with
  | nil => exact pure () trivial
  | cons head tail ih => exact bind (item head) (fun _ _ => ih)

theorem repeat' {body : γ → Routine signature Private State (γ ⊕ β)} {state : γ}
    (round : ∀ state, (body state).Only allowed fun _ => True) :
    Only allowed (Routine.repeat' body state) (fun _ => True) := by
  intro self
  refine ⟨fun again => Program.Only.bind (round again.1 again.2) ?_, fun _ => trivial⟩
  rintro ⟨result, after⟩ _held
  cases result with
  | inl again => trivial
  | inr value => trivial

end Only

theorem marked_bind (thread : Thread) (routine : Routine signature Private State α)
    (rest : α → Routine signature Private State β) :
    (routine >>= rest).marked further thread =
      routine.marked further thread >>= fun value => (rest value).marked further thread := by
  funext self
  exact Program.marked_bind thread (routine self) fun out => rest out.1 out.2

theorem marked_repeat (thread : Thread)
    (body : γ → Routine signature Private State (γ ⊕ β)) (state : γ) :
    (Routine.repeat' body state).marked further thread =
      Routine.repeat' (fun again => (body again).marked further thread) state := by
  funext self
  simp only [marked, Routine.repeat', Program.marked]
  congr 1
  funext round
  rw [Program.bind_eq, Program.marked_bind]
  congr 1
  funext out
  obtain ⟨result, after⟩ := out
  cases result with
  | inl again => rfl
  | inr result => rfl

end Routine

/-- What is noted of the actions of a machine, and what the further actions do. -/
structure Extension (base : Machine signature Private Thread World) (further : Signature)
    (Extra : Type) where
  note : Thread → signature.Action → World → Extra → Extra
  perform : (action : further.Action) → World → Extra → Option (further.Result action × Extra)

variable {base : Machine signature Private Thread World}

/-- The threads of the machine, and one that takes further actions only. No thread starts
again. -/
def Extension.machine (extension : Extension base further Extra) :
    Machine (signature.extend further Thread) Private (Option Thread) (World × Extra) where
  Oracle := base.Oracle
  perform := fun action oracle world => match action with
    | .inl (thread, action) =>
        (base.perform action oracle world.1).map fun done =>
          (done.1, done.2, extension.note thread action world.1 world.2)
    | .inr action =>
        (extension.perform action world.1 world.2).map fun done => (done.1, world.1, done.2)
  restart := fun _ _ => none

/-- What a contract for the extension asks on top of the one for the machine. -/
structure Overlay (lower : Contract base) (extension : Extension base further Extra) where
  condition : Option Thread → Private → (signature.extend further Thread).Action →
    World × Extra → Prop
  guarantee : Option Thread → Private → further.Action → World × Extra → Prop
  invariant : World × Extra → Prop
  rely : Option Thread → Extra → Extra → Prop
  relyRefl : ∀ thread extra, rely thread extra extra
  relyTrans : ∀ {thread first second third},
    rely thread first second → rely thread second third → rely thread first third
  noted : ∀ {thread self action oracle world extra result after}, lower.invariant world →
    lower.guarantee thread self action world →
    condition (some thread) self (.inl (thread, action)) (world, extra) →
    base.perform action oracle world = some (result, after) → lower.invariant after →
    invariant (world, extra) →
    invariant (after, extension.note thread action world extra) ∧
      ∀ other, other ≠ some thread → rely other extra (extension.note thread action world extra)
  acted : ∀ {thread self action world extra result after}, lower.invariant world →
    condition thread self (.inr action) (world, extra) →
    guarantee thread self action (world, extra) →
    extension.perform action world extra = some (result, after) → invariant (world, extra) →
    invariant (world, after) ∧ ∀ other, other ≠ thread → rely other extra after

namespace Overlay

variable {lower : Contract base} {extension : Extension base further Extra}
variable (overlay : Overlay lower extension)

def contract : Contract extension.machine where
  condition := fun thread self action world => (match thread, action with
    | some thread, .inl (_, action) => lower.condition thread self action world.1
    | _, _ => True) ∧ overlay.condition thread self action world
  accepts := fun thread self action oracle world => match thread, action with
    | some thread, .inl (_, action) => lower.accepts thread self action oracle world.1
    | _, _ => True
  guarantee := fun thread self action world => match thread, action with
    | some thread, .inl (mark, action) => mark = thread ∧
        lower.guarantee thread self action world.1
    | none, .inl _ => False
    | thread, .inr action => overlay.guarantee thread self action world
  invariant := fun world => lower.invariant world.1 ∧ overlay.invariant world
  rely := fun thread before after => (match thread with
    | some thread => lower.rely thread before.1 after.1
    | none => True) ∧ overlay.rely thread before.2 after.2
  relyRefl := by
    intro thread world
    cases thread with
    | none => exact ⟨trivial, overlay.relyRefl _ _⟩
    | some thread => exact ⟨lower.relyRefl thread _, overlay.relyRefl _ _⟩
  relyTrans := by
    intro thread first second third left right
    cases thread with
    | none => exact ⟨trivial, overlay.relyTrans left.2 right.2⟩
    | some thread => exact ⟨lower.relyTrans left.1 right.1, overlay.relyTrans left.2 right.2⟩
  performed := by
    rintro thread self action oracle ⟨world, extra⟩ result after ⟨holds, more⟩ met guaranteed
      performed
    cases action with
    | inl marked =>
        obtain ⟨mark, action⟩ := marked
        cases thread with
        | none => exact guaranteed.elim
        | some thread =>
            obtain ⟨rfl, guaranteed⟩ := guaranteed
            obtain ⟨⟨outcome, later⟩, done, same⟩ := Option.map_eq_some_iff.mp performed
            cases same
            obtain ⟨kept, relied⟩ := lower.performed holds met.1 guaranteed done
            obtain ⟨moreKept, moreRelied⟩ := overlay.noted holds guaranteed met.2 done kept more
            refine ⟨⟨kept, moreKept⟩, fun other different => ⟨?_, moreRelied other different⟩⟩
            cases other with
            | none => trivial
            | some other => exact relied other (fun same => different (congrArg some same))
    | inr action =>
        obtain ⟨⟨outcome, later⟩, done, same⟩ := Option.map_eq_some_iff.mp performed
        cases same
        have given : overlay.guarantee thread self action (world, extra) := by
          cases thread <;> exact guaranteed
        obtain ⟨kept, relied⟩ := overlay.acted holds met.2 given done more
        refine ⟨⟨holds, kept⟩, fun other different => ⟨?_, relied other different⟩⟩
        cases other with
        | none => trivial
        | some other => exact lower.relyRefl other _
  restarted := fun _ restarted => nomatch restarted

variable {overlay} {thread : Thread} {allowed : signature.Action → Prop} {frame : Extra → Prop}

/-- A safe program stays safe, and the actions of which nothing is noted leave alone what the
other threads do. -/
theorem safe_marked (stable : ∀ before after, overlay.rely (some thread) before after →
      frame before → frame after)
    (still : ∀ action world extra, allowed action → frame extra →
      frame (extension.note thread action world extra))
    {fuel : Nat} {program : Program signature Private α} {yields : α → Prop}
    {post : α → World → Prop} {world : World × Extra} (only : program.Only allowed yields)
    (safe : lower.Safe thread fuel program post world.1) (framed : frame world.2) :
    overlay.contract.Safe (some thread) fuel (program.marked further thread)
      (fun value after => yields value ∧ post value after.1 ∧ frame after.2) world := by
  induction fuel generalizing program world with
  | zero => trivial
  | succ fuel ih =>
      cases program with
      | done value => exact ⟨only, safe, framed⟩
      | act self action next =>
          rintro ⟨before, extra⟩ relied kept met
          obtain ⟨guaranteed, following⟩ := safe before relied.1 kept.1 met.1
          refine ⟨⟨rfl, guaranteed⟩, fun oracle result after accepted performed => ?_⟩
          obtain ⟨⟨outcome, later⟩, done, same⟩ := Option.map_eq_some_iff.mp performed
          cases same
          exact ih (only.2 outcome) (following oracle outcome later accepted done)
            (still action before extra only.1 (stable world.2 extra relied.2 framed))
      | loop body state next =>
          have unrolled := ih (Program.Only.unroll only.1 only.2) safe framed
          rw [Program.marked_unroll] at unrolled
          exact unrolled

theorem only_anything {program : Program signature Private α} :
    program.Only (fun _ => True) (fun _ => True) := by
  induction program with
  | done value => trivial
  | act self action next ih => exact ⟨trivial, ih⟩
  | loop body state next rounds ih => exact ⟨rounds, ih⟩

theorem safe_unframed {fuel : Nat} {program : Program signature Private α}
    {post : α → World → Prop} {world : World} (extra : Extra)
    (safe : lower.Safe thread fuel program post world) :
    overlay.contract.Safe (some thread) fuel (program.marked further thread)
      (fun value after => post value after.1) (world, extra) := by
  have stable : ∀ before after : Extra, overlay.rely (some thread) before after →
      (fun _ : Extra => True) before → (fun _ : Extra => True) after :=
    fun _ _ _ _ => trivial
  have still : ∀ (action : signature.Action) (world : World) (extra : Extra),
      (fun _ : signature.Action => True) action → (fun _ : Extra => True) extra →
      (fun _ : Extra => True) (extension.note thread action world extra) :=
    fun _ _ _ _ _ => trivial
  exact (safe_marked stable still only_anything safe trivial).conseq (fun _ _ held => held.2.1)

theorem triple_marked (stable : ∀ before after, overlay.rely (some thread) before after →
      frame before → frame after)
    (still : ∀ action world extra, allowed action → frame extra →
      frame (extension.note thread action world extra))
    {pre : State → World → Prop} {routine : Routine signature Private State α}
    {yields : α → Prop} {post : α → State → World → Prop}
    (only : routine.Only allowed yields)
    (triple : lower.Triple thread pre routine post) :
    overlay.contract.Triple (some thread) (fun self world => pre self world.1 ∧ frame world.2)
      (routine.marked further thread)
      (fun value self world => yields value ∧ post value self world.1 ∧ frame world.2) :=
  fun self world held fuel =>
    safe_marked stable still (only self) (triple self world.1 held.1 fuel) held.2

theorem triple_noted {pre : State → World × Extra → Prop} {view : State → Private}
    {action : signature.Action} {post : signature.Result action → State → World × Extra → Prop}
    (kept : ∀ self world before, pre self world →
      overlay.contract.rely (some thread) world before → overlay.contract.invariant before →
      overlay.contract.condition (some thread) (view self) (.inl (thread, action)) before →
      lower.guarantee thread (view self) action before.1 ∧
      ∀ oracle result after, base.perform action oracle before.1 = some (result, after) →
        post result self (after, extension.note thread action before.1 before.2)) :
    overlay.contract.Triple (some thread) pre
      ((Routine.perform view action).marked further thread) post := by
  apply @Contract.Triple.perform (signature.extend further Thread) Private (Option Thread)
    (World × Extra) extension.machine overlay.contract (some thread) State pre view
    (.inl (thread, action)) post
  intro self world before held relied holds met
  obtain ⟨guaranteed, following⟩ := kept self world before held relied holds met
  refine ⟨⟨rfl, guaranteed⟩, fun oracle result after performed => ?_⟩
  obtain ⟨⟨outcome, later⟩, done, same⟩ := Option.map_eq_some_iff.mp performed
  cases same
  exact following oracle outcome later done

theorem triple_further {acting : Option Thread} {pre : State → World × Extra → Prop}
    {view : State → Private} {action : further.Action}
    {post : further.Result action → State → World × Extra → Prop}
    (kept : ∀ self world before, pre self world →
      overlay.contract.rely acting world before → overlay.contract.invariant before →
      overlay.guarantee acting (view self) action before ∧
      ∀ result after, extension.perform action before.1 before.2 = some (result, after) →
        post result self (before.1, after)) :
    overlay.contract.Triple acting pre (Routine.performFurther Thread view action) post := by
  apply @Contract.Triple.perform (signature.extend further Thread) Private (Option Thread)
    (World × Extra) extension.machine overlay.contract acting State pre view (.inr action) post
  intro self world before held relied holds _met
  obtain ⟨guaranteed, following⟩ := kept self world before held relied holds
  constructor
  · cases acting with
    | none => exact guaranteed
    | some acting => exact guaranteed
  · intro oracle result after performed
    obtain ⟨⟨outcome, later⟩, done, same⟩ := Option.map_eq_some_iff.mp performed
    cases same
    exact following outcome later done

theorem triple_through {pre : State → World × Extra → Prop}
    (middle : α → State → World × Extra → Prop) {routine : Routine signature Private State α}
    {rest : α → Routine signature Private State β} {post : β → State → World × Extra → Prop}
    (first : overlay.contract.Triple (some thread) pre (routine.marked further thread) middle)
    (second : ∀ value, overlay.contract.Triple (some thread) (middle value)
      ((rest value).marked further thread) post) :
    overlay.contract.Triple (some thread) pre ((routine >>= rest).marked further thread) post := by
  rw [Routine.marked_bind]
  exact Contract.Triple.bind first second

end Overlay
end Interleaving
