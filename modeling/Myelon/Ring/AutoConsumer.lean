/-
A consumer that runs in a background thread, and the handle that stops it.

The thread looks at the shutdown signal only where it found nothing to process, and
what is published between the two looks it never processes. Where the signal is set
at no such moment, everything published before it has been handled when the thread
is joined.
-/

import Myelon.Interleaving.Extension
import Myelon.Ring.LateJoin

namespace Ring

open Interleaving Delivery

inductive AutoWaitStrategy where
  | busySpin
  | busySpinWithSpinLoopHint
  | spinThenYield (spins : Nat)
  | block
  | sleep (duration : Nat)

/-! ### The shutdown signal -/

inductive SignalAction where
  | load
  | store
  | finish
  | join

abbrev SignalAction.Result : SignalAction → Type
  | .load => Bool
  | _ => Unit

abbrev shutdownSignature : Signature :=
  { Action := SignalAction, Result := SignalAction.Result }

/-- How far the thread is in a turn: it has still to look at the ring, it has found something
there, it has found nothing and looks at the signal next, or it leaves. -/
inductive Poll where
  | looking
  | found
  | nothing
  | leaving
  deriving DecidableEq

/-- Where the thread has found something it goes on until there is no more, and begins
another turn. -/
def Poll.after : Poll → Bool → Poll
  | _, true => .found
  | .looking, false => .nothing
  | .found, false => .looking
  | poll, false => poll

structure Background (Value : Type) where
  shutdownSignal : Bool
  finished : Bool
  joined : Bool
  poll : Poll
  /-- What had been published when the signal was first set. -/
  promised : List Value

namespace Background

variable {Value : Type}

def initial : Background Value :=
  { shutdownSignal := false, finished := false, joined := false, poll := .looking, promised := [] }

def polled (background : Background Value) (more : Bool) : Background Value :=
  { background with poll := background.poll.after more }

def noted (consumerId : ConsumerId) (party : Party) (action : Action (plain Value))
    (world : World (plain Value)) (background : Background Value) : Background Value :=
  match party, action with
  | .consumer reader, .loadProducerSequence =>
      if reader = consumerId then
        background.polled (decide (world.consumerSequence consumerId < world.producerSequence))
      else background
  | _, _ => background

end Background

theorem Poll.after_leaving {poll : Poll} {more : Bool} (leaving : poll.after more = .leaving) :
    poll = .leaving := by
  cases more with
  | true => cases poll <;> cases leaving
  | false =>
      cases poll with
      | looking => cases leaving
      | found => cases leaving
      | nothing => cases leaving
      | leaving => rfl

theorem Poll.after_nothing {poll : Poll} {more : Bool} (nothing : poll.after more = .nothing) :
    more = false := by
  cases more with
  | true => cases poll <;> cases nothing
  | false => rfl

namespace Background

theorem noted_eq (consumerId : ConsumerId) (party : Party) (action : Action (plain Value))
    (world : World (plain Value)) (background : Background Value) :
    ∃ poll, background.noted consumerId party action world = { background with poll } ∧
      (poll = .leaving → background.poll = .leaving) ∧
      (poll = .nothing → world.producerSequence ≤ world.consumerSequence consumerId ∨
        background.poll = .nothing) ∧
      (party ≠ .consumer consumerId ∨ action ≠ .loadProducerSequence →
        poll = background.poll) := by
  have still : ∃ poll, background = { background with poll } ∧
      (poll = .leaving → background.poll = .leaving) ∧
      (poll = .nothing → world.producerSequence ≤ world.consumerSequence consumerId ∨
        background.poll = .nothing) ∧
      (party ≠ .consumer consumerId ∨ action ≠ .loadProducerSequence →
        poll = background.poll) :=
    ⟨background.poll, rfl, id, .inr, fun _ => rfl⟩
  cases party with
  | producer => exact still
  | consumer reader =>
      cases action
      case loadProducerSequence =>
        by_cases same : reader = consumerId
        · subst same
          refine ⟨_, if_pos rfl, Poll.after_leaving, ?_, ?_⟩
          · intro nothing
            exact .inl (Int.not_lt.mp (of_decide_eq_false (Poll.after_nothing nothing)))
          · rintro (other | different)
            · exact absurd rfl other
            · exact absurd rfl different
        · have unchanged : background.noted consumerId (.consumer reader) .loadProducerSequence
              world = background := if_neg same
          rw [unchanged]
          exact still
      all_goals exact still

end Background

variable {Value : Type} {transport : Transport} {consumerCounters : ConsumerCounters}
variable {passes : DirectoryPasses}

/-- The background thread next to the processes of a transport. A join blocks until the
thread has finished. -/
def background (transport : Transport) (Value : Type) (consumerCounters : ConsumerCounters)
    (passes : DirectoryPasses) (consumerId : ConsumerId) :
    Extension ((plainApplication transport Value consumerCounters).machine passes)
      shutdownSignature (Background Value) where
  note := Background.noted consumerId
  perform := fun action world background => match action with
    | .load => some (background.shutdownSignal,
        { background with
          poll := if background.shutdownSignal = true ∧ background.poll = .nothing then .leaving
            else .looking })
    | .store => some ((),
        if background.shutdownSignal = true then background
        else { background with shutdownSignal := true, promised := world.published })
    | .finish => some ((), { background with finished := true })
    | .join =>
        if background.finished = true then some ((), { background with joined := true })
        else none

abbrev backgroundSignature (Value : Type) : Signature :=
  (signature (plain Value)).extend shutdownSignature Party

/-! ### The thread -/

abbrev BackgroundProcess (Value State : Type) :=
  Routine (backgroundSignature Value) Self State

def AutoWaitStrategy.wait :
    AutoWaitStrategy → ConsumerProcess (plain Value) Unit Unit
  | .busySpin => pure ()
  | .busySpinWithSpinLoopHint => act .pause
  | .spinThenYield spins => do
      Routine.each (fun _ => act .pause) (List.range spins)
      act .pause
  | .block => act .pause
  | .sleep _ => act .pause

def signal {State : Type} [Viewed State] (action : SignalAction) :
    BackgroundProcess Value State action.Result :=
  @Routine.performFurther (signature (plain Value)) shutdownSignature Self State Party
    Viewed.view action

namespace AutoConsumer

def turn (transport : Transport) (waitStrategy : AutoWaitStrategy) (consumerId : ConsumerId) :
    BackgroundProcess Value (Consumer × Unit) (Unit ⊕ Unit) := do
  let processed ← (Consumer.processAvailable transport Consumer.hold).marked
    shutdownSignature (.consumer consumerId)
  if processed = 0 then do
    waitStrategy.wait.marked shutdownSignature (.consumer consumerId)
    let shutdown : Bool ← signal .load
    pure (if shutdown = true then .inr () else .inl ())
  else pure (.inl ())

/-- The consumer is built, and its thread runs until it leaves the loop. -/
def handleEventsBatch (transport : Transport) (counters : ConsumerCounters)
    (waitStrategy : AutoWaitStrategy) (consumerId : ConsumerId) :
    Program (backgroundSignature Value) Self Unit :=
  ((Consumer.attach transport counters ⟨consumerId⟩).marked
    shutdownSignature (Party.consumer consumerId)).bind fun out =>
      ((do
        Routine.repeat' (fun _ : Unit => turn transport waitStrategy consumerId) ()
        signal .finish : BackgroundProcess Value (Consumer × Unit) Unit) (out.1, ())).bind
        fun _ => .done ()

end AutoConsumer

/-! ### The handle -/

structure AutoConsumer where
  consumerId : ConsumerId
  /-- Whether the thread is still to be joined. -/
  joinHandle : Bool

/-- An observer of the thread has no use for the state of the handle. -/
instance : Viewed AutoConsumer := ⟨fun self => .attaching self.consumerId⟩

namespace AutoConsumer

def shutdown : BackgroundProcess Value AutoConsumer Unit :=
  signal .store

def join : BackgroundProcess Value AutoConsumer Unit := do
  let self ← get
  modify fun self => { self with joinHandle := false }
  if self.joinHandle = true then signal .join else pure ()

def shutdownAndJoin : BackgroundProcess Value AutoConsumer Unit := do
  shutdown
  join

/-- The drop of the handle stops the thread as well. -/
def drop : BackgroundProcess Value AutoConsumer Unit :=
  shutdownAndJoin

inductive Call where
  | shutdown
  | join
  | shutdownAndJoin
  | drop

def serve : Call → BackgroundProcess Value AutoConsumer Unit
  | .shutdown => shutdown
  | .join => join
  | .shutdownAndJoin => shutdownAndJoin
  | .drop => drop

def holder (consumerId : ConsumerId) (calls : List Call) :
    Program (backgroundSignature Value) Self Unit :=
  (Routine.each serve calls ⟨consumerId, true⟩).bind fun _ => .done ()

/-! ### Runs -/

abbrev State (Value : Type) :=
  Configuration (backgroundSignature Value) Self (Option Party)
    (World (plain Value) × Background Value)

def machine (transport : Transport) (Value : Type) (consumerCounters : ConsumerCounters)
    (passes : DirectoryPasses) (consumerId : ConsumerId) :
    Machine (backgroundSignature Value) Self (Option Party)
      (World (plain Value) × Background Value) :=
  (background transport Value consumerCounters passes consumerId).machine

/-- The processes of a transport as they start, one of them in the background of a process
that makes these calls of its handle. -/
def start (transport : Transport) (consumerCounters : ConsumerCounters) (slots : Nat → Value)
    (producer : Producer) (attached joining : List ConsumerId) (waitStrategy : AutoWaitStrategy)
    (consumerId : ConsumerId) (calls : List Call) : State Value :=
  { program := fun party => match party with
      | none => holder consumerId calls
      | some party =>
          if party = .consumer consumerId then
            handleEventsBatch transport consumerCounters waitStrategy consumerId
          else (((plainApplication transport Value consumerCounters).start slots producer
            attached joining).program party).marked shutdownSignature party
    world := (((plainApplication transport Value consumerCounters).start slots producer
      attached joining).world, Background.initial) }

/-! ### What is promised when the signal is set -/

/-- No event is overwritten before the thread has consumed it, and the signal is first set
at no moment at which the thread has found nothing and something has been published since. -/
def Drains (transport : Transport) (consumerId : ConsumerId) (_party : Option Party)
    (self : Self) :
    (backgroundSignature Value).Action → World (plain Value) × Background Value → Prop
  | .inl (party, action), world => Spares transport consumerId party self action world.1
  | .inr .store, world => world.2.shutdownSignal = false → world.2.poll = .nothing →
      world.1.producerSequence ≤ world.1.consumerSequence consumerId
  | _, _ => True

instance (consumerId : ConsumerId) (party : Option Party) (self : Self)
    (action : (backgroundSignature Value).Action) (world : World (plain Value) × Background Value) :
    Decidable (Drains transport consumerId party self action world) := by
  rcases action with ⟨party, action⟩ | signal
  · exact inferInstanceAs (Decidable (Spares transport consumerId party self action world.1))
  · cases signal <;> unfold Drains <;> infer_instance

/-- What was promised when the signal was set is there, and is consumed where the thread
leaves. -/
structure Promising (transport : Transport) (consumerId : ConsumerId)
    (world : World (plain Value) × Background Value) : Prop where
  spared : Spared transport consumerId world.1
  uncrashed : Event.crash ∉ world.1.events consumerId
  promised : world.2.promised <+: world.1.written
  visible : (world.2.promised.length : Int) ≤ world.1.producerSequence + 1
  unset : world.2.shutdownSignal = false → world.2.promised = []
  set : world.2.poll = .leaving ∨ world.2.finished = true → world.2.shutdownSignal = true
  consumed : world.2.poll = .nothing ∨ world.2.poll = .leaving ∨ world.2.finished = true →
    (world.2.promised.length : Int) ≤ world.1.consumerSequence consumerId + 1
  joined : world.2.joined = true → world.2.finished = true

section Steps

variable {consumerId : ConsumerId}

private abbrev lower (transport : Transport) (Value : Type) (consumerCounters : ConsumerCounters)
    (passes : DirectoryPasses) :
    Contract ((plainApplication transport Value consumerCounters).machine passes) :=
  (Policy.unobserved (plainApplication transport Value consumerCounters) passes).contract

private theorem always (party : Party) (self : Self) (action : Action (plain Value))
    (world : World (plain Value)) :
    (lower transport Value consumerCounters passes).condition party self action world :=
  @Policy.unobserved_always transport (plainApplication transport Value consumerCounters) passes
    party self action world

private theorem accepting (party : Party) (self : Self) (action : Action (plain Value))
    (oracle : Oracle (plain Value)) (world : World (plain Value)) :
    (lower transport Value consumerCounters passes).accepts party self action oracle world := by
  cases party with
  | producer =>
      cases self with
      | producer producer => trivial
      | consumer consumer => trivial
      | attaching consumerId => trivial
  | consumer consumerId => trivial

/-- Nothing that is published or consumed is taken back. -/
theorem advances (consumerId : ConsumerId) {party : Party} {self : Self}
    {action : Action (plain Value)}
    {oracle : Oracle (plain Value)} {result : action.Result} {before after : World (plain Value)}
    (holds : (lower transport Value consumerCounters passes).invariant before)
    (guaranteed : (lower transport Value consumerCounters passes).guarantee party self action
      before)
    (performed : perform passes action oracle before = some (result, after)) :
    before.producerSequence ≤ after.producerSequence ∧ before.written <+: after.written ∧
      before.consumerSequence consumerId ≤ after.consumerSequence consumerId := by
  obtain ⟨kept, relied⟩ := (lower transport Value consumerCounters passes).performed holds
    (always party self action before) guaranteed performed
  cases party with
  | producer =>
      have seen : ConsumerRely consumerId before after :=
        relied (.consumer consumerId) (fun same => Party.noConfusion same)
      have first := (holds.positions consumerId).1
      have second := (kept.positions consumerId).1
      rw [seen.events, first] at second
      exact ⟨seen.producerSequence, seen.written, Int.le_of_eq second⟩
  | consumer other =>
      have seen : ProducerRely before after :=
        relied .producer (fun same => Party.noConfusion same)
      exact ⟨Int.le_of_eq seen.producerSequence.symm, seen.written ▸ List.prefix_refl _,
        seen.consumerSequence consumerId⟩

theorem Promising.noted {party : Party} {self : Self} {action : Action (plain Value)}
    {oracle : Oracle (plain Value)} {result : action.Result} {before after : World (plain Value)}
    {background : Background Value}
    (promising : Promising transport consumerId (before, background))
    (holds : (lower transport Value consumerCounters passes).invariant before)
    (guaranteed : (lower transport Value consumerCounters passes).guarantee party self action
      before) (spares : Spares transport consumerId party self action before)
    (performed : perform passes action oracle before = some (result, after)) :
    Promising transport consumerId
      (after, background.noted consumerId party action before) := by
  obtain ⟨published, written, consumed⟩ :=
    advances consumerId holds guaranteed performed
  obtain ⟨poll, same, left, nothing, _still⟩ :=
    background.noted_eq consumerId party action before
  rw [same]
  have visible : (background.promised.length : Int) ≤ before.producerSequence + 1 :=
    promising.visible
  constructor
  · cases party with
    | producer => exact promising.spared.producer_performed guaranteed spares performed
    | consumer other => exact promising.spared.consumer_performed holds guaranteed performed
  · rcases perform_events performed consumerId with same | ⟨event, distinct, more⟩
    · rw [same]
      exact promising.uncrashed
    · rw [more, List.mem_append, List.mem_singleton, not_or]
      exact ⟨promising.uncrashed, fun same => distinct same.symm⟩
  · exact promising.promised.trans written
  · have later : (background.promised.length : Int) ≤ after.producerSequence + 1 := by omega
    exact later
  · exact promising.unset
  · exact fun leaves => promising.set (leaves.imp_left left)
  · intro ends
    have enough : (background.promised.length : Int) ≤ before.consumerSequence consumerId + 1 := by
      rcases ends with empty | leaving | finished
      · rcases nothing empty with up | before
        · omega
        · exact promising.consumed (.inl before)
      · exact promising.consumed (.inr (.inl (left leaving)))
      · exact promising.consumed (.inr (.inr finished))
    have later : (background.promised.length : Int) ≤ after.consumerSequence consumerId + 1 := by
      omega
    exact later
  · exact promising.joined

theorem Promising.acted {party : Option Party} {self : Self} {action : SignalAction}
    {world : World (plain Value)} {before after : Background Value} {result : action.Result}
    (promising : Promising transport consumerId (world, before))
    (holds : (lower transport Value consumerCounters passes).invariant world)
    (drains : Drains transport consumerId party self (.inr action) (world, before))
    (leaves : action = .finish → before.poll = .leaving)
    (performed : (background transport Value consumerCounters passes consumerId).perform action
      world before = some (result, after)) :
    Promising transport consumerId (world, after) := by
  cases action with
  | load =>
      cases performed
      refine { promising with set := ?_, consumed := ?_ }
      · rintro (left | finished)
        · split at left
          · rename_i both
            exact both.1
          · cases left
        · exact promising.set (.inr finished)
      · rintro (empty | left | finished)
        · split at empty
          · cases empty
          · cases empty
        · split at left
          · rename_i both
            exact promising.consumed (.inl both.2)
          · cases left
        · exact promising.consumed (.inr (.inr finished))
  | store =>
      simp only [Ring.background] at performed
      split at performed
      · cases performed
        exact promising
      · rename_i unset
        cases performed
        have low := holds.published.1
        have count : ((world.published).length : Int) = world.producerSequence + 1 := by
          have high := holds.published.2
          rw [World.published, List.length_take]
          omega
        exact {
          spared := promising.spared
          uncrashed := promising.uncrashed
          promised := List.take_prefix _ _
          visible := Int.le_of_eq count
          unset := fun impossible => Bool.noConfusion impossible
          set := fun _ => rfl
          consumed := by
            rintro (empty | ends)
            · have up : world.producerSequence ≤ world.consumerSequence consumerId :=
                drains (Bool.eq_false_iff.mpr unset) empty
              have enough : ((world.published).length : Int) ≤
                  world.consumerSequence consumerId + 1 := by omega
              exact enough
            · exact absurd (promising.set ends) unset
          joined := promising.joined }
  | finish =>
      cases performed
      have left := leaves rfl
      exact { promising with
        set := fun _ => promising.set (.inl left)
        consumed := fun _ => promising.consumed (.inr (.inl left))
        joined := fun _ => rfl }
  | join =>
      simp only [Ring.background] at performed
      split at performed
      · rename_i finished
        cases performed
        exact { promising with joined := fun _ => finished }
      · cases performed

def overlay (transport : Transport) (Value : Type) (consumerCounters : ConsumerCounters)
    (passes : DirectoryPasses) (consumerId : ConsumerId) :
    Overlay (lower transport Value consumerCounters passes)
      (background transport Value consumerCounters passes consumerId) where
  condition := Drains transport consumerId
  guarantee := fun party _ action world => match action with
    | .load => party = some (.consumer consumerId)
    | .finish => party = some (.consumer consumerId) ∧ world.2.poll = .leaving
    | _ => True
  invariant := Promising transport consumerId
  rely := fun party before after => party = some (.consumer consumerId) → after.poll = before.poll
  relyRefl := fun _ _ _ => rfl
  relyTrans := fun left right same => (right same).trans (left same)
  noted := by
    intro party self action oracle world background result after holds guaranteed drains
      performed _kept promising
    refine ⟨promising.noted holds guaranteed drains performed, fun other different same => ?_⟩
    obtain ⟨poll, noted, _left, _nothing, still⟩ :=
      background.noted_eq consumerId party action world
    change (background.noted consumerId party action world).poll = background.poll
    rw [noted]
    apply still
    left
    intro self
    exact different (by rw [same, self])
  acted := by
    intro party self action world background result after holds drains guaranteed performed
      promising
    refine ⟨promising.acted holds drains ?_ performed, fun other different same => ?_⟩
    · rintro rfl
      exact guaranteed.2
    · cases action with
      | load => exact absurd (same.trans guaranteed.symm) different
      | store =>
          simp only [Ring.background] at performed
          split at performed
          all_goals
            cases performed
            rfl
      | finish => exact absurd (same.trans guaranteed.1.symm) different
      | join =>
          simp only [Ring.background] at performed
          split at performed
          · cases performed
            rfl
          · cases performed

end Steps

/-! ### Operations that do not look at the producer cursor -/

def looks {interface : Interface} : Action interface → Bool
  | .loadProducerSequence => true
  | _ => false

abbrev Blind {interface : Interface} {State α : Type} (routine : Process interface State α)
    (yields : α → Prop) : Prop :=
  Routine.Only (fun action => looks action = false) routine yields

section Blind

variable {interface : Interface} {App State : Type} [Viewed State]

theorem act_blind {action : Action interface} (blind : looks action = false) :
    Blind (act action : Process interface State action.Result) (fun _ => True) :=
  Routine.Only.perform Viewed.view blind

theorem expect_blind (condition : Prop) [Decidable condition] :
    Blind (expect condition : Process interface State Unit) (fun _ => True) := by
  unfold expect
  split
  · exact Routine.Only.pure () trivial
  · exact Routine.Only.bind (act_blind rfl) (fun impossible =>
      nomatch (impossible : Empty))

theorem checked_blind (value : Int) :
    Blind (checked value : Process interface State Int) (fun _ => True) := by
  unfold checked
  split
  · exact Routine.Only.pure value trivial
  · exact Routine.Only.bind (act_blind rfl) (fun impossible =>
      nomatch (impossible : Empty))

omit [Viewed State] in
theorem onlyIf_blind {condition : Prop} [Decidable condition] {body : Process interface State Unit}
    (blind : Blind body (fun _ => True)) : Blind (onlyIf condition body) (fun _ => True) := by
  unfold onlyIf
  split
  · exact blind
  · exact Routine.Only.pure () trivial

theorem current_blind :
    Blind (Consumer.current : ConsumerProcess interface App Consumer) (fun _ => True) :=
  Routine.Only.bind Routine.Only.get (fun self _ => Routine.Only.pure self.1 trivial)

theorem count_blind (counter : ConsumerId → Counter) (attached : ConsumerCounters → Bool)
    (amount : Nat) :
    Blind (Consumer.count counter attached amount : ConsumerProcess interface App Unit)
      (fun _ => True) :=
  Routine.Only.bind current_blind (fun _ _ => onlyIf_blind (act_blind rfl))

theorem recordLag_blind (upper lower : Int) :
    Blind (Consumer.recordLag upper lower : ConsumerProcess interface App Unit)
      (fun _ => True) := by
  refine Routine.Only.bind current_blind (fun consumer _ => ?_)
  split
  · exact Routine.Only.bind (checked_blind _) (fun _ _ => act_blind rfl)
  · exact Routine.Only.pure () trivial

theorem borrow_blind (sequence : Int) :
    Blind (Consumer.borrow transport sequence : ConsumerProcess interface App _)
      (fun _ => True) := by
  have gets : Blind (transport.ring.get sequence : ConsumerProcess interface App Nat)
      (fun _ => True) :=
    Routine.Only.bind (expect_blind _) (fun _ _ => Routine.Only.pure _ trivial)
  refine Routine.Only.bind gets (fun slot _ => ?_)
  refine Routine.Only.bind current_blind (fun consumer _ => ?_)
  exact Routine.Only.bind (act_blind rfl) (fun _ _ => Routine.Only.pure _ trivial)

theorem publishConsumedSequence_blind (sequence : Int) :
    Blind (Consumer.publishConsumedSequence sequence : ConsumerProcess interface App Unit)
      (fun _ => True) := by
  refine Routine.Only.bind current_blind (fun consumer _ => ?_)
  exact Routine.Only.bind (act_blind rfl) (fun _ _ _ => trivial)

theorem hold_blind (event : EventRef interface) :
    Blind (Consumer.hold event : ConsumerProcess interface App Unit) (fun _ => True) := by
  apply Routine.Only.repeat'
  intro round
  refine Routine.Only.bind current_blind (fun consumer _ => ?_)
  refine Routine.Only.bind (act_blind rfl) (fun again _ => ?_)
  cases (again : Bool) with
  | false => exact Routine.Only.pure _ trivial
  | true =>
      exact Routine.Only.bind (act_blind rfl) (fun _ _ => Routine.Only.pure _ trivial)

theorem processSnapshotBatchWithEob_blind (lower upper : Int) :
    Blind (Consumer.processSnapshotBatchWithEob transport lower upper
      (fun event _ => Consumer.hold event) : ConsumerProcess interface App Nat)
      (fun count => count = (Consumer.sequences lower upper).length) := by
  refine Routine.Only.bind (recordLag_blind _ _) (fun _ _ => ?_)
  refine Routine.Only.bind (Routine.Only.each (fun sequence => ?_)) (fun _ _ => ?_)
  · exact Routine.Only.bind (borrow_blind sequence) (fun event _ => hold_blind event)
  refine Routine.Only.bind (publishConsumedSequence_blind _) (fun _ _ => ?_)
  refine Routine.Only.bind (count_blind _ _ _) (fun _ _ => ?_)
  exact Routine.Only.pure _ rfl

theorem newOrAttachCursor_blind (consumerId : ConsumerId) :
    Blind (Consumer.newOrAttachCursor consumerId : Process interface Attaching Bool)
      (fun _ => True) := by
  refine Routine.Only.bind (act_blind rfl) (fun isNew _ => ?_)
  refine Routine.Only.bind (onlyIf_blind (act_blind rfl)) (fun _ _ => ?_)
  exact Routine.Only.pure _ trivial

theorem attach_blind (counters : ConsumerCounters) :
    Blind (Consumer.attach transport counters : Process interface Attaching Consumer)
      (fun _ => True) := by
  refine Routine.Only.bind Routine.Only.get (fun attaching _ => ?_)
  refine Routine.Only.bind (newOrAttachCursor_blind _) (fun isNew _ => ?_)
  refine Routine.Only.bind (expect_blind _) (fun _ _ => ?_)
  refine Routine.Only.bind (act_blind rfl) (fun sequence _ => ?_)
  refine Routine.Only.bind (onlyIf_blind (act_blind rfl)) (fun _ _ => ?_)
  exact Routine.Only.pure _ trivial

end Blind

/-! ### The turns of the thread -/

section Turns

variable {consumerId : ConsumerId}

abbrev BackgroundTriple {State α : Type} (transport : Transport) (Value : Type)
    (consumerCounters : ConsumerCounters) (passes : DirectoryPasses) (consumerId : ConsumerId)
    (pre : State → World (plain Value) × Background Value → Prop)
    (routine : BackgroundProcess Value State α)
    (post : α → State → World (plain Value) × Background Value → Prop) : Prop :=
  (overlay transport Value consumerCounters passes consumerId).contract.Triple
    (some (.consumer consumerId)) pre routine post

theorem blind_triple {State α : Type} {pre : State → World (plain Value) → Prop}
    {routine : Process (plain Value) State α} {yields : α → Prop}
    {post : α → State → World (plain Value) → Prop} (poll : Poll)
    (blind : Blind routine yields)
    (triple : (lower transport Value consumerCounters passes).Triple (.consumer consumerId) pre
      routine post) :
    BackgroundTriple transport Value consumerCounters passes consumerId
      (fun self world => pre self world.1 ∧ world.2.poll = poll)
      (routine.marked shutdownSignature (.consumer consumerId))
      (fun value self world => yields value ∧ post value self world.1 ∧ world.2.poll = poll) := by
  have stable : ∀ before after : Background Value,
      (overlay transport Value consumerCounters passes consumerId).rely
        (some (.consumer consumerId)) before after → before.poll = poll → after.poll = poll :=
    fun before after relied placed => (relied rfl).trans placed
  have still : ∀ (action : Action (plain Value)) (world : World (plain Value))
      (before : Background Value), looks action = false → before.poll = poll →
        (before.noted consumerId (.consumer consumerId) action world).poll = poll := by
    intro action world before blind placed
    obtain ⟨later, noted, _left, _nothing, still⟩ :=
      before.noted_eq consumerId (.consumer consumerId) action world
    rw [noted]
    refine (still (.inr ?_)).trans placed
    rintro rfl
    cases blind
  exact Overlay.triple_marked stable still blind triple

abbrev Turning (transport : Transport) (consumerCounters : ConsumerCounters)
    (passes : DirectoryPasses) (consumerId : ConsumerId) (poll : Poll) (self : Consumer × Unit)
    (world : World (plain Value) × Background Value) : Prop :=
  (Policy.unobserved (plainApplication transport Value consumerCounters) passes).Rested consumerId
    Policy.Anything self world.1 ∧ world.2.poll = poll

theorem polled_triple {log : List (ConsumerEvent (plain Value))} {visible : Int} (poll : Poll)
    (idle : (position log).Idle) :
    BackgroundTriple transport Value consumerCounters passes consumerId
      (fun self world => (Policy.unobserved (plainApplication transport Value consumerCounters)
        passes).Standing consumerId log () visible self world.1 ∧ world.2.poll = poll)
      ((Consumer.availableBatchBounds transport).marked shutdownSignature
        (.consumer consumerId))
      (fun bounds self world => match bounds with
        | none => Turning transport consumerCounters passes consumerId (poll.after false) self world
        | some (lower, upper) =>
            (Policy.unobserved (plainApplication transport Value consumerCounters)
              passes).Facing consumerId Policy.Anything lower upper self world.1 ∧
            world.2.poll = .found) := by
  refine Overlay.triple_through _ (blind_triple poll current_blind Policy.current_triple)
    (fun consumer => ?_)
  refine Contract.Triple.given (consumer.lastProcessedSequence = (position log).committed) ?_
    (fun last => ?_)
  · rintro self world ⟨-, ⟨rfl, standing⟩, -⟩
    exact standing.here.lastProcessedSequence
  refine Overlay.triple_through _ ((blind_triple poll (expect_blind _)
    (Policy.consumer_expect Policy.standing_stable)).strengthen
      (fun _ _ held => ⟨held.2.1.2, held.2.2⟩)) (fun _ => ?_)
  let seen (published : Int) : Poll := poll.after (decide ((position log).committed < published))
  refine Overlay.triple_through (fun (published : Int) self world =>
    (Policy.unobserved (plainApplication transport Value consumerCounters) passes).Standing
      consumerId log () published self world.1 ∧ world.2.poll = seen published) ?_
    (fun published => ?_)
  · refine Overlay.triple_noted ?_
    rintro self world before ⟨-, ⟨-, standing⟩, placed⟩ relied holds _met
    refine ⟨rfl, fun oracle result after performed => ?_⟩
    cases performed
    have stands := Policy.standing_stable self world.1 before.1 relied.1 standing
    have committed := (holds.1.positions consumerId).1
    rw [stands.here.events] at committed
    refine ⟨{ stands with visible := Int.le_refl _ }, ?_⟩
    change (before.2.noted consumerId (.consumer consumerId) .loadProducerSequence before.1).poll =
      seen before.1.producerSequence
    have looked : before.2.noted consumerId (.consumer consumerId) .loadProducerSequence before.1 =
        before.2.polled (decide (before.1.consumerSequence consumerId <
          before.1.producerSequence)) := if_pos rfl
    rw [looked, ← committed]
    exact congrArg (fun poll : Poll => poll.after _) ((relied.2 rfl).trans placed)
  refine Overlay.triple_through _ (blind_triple (seen published) (checked_blind _)
    (Policy.consumer_checked Policy.standing_stable)) (fun next => ?_)
  refine Contract.Triple.assume (fun _ _ held => held.2.1.1) (fun same => ?_)
  refine Contract.Triple.pure _ ?_
  rintro self world ⟨-, ⟨-, standing⟩, placed⟩
  by_cases nothing : next > published
  · have none : ¬ (position log).committed < published := by omega
    simp only [seen, decide_eq_false none] at placed
    rw [if_pos nothing]
    exact ⟨⟨log, (), published, trivial, idle, standing⟩, placed⟩
  · have more : (position log).committed < published := by omega
    simp only [seen, decide_eq_true more] at placed
    rw [if_neg nothing]
    refine ⟨⟨log, (), ⟨trivial, ?_, by omega⟩, standing⟩, ?_⟩
    · rw [same, last, Int.add_sub_cancel, ← idle]
    · rw [placed]
      cases poll <;> rfl

theorem bounds_background (poll : Poll) :
    BackgroundTriple transport Value consumerCounters passes consumerId
      (Turning transport consumerCounters passes consumerId poll)
      ((Consumer.availableBatchBounds transport).marked shutdownSignature
        (.consumer consumerId))
      (fun bounds self world => match bounds with
        | none => Turning transport consumerCounters passes consumerId (poll.after false) self world
        | some (lower, upper) =>
            (Policy.unobserved (plainApplication transport Value consumerCounters)
              passes).Facing consumerId Policy.Anything lower upper self world.1 ∧
            world.2.poll = .found) := by
  rintro self world ⟨⟨log, app, visible, -, idle, standing⟩, placed⟩ fuel
  exact polled_triple poll idle self world ⟨standing, placed⟩ fuel

def counted (processed : Nat) (none some : Poll) : Poll :=
  if processed = 0 then none else some

theorem processBatches_background :
    BackgroundTriple transport Value consumerCounters passes consumerId
      (Turning transport consumerCounters passes consumerId .looking)
      ((Consumer.processBatches transport 0 fun event _ => Consumer.hold event).marked
        shutdownSignature (.consumer consumerId))
      (fun processed => Turning transport consumerCounters passes consumerId
        (counted processed .nothing .looking)) := by
  rw [Consumer.processBatches, Routine.marked_repeat]
  refine Contract.Triple.repeat' (fun processed => Turning transport consumerCounters passes
    consumerId (counted processed .looking .found)) ?_ 0
  intro processed
  refine Overlay.triple_through _ (bounds_background (counted processed .looking .found))
    (fun bounds => ?_)
  match bounds with
  | none =>
      refine Contract.Triple.pure _ ?_
      rintro self world ⟨here, placed⟩
      refine ⟨here, placed.trans ?_⟩
      unfold counted
      split
      all_goals rfl
  | some (lower, upper) =>
      refine Contract.Triple.given (lower ≤ upper) ?_ (fun shown => ?_)
      · rintro self world ⟨⟨log, app, facts, -⟩, -⟩
        exact facts.2.2
      refine Overlay.triple_through _ (blind_triple .found
        (processSnapshotBatchWithEob_blind lower upper)
        (Policy.processSnapshotBatchWithEob_triple (Policy.hold_processes (fun _ _ => trivial))
          lower upper)) (fun more => ?_)
      refine Contract.Triple.pure _ ?_
      rintro self world ⟨batch, here, placed⟩
      have some : processed + more ≠ 0 := by
        rw [batch, Consumer.sequences, List.length_map, List.length_range]
        omega
      exact ⟨here, placed.trans (if_neg some).symm⟩

theorem processAvailable_background (sharedMemory : transport.backend = .sharedMemory) :
    BackgroundTriple transport Value consumerCounters passes consumerId
      (Turning transport consumerCounters passes consumerId .looking)
      ((Consumer.processAvailable transport Consumer.hold).marked shutdownSignature
        (.consumer consumerId))
      (fun processed => Turning transport consumerCounters passes consumerId
        (counted processed .nothing .looking)) := by
  rw [Consumer.processAvailable, sharedMemory]
  refine Overlay.triple_through _ processBatches_background (fun processed => ?_)
  refine Overlay.triple_through (fun _ => Turning transport consumerCounters passes consumerId
    (counted processed .nothing .looking)) ?_
    (fun _ => Contract.Triple.pure _ (fun _ _ held => held))
  exact (blind_triple _ (onlyIf_blind (count_blind _ _ _))
    (Policy.consumer_onlyIf (Policy.count_rested_triple _ _ _))).weaken
      (fun _ _ _ held => held.2)

theorem pause_background :
    BackgroundTriple transport Value consumerCounters passes consumerId
      (Turning transport consumerCounters passes consumerId .nothing)
      ((act .pause : ConsumerProcess (plain Value) Unit Unit).marked shutdownSignature
        (.consumer consumerId))
      (fun _ => Turning transport consumerCounters passes consumerId .nothing) :=
  (blind_triple .nothing (act_blind rfl) Policy.pause_rested_triple).weaken
    (fun _ _ _ held => held.2)

theorem pauses_blind {spins : Nat} :
    Blind (Routine.each (fun _ : Nat => act .pause) (List.range spins) :
      ConsumerProcess (plain Value) Unit Unit) (fun _ => True) :=
  Routine.Only.each (fun _ => act_blind rfl)

theorem wait_background (waitStrategy : AutoWaitStrategy) :
    BackgroundTriple transport Value consumerCounters passes consumerId
      (Turning transport consumerCounters passes consumerId .nothing)
      (waitStrategy.wait.marked shutdownSignature (.consumer consumerId))
      (fun _ => Turning transport consumerCounters passes consumerId .nothing) := by
  cases waitStrategy with
  | busySpin => exact Contract.Triple.pure _ (fun _ _ held => held)
  | busySpinWithSpinLoopHint => exact pause_background
  | spinThenYield spins =>
      refine Overlay.triple_through _ ?_ (fun _ => pause_background)
      exact (blind_triple .nothing pauses_blind
        (Contract.Triple.each (fun _ => Policy.pause_rested_triple))).weaken
          (fun _ _ _ held => held.2)
  | block => exact pause_background
  | sleep duration => exact pause_background

theorem turn_triple (sharedMemory : transport.backend = .sharedMemory)
    (waitStrategy : AutoWaitStrategy) :
    BackgroundTriple transport Value consumerCounters passes consumerId
      (Turning transport consumerCounters passes consumerId .looking)
      (turn transport waitStrategy consumerId)
      (fun ends self world => match ends with
        | .inl _ => Turning transport consumerCounters passes consumerId .looking self world
        | .inr _ => world.2.poll = .leaving) := by
  refine Contract.Triple.bind (processAvailable_background sharedMemory) (fun processed => ?_)
  split
  · rename_i none
    refine Contract.Triple.through _ ((wait_background waitStrategy).strengthen
      (fun _ _ held => ⟨held.1, held.2.trans (if_pos none)⟩)) (fun _ => ?_)
    refine Contract.Triple.through (fun (shutdown : Bool) self world => if shutdown = true
      then world.2.poll = .leaving
      else Turning transport consumerCounters passes consumerId .looking self world) ?_
      (fun shutdown => ?_)
    · apply Overlay.triple_further
      rintro self world before ⟨here, placed⟩ relied holds
      refine ⟨rfl, fun result after performed => ?_⟩
      have empty : before.2.poll = .nothing := (relied.2 rfl).trans placed
      cases performed
      by_cases set : before.2.shutdownSignal = true
      · rw [if_pos set]
        exact if_pos ⟨set, empty⟩
      · rw [if_neg set]
        exact ⟨Policy.rested_stable self world.1 before.1 relied.1 here,
          if_neg (fun both => set both.1)⟩
    · cases shutdown with
      | true => exact Contract.Triple.pure _ (fun _ _ held => held)
      | false => exact Contract.Triple.pure _ (fun _ _ held => held)
  · rename_i some
    exact Contract.Triple.pure _ (fun _ _ held => ⟨held.1, held.2.trans (if_neg some)⟩)

/-- The thread finishes only where it has left the loop. -/
theorem thread_triple (sharedMemory : transport.backend = .sharedMemory)
    (waitStrategy : AutoWaitStrategy) :
    BackgroundTriple transport Value consumerCounters passes consumerId
      (Turning transport consumerCounters passes consumerId .looking)
      (do
        Routine.repeat' (fun _ : Unit => turn transport waitStrategy consumerId) ()
        signal .finish) (fun _ _ _ => True) := by
  refine Contract.Triple.through (fun (_ : Unit) _ world => world.2.poll = .leaving) ?_
    (fun _ => ?_)
  · refine Contract.Triple.repeat' (fun _ => Turning transport consumerCounters passes consumerId
      .looking) (fun _ => (turn_triple sharedMemory waitStrategy).weaken ?_) ()
    intro ends self world held
    cases ends with
    | inl again => exact held
    | inr left => exact held
  · apply Overlay.triple_further
    intro self world before left relied holds
    exact ⟨⟨rfl, (relied.2 rfl).trans left⟩, fun _ _ _ => trivial⟩

theorem attach_background :
    BackgroundTriple transport Value consumerCounters passes consumerId
      (fun self world => ((Policy.unobserved (plainApplication transport Value consumerCounters)
        passes).Starting consumerId [] self world.1 ∧ consumerId ∉ world.1.uninitialised) ∧
          world.2.poll = .looking)
      ((Consumer.attach transport consumerCounters).marked shutdownSignature
        (.consumer consumerId))
      (fun consumer _ world => (Consumer.At consumerId [] consumer world.1 ∧
        -1 ≤ world.1.producerSequence) ∧ world.2.poll = .looking) :=
  (blind_triple .looking (attach_blind consumerCounters)
    (Policy.attach_consumer_triple consumerCounters)).weaken (fun _ _ _ held => held.2)

theorem handleEventsBatch_safe (sharedMemory : transport.backend = .sharedMemory)
    (waitStrategy : AutoWaitStrategy) {world : World (plain Value) × Background Value}
    (fresh : world.1.events consumerId = []) (initialised : consumerId ∉ world.1.uninitialised)
    (looking : world.2.poll = .looking) (fuel : Nat) :
    (overlay transport Value consumerCounters passes consumerId).contract.Safe
      (some (.consumer consumerId)) fuel
      (handleEventsBatch transport consumerCounters waitStrategy consumerId)
      (fun _ _ => True) world := by
  refine (attach_background ⟨consumerId⟩ world
    ⟨⟨⟨rfl, trivial, .inr trivial, fresh⟩, initialised⟩, looking⟩ fuel).bind _ ?_
  rintro ⟨consumer, attaching⟩ after ⟨⟨here, low⟩, placed⟩ remaining _fewer
  refine (thread_triple sharedMemory waitStrategy (consumer, ()) after
    ⟨⟨[], (), -1, trivial, rfl, here, rfl, low⟩, placed⟩ remaining).bind _ ?_
  intro value later _held rest _less
  cases rest <;> trivial

theorem signal_store_triple :
    (overlay transport Value consumerCounters passes consumerId).contract.Triple none
      (fun (_ : AutoConsumer) _ => True) (signal .store) (fun _ _ _ => True) :=
  Overlay.triple_further (fun _ _ _ _ _ _ => ⟨trivial, fun _ _ _ => trivial⟩)

theorem join_triple :
    (overlay transport Value consumerCounters passes consumerId).contract.Triple none
      (fun (_ : AutoConsumer) _ => True) join (fun _ _ _ => True) := by
  refine Contract.Triple.bind Contract.Triple.get (fun self => ?_)
  refine Contract.Triple.through (fun _ _ _ => True)
    (Contract.Triple.update (fun _ _ _ => trivial)) (fun _ => ?_)
  split
  · exact Overlay.triple_further (fun _ _ _ _ _ _ => ⟨trivial, fun _ _ _ => trivial⟩)
  · exact Contract.Triple.pure _ (fun _ _ held => held)

theorem holder_safe (calls : List Call) {world : World (plain Value) × Background Value}
    (fuel : Nat) :
    (overlay transport Value consumerCounters passes consumerId).contract.Safe none fuel
      (holder consumerId calls) (fun _ _ => True) world := by
  have serves : ∀ call, (overlay transport Value consumerCounters passes
      consumerId).contract.Triple none (fun (_ : AutoConsumer) _ => True) (serve call)
        (fun _ _ _ => True) := by
    intro call
    have both : (overlay transport Value consumerCounters passes
        consumerId).contract.Triple none (fun (_ : AutoConsumer) _ => True) shutdownAndJoin
          (fun _ _ _ => True) :=
      Contract.Triple.bind signal_store_triple (fun _ => join_triple)
    cases call with
    | shutdown => exact signal_store_triple
    | join => exact join_triple
    | shutdownAndJoin => exact both
    | drop => exact both
  refine (Contract.Triple.each serves ⟨consumerId, true⟩ world trivial fuel).bind _ ?_
  intro value after _held rest _less
  cases rest <;> trivial

/-! ### Shutting down drains -/

theorem start_promising (slots : Nat → Value) (producer : Producer)
    (attached joining : List ConsumerId) (waitStrategy : AutoWaitStrategy) (calls : List Call) :
    Promising transport consumerId (start transport consumerCounters slots producer attached
      joining waitStrategy consumerId calls).world where
  spared := by
    have size := transport.ring.size_pos
    constructor
    · simp only [start, Application.start, World.initial, List.length_nil]
      omega
    · exact fun event member => absurd member List.not_mem_nil
  uncrashed := List.not_mem_nil
  promised := List.nil_prefix
  visible := Int.le_refl _
  unset := fun _ => rfl
  set := by
    rintro (left | finished)
    · cases left
    · cases finished
  consumed := fun _ => Int.le_refl _
  joined := fun impossible => Bool.noConfusion impossible

theorem start_upheld (sharedMemory : transport.backend = .sharedMemory) {slots : Nat → Value}
    {producer : Producer} {attached joining : List ConsumerId} (fresh : producer.Fresh transport)
    (known : producer.consumerBarrier.consumerCursors ⊆ attached)
    (waitStrategy : AutoWaitStrategy) (calls : List Call) :
    (overlay transport Value consumerCounters passes consumerId).contract.Upheld
      (start transport consumerCounters slots producer attached joining waitStrategy consumerId
        calls) := by
  have started : (lower transport Value consumerCounters passes).Upheld
      ((plainApplication transport Value consumerCounters).start slots producer attached
        joining) := start_unobserved fresh known
  refine ⟨⟨started.invariant, start_promising slots producer attached joining waitStrategy calls⟩,
    fun party fuel => ?_⟩
  cases party with
  | none => exact holder_safe calls fuel
  | some party =>
      by_cases own : party = .consumer consumerId
      · subst own
        simp only [start, if_pos]
        exact handleEventsBatch_safe sharedMemory waitStrategy rfl List.not_mem_nil rfl fuel
      · simp only [start, if_neg own]
        exact Overlay.safe_unframed Background.initial (started.safe party fuel)

end Turns

/-- Where the signal is first set at no moment at which the thread has found nothing and
something has been published since, everything that was published before has been handled
when the thread is joined, once and in order. -/
theorem auto_consumer_drains (sharedMemory : transport.backend = .sharedMemory)
    {slots : Nat → Value} {producer : Producer} {attached joining : List ConsumerId}
    {waitStrategy : AutoWaitStrategy} {consumerId : ConsumerId} {calls : List Call}
    {moves : List (Move (Option Party) (Oracle (plain Value)))} {after : State Value}
    (fresh : producer.Fresh transport)
    (known : producer.consumerBarrier.consumerCursors ⊆ attached)
    (reached : (machine transport Value consumerCounters passes consumerId).run
      (start transport consumerCounters slots producer attached joining waitStrategy consumerId
        calls) moves = some after)
    (met : (machine transport Value consumerCounters passes consumerId).Meets
      (Drains transport consumerId)
      (start transport consumerCounters slots producer attached joining waitStrategy consumerId
        calls) moves)
    (joined : after.world.2.joined = true) :
    numbered after.world.2.promised <+: reads (after.world.1.events consumerId) ∧
      reads (after.world.1.events consumerId) <+: numbered after.world.1.published := by
  have drains : (machine transport Value consumerCounters passes consumerId).Meets
      (overlay transport Value consumerCounters passes consumerId).contract.condition
      (start transport consumerCounters slots producer attached joining waitStrategy consumerId
        calls) moves := by
    refine met.imp (fun party self action world drains => ⟨?_, drains⟩)
    cases party with
    | none => trivial
    | some party =>
        cases action with
        | inl marked => exact always party self marked.2 world.1
        | inr action => trivial
  have accepted : (machine transport Value consumerCounters passes consumerId).Accepts
      (overlay transport Value consumerCounters passes consumerId).contract.accepts
      (start transport consumerCounters slots producer attached joining waitStrategy consumerId
        calls) moves := by
    refine Machine.accepts_always (fun party self action oracle world => ?_) _ _
    cases party with
    | none => trivial
    | some party =>
        cases action with
        | inl marked => exact accepting party self marked.2 oracle world.1
        | inr action => trivial
  have upheld : (overlay transport Value consumerCounters passes
      consumerId).contract.Upheld after :=
    Contract.Upheld.run (fun _ _ _ _ _ restarted => nomatch restarted)
      (start_upheld sharedMemory fresh known waitStrategy calls) drains accepted reached
  obtain ⟨holds, promising⟩ := upheld.invariant
  have placed := holds.positions consumerId
  have finished : (after.world.2.promised.length : Int) ≤
      after.world.1.consumerSequence consumerId + 1 :=
    promising.consumed (.inr (.inr (promising.joined joined)))
  have ordered := holds.ordered consumerId
  have ahead := ordered.start_le
  rw [reads_eq_take ordered promising.spared.faithful promising.uncrashed, numbered_take]
  constructor
  · apply numbered_mono
    apply List.prefix_take_iff.mpr
    exact ⟨promising.promised, by omega⟩
  · exact numbered_mono (List.take_prefix_take_left (by omega))

/-! ### A thread that drains, and one that leaves an event behind -/

section Stopping

def inBackground (oracles : List (Oracle (plain Nat))) :
    List (Move (Option Party) (Oracle (plain Nat))) :=
  oracles.map (Move.step (some (.consumer "auto")))

def inForeground (oracles : List (Oracle (plain Nat))) :
    List (Move (Option Party) (Oracle (plain Nat))) :=
  oracles.map (Move.step (some .producer))

def byHolder : Move (Option Party) (Oracle (plain Nat)) :=
  .step none .silent

abbrev stopping : State Nat :=
  start twoSlots noCounters (fun _ => 0) undiscovering [] [] .busySpin "auto" [.shutdownAndJoin]

abbrev stoppingMachine := machine twoSlots Nat noCounters .mayFail "auto"

def publishes : List (Move (Option Party) (Oracle (plain Nat))) :=
  inForeground [.silent, .producerRequest (.publish fun _ => some 7), .silent, .silent, .silent,
    .silent]

def stopsInTime : List (Move (Option Party) (Oracle (plain Nat))) :=
  publishes ++ inBackground [.silent, .silent, .silent, .silent] ++ [byHolder] ++
  inBackground [.silent, .silent, .silent, .silent, .silent, .again false, .silent, .silent,
    .silent, .silent, .silent, .silent, .silent, .silent] ++ [byHolder]

/-- The thread finds nothing, the event is published, the signal is set, and the thread looks
at the signal. -/
def stopsEarly : List (Move (Option Party) (Oracle (plain Nat))) :=
  inBackground [.silent, .silent, .silent, .silent, .silent, .silent, .silent] ++ publishes ++
  [byHolder] ++ inBackground [.silent, .silent] ++ [byHolder]

theorem auto_consumer_drains_inTime : ∃ after, stoppingMachine.run stopping stopsInTime =
      some after ∧ after.world.2.promised = [7] ∧
      numbered [7] <+: reads (after.world.1.events "auto") := by
  have found : (stoppingMachine.run stopping stopsInTime).any (fun after =>
      after.world.2.joined && decide (after.world.2.promised = [7])) = true := by
    decide +kernel
  have checked : stoppingMachine.checks (Drains twoSlots "auto") stopping stopsInTime =
      true := by
    decide +kernel
  obtain ⟨after, reached, both⟩ := (Option.any_eq_true _ _).mp found
  obtain ⟨joined, promised⟩ := Bool.and_eq_true_iff.mp both
  have promised : after.world.2.promised = [7] := of_decide_eq_true promised
  have drained := (auto_consumer_drains rfl ⟨rfl, rfl⟩ (List.Subset.refl _) reached
    (Machine.meets_of_checks checked) joined).1
  rw [promised] at drained
  exact ⟨after, reached, promised, drained⟩

/-- The event was published before the signal was set, and no one has read it. -/
theorem auto_consumer_leaves_behind : ∃ after : State Nat,
    stoppingMachine.run stopping stopsEarly = some after ∧ after.world.2.joined = true ∧
      after.world.2.promised = [7] ∧ reads (after.world.1.events "auto") = [] := by
  have found : (stoppingMachine.run stopping stopsEarly).any (fun after =>
      after.world.2.joined && (decide (after.world.2.promised = [7]) &&
        decide (reads (after.world.1.events "auto") = []))) = true := by
    decide +kernel
  obtain ⟨after, reached, all⟩ := (Option.any_eq_true _ _).mp found
  obtain ⟨joined, both⟩ := Bool.and_eq_true_iff.mp all
  obtain ⟨promised, read⟩ := Bool.and_eq_true_iff.mp both
  exact ⟨after, reached, joined, of_decide_eq_true promised, of_decide_eq_true read⟩

end Stopping

end AutoConsumer
end Ring
