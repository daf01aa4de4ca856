/-
Consumers that the producer knows from the start.

Their cursors gate the producer whatever it discovers later, so nothing they have
still to read is overwritten: each of them reads every event in order, and after
a crash goes on behind its cursor.
-/

import Myelon.Ring.Plain

namespace Ring

open Interleaving Delivery

variable {transport : Transport}

/-! ### The contract of known consumers -/

/-- The given consumers count, and no others. Directory passes of the mmap backend
do not fail. -/
def Policy.known (application : Application transport) (passes : DirectoryPasses)
    (reliable : transport.backend = .mmap → passes = .reliable)
    (consumerIds : List ConsumerId)
    (permits : List (ConsumerEvent application.interface) →
      ConsumerEvent application.interface → Prop)
    (answers : List application.interface.Value →
      List (Nat × application.interface.ProducerReply) →
      application.interface.ProducerReply → Prop) : Policy application where
  passes
  joins := fun _ => True
  creates := fun consumerId => consumerId ∉ consumerIds
  observed := fun consumerId => consumerId ∈ consumerIds
  gated := fun barrier consumerId =>
    consumerId ∈ consumerIds ∧ consumerId ∈ barrier.consumerCursors
  condition := fun _ _ _ => True
  permits
  answers
  grows := fun more _mode gated => ⟨gated.1, more gated.2⟩
  covers := fun gated _met => .inl gated.2
  readable := fun _met gated created => absurd gated.1 created
  mmap := fun _backend gated => gated.2
  harmless := fun backend allowed _accepted failing =>
    absurd failing (allowed.succeeds (reliable backend))
  admits := fun _met _present observes gated => .inl (observes _ gated.1)

/-! ### What a single step adds to the logs -/

variable {interface : Interface}

theorem perform_events {passes : DirectoryPasses} {action : Action interface}
    {oracle : Oracle interface} {before after : World interface} {result : action.Result}
    (performed : perform passes action oracle before = some (result, after))
    (consumerId : ConsumerId) : after.events consumerId = before.events consumerId ∨
      ∃ event, event ≠ .crash ∧
        after.events consumerId = before.events consumerId ++ [event] := by
  have recorded : ∀ (reader : ConsumerId) (event : ConsumerEvent interface),
      event ≠ .crash →
      Function.update before.events reader (before.events reader ++ [event]) consumerId =
        before.events consumerId ∨ ∃ last, last ≠ .crash ∧
        Function.update before.events reader (before.events reader ++ [event]) consumerId =
          before.events consumerId ++ [last] := by
    intro reader event distinct
    by_cases same : consumerId = reader
    · subst same
      exact .inr ⟨event, distinct, Function.update_self _ _ _⟩
    · exact .inl (Function.update_of_ne same _ _)
  by_cases quiet : action.quiet = true
  · rw [(perform_quiet quiet performed).events]
    exact .inl rfl
  · cases action
    case storeProducerSequence => cases performed; exact .inl rfl
    case attachConsumerSequence =>
      simp only [perform] at performed
      split at performed <;> cases performed <;> exact .inl rfl
    case newOrAttachConsumerSequence =>
      simp only [perform] at performed
      split at performed <;> cases performed <;> exact .inl rfl
    case initialiseConsumerSequence => cases performed; exact .inl rfl
    case updateSlot =>
      simp only [perform] at performed
      split at performed
      · cases performed
      · cases performed
        exact .inl rfl
    case reply => cases performed; exact .inl rfl
    case readSlot reader sequence slot =>
      cases performed
      exact recorded reader _ (by simp)
    case rereadSlot reader sequence slot =>
      cases performed
      exact recorded reader _ (by simp)
    case handOver reader output =>
      cases performed
      exact recorded reader _ (by simp)
    case storeConsumerSequence writer sequence =>
      cases performed
      exact recorded writer (.commit sequence) (by simp)
    case refused => cases oracle <;> cases performed
    all_goals exact absurd rfl quiet

theorem perform_discovered {passes : DirectoryPasses} {action : Action interface}
    {oracle : Oracle interface} {before after : World interface} {result : action.Result}
    (performed : perform passes action oracle before = some (result, after)) :
    before.discovered ⊆ after.discovered := by
  by_cases quiet : action.quiet = true
  · rw [(perform_quiet quiet performed).discovered]
    exact List.Subset.refl _
  · cases action
    case attachConsumerSequence =>
      simp only [perform] at performed
      split at performed
      · cases performed
        exact List.subset_cons_self _ _
      · cases performed
        exact List.Subset.refl _
    case newOrAttachConsumerSequence =>
      simp only [perform] at performed
      split at performed <;> cases performed <;> exact List.Subset.refl _
    case initialiseConsumerSequence => cases performed; exact List.Subset.refl _
    case updateSlot =>
      simp only [perform] at performed
      split at performed
      · cases performed
      · cases performed
        exact List.Subset.refl _
    case storeProducerSequence => cases performed; exact List.Subset.refl _
    case storeConsumerSequence => cases performed; exact List.Subset.refl _
    case reply => cases performed; exact List.Subset.refl _
    case readSlot => cases performed; exact List.Subset.refl _
    case rereadSlot => cases performed; exact List.Subset.refl _
    case handOver => cases performed; exact List.Subset.refl _
    case refused => cases oracle <;> cases performed
    all_goals exact absurd rfl quiet

theorem move_events {application : Application transport} {passes : DirectoryPasses}
    {before after : application.State}
    {first : Move Party (application.machine passes).Oracle}
    (moved : (application.machine passes).move before first = some after)
    (consumerId : ConsumerId) :
    after.world.events consumerId = before.world.events consumerId ∨
      ∃ event, (event = .crash → first = .crash (.consumer consumerId)) ∧
        after.world.events consumerId = before.world.events consumerId ++ [event] := by
  cases first with
  | step thread oracle =>
      rcases Machine.move_step moved with
        ⟨self, action, next, result, world, placed, performed, rfl⟩ |
          ⟨β, γ, body, state, next, placed, rfl⟩
      · rw [Configuration.launch_world]
        exact (perform_events performed consumerId).imp_right fun ⟨event, distinct, more⟩ =>
          ⟨event, fun same => absurd same distinct, more⟩
      · exact .inl rfl
  | crash thread =>
      obtain ⟨program, world, restarted, rfl⟩ := Machine.move_crash moved
      rw [Configuration.launch_world]
      cases thread with
      | producer => cases restarted
      | consumer otherId =>
          simp only [Application.machine] at restarted
          split at restarted
          · cases restarted
            by_cases same : consumerId = otherId
            · subst same
              exact .inr ⟨.crash, fun _ => rfl, by
                simp only [World.record, Function.update_self]⟩
            · exact .inl (by simp only [World.record, Function.update_of_ne same])
          · cases restarted

theorem run_adds {application : Application transport} {passes : DirectoryPasses}
    {before after : application.State}
    {moves : List (Move Party (application.machine passes).Oracle)}
    (ran : (application.machine passes).run before moves = some after)
    (consumerId : ConsumerId) :
    ∃ added, after.world.events consumerId = before.world.events consumerId ++ added ∧
      (Move.crash (.consumer consumerId) ∉ moves → Event.crash ∉ added) := by
  induction moves generalizing before with
  | nil =>
      cases ran
      exact ⟨[], (List.append_nil _).symm, fun _ => List.not_mem_nil⟩
  | cons first rest ih =>
      simp only [Machine.run] at ran
      split at ran
      · cases ran
      · rename_i next moved
        obtain ⟨added, further, later⟩ := ih ran
        rcases move_events moved consumerId with same | ⟨event, crashes, more⟩
        · rw [same] at further
          exact ⟨added, further, fun absent => later (fun member =>
            absent (List.mem_cons_of_mem _ member))⟩
        · rw [more, List.append_assoc] at further
          refine ⟨[event] ++ added, further, fun absent => ?_⟩
          rw [List.mem_append, List.mem_singleton, not_or]
          refine ⟨fun same => absent ?_, later (fun member =>
            absent (List.mem_cons_of_mem _ member))⟩
          rw [crashes same.symm]
          exact List.mem_cons_self

theorem run_events {application : Application transport} {passes : DirectoryPasses}
    {before after : application.State}
    {moves : List (Move Party (application.machine passes).Oracle)}
    (ran : (application.machine passes).run before moves = some after)
    (consumerId : ConsumerId) :
    before.world.events consumerId <+: after.world.events consumerId ∧
      (Move.crash (.consumer consumerId) ∉ moves →
        Event.crash ∉ before.world.events consumerId →
        Event.crash ∉ after.world.events consumerId) := by
  obtain ⟨added, further, later⟩ := run_adds ran consumerId
  rw [further]
  refine ⟨List.prefix_append _ _, fun absent none => ?_⟩
  rw [List.mem_append, not_or]
  exact ⟨none, later absent⟩

/-- A consumer that the producer has found stays found. -/
theorem move_discovered {application : Application transport} {passes : DirectoryPasses}
    {before after : application.State}
    {first : Move Party (application.machine passes).Oracle}
    (moved : (application.machine passes).move before first = some after) :
    before.world.discovered ⊆ after.world.discovered := by
  cases first with
  | step thread oracle =>
      rcases Machine.move_step moved with
        ⟨self, action, continuation, result, world, placed, performed, rfl⟩ |
          ⟨β, γ, body, state, continuation, placed, rfl⟩
      · exact perform_discovered performed
      · exact List.Subset.refl _
  | crash thread =>
      obtain ⟨program, world, restarted, rfl⟩ := Machine.move_crash moved
      cases thread with
      | producer => cases restarted
      | consumer consumerId =>
          simp only [Application.machine] at restarted
          split at restarted <;> cases restarted
          exact List.Subset.refl _

theorem run_discovered {application : Application transport} {passes : DirectoryPasses}
    {before after : application.State}
    {moves : List (Move Party (application.machine passes).Oracle)}
    (ran : (application.machine passes).run before moves = some after) :
    before.world.discovered ⊆ after.world.discovered := by
  induction moves generalizing before with
  | nil =>
      cases ran
      exact List.Subset.refl _
  | cons first rest ih =>
      simp only [Machine.run] at ran
      split at ran
      · cases ran
      · rename_i next moved
        exact List.Subset.trans (move_discovered moved) (ih ran)

/-! ### Every run with known consumers -/

variable {Value : Type}

/-- The values that consumers may see. -/
def World.published (world : World interface) : List interface.Value :=
  world.written.take (world.producerSequence + 1).toNat

/-- A consumer that counts and has never crashed has read a prefix of what is published. -/
theorem reads_published {application : Application transport} {policy : Policy application}
    {world : World application.interface} {consumerId : ConsumerId} (holds : policy.Holds world)
    (observed : policy.observed consumerId)
    (uninterrupted : Event.crash ∉ world.events consumerId) :
    reads (world.events consumerId) <+: numbered world.published := by
  have visible := (holds.positions consumerId).2
  rw [reads_eq_take (holds.ordered consumerId) (holds.faithful consumerId observed)
    uninterrupted, numbered_take]
  exact numbered_mono (List.take_prefix_take_left (by omega))

def Reaches (transport : Transport) (passes : DirectoryPasses)
    (consumerCounters : ConsumerCounters) (slots : Nat → Value) (producer : Producer)
    (attached joining : List ConsumerId)
    (moves : List (Move Party (Oracle (plain Value))))
    (after : (plainApplication transport Value consumerCounters).State) : Prop :=
  ((plainApplication transport Value consumerCounters).machine passes).run
    ((plainApplication transport Value consumerCounters).start slots producer attached joining)
    moves = some after

variable {passes : DirectoryPasses} {consumerCounters : ConsumerCounters}
variable {slots : Nat → Value} {producer : Producer} {attached joining : List ConsumerId}
variable {moves : List (Move Party (Oracle (plain Value)))}
variable {after : (plainApplication transport Value consumerCounters).State}

abbrev plainPolicy (transport : Transport) (Value : Type) (consumerCounters : ConsumerCounters)
    (passes : DirectoryPasses) (reliable : transport.backend = .mmap → passes = .reliable)
    (producer : Producer) : Policy (plainApplication transport Value consumerCounters) :=
  Policy.known (plainApplication transport Value consumerCounters) passes reliable
    producer.consumerBarrier.consumerCursors (fun _ _ => True) (fun _ _ _ => True)

theorem reaches_upheld (reliable : transport.backend = .mmap → passes = .reliable)
    (fresh : producer.Fresh transport)
    (known : producer.consumerBarrier.consumerCursors ⊆ attached)
    (reached : Reaches transport passes consumerCounters slots producer attached joining
      moves after) :
    (plainPolicy transport Value consumerCounters passes reliable producer).contract.Upheld
      after := by
  refine Policy.run_upheld (Policy.plain_servesProducer (fun _ _ _ => trivial)
      (fun _ _ => trivial))
    (Policy.plain_servesConsumer (fun _ _ => trivial) (fun _ => trivial)) slots fresh
    (fun consumerId member => ⟨member, member⟩) known (fun _ _ => trivial)
    (fun _ _ detached here => detached (known here)) ?_
    (Policy.accepts_always _ (fun _ _ _ _ => trivial) _ _) reached
  refine Machine.meets_always ?_ _ _
  intro party self action world
  cases party with
  | producer => cases self <;> trivial
  | consumer consumerId => trivial

/-! ### A run of one producer and one consumer -/

section Example

def oneSlot : Transport :=
  { backend := .sharedMemory, ring := ⟨1, rfl, by decide⟩, processId := 0 }

def noCounters : ConsumerCounters :=
  { eventsConsumed := false, consumerEmptySpins := false, consumerLagMax := false }

def knowing (transport : Transport) (consumerIds : List ConsumerId) : Producer :=
  Producer.new transport
    { consumerCursors := consumerIds
      lastScan := 0
      discoveryMode := .disabled
      discoveryCompleted := false }
    { eventsPublished := false, producerFullEvents := false }

abbrev byProducer (oracles : List (Oracle (plain Nat))) :
    List (Move Party (Oracle (plain Nat))) := oracles.map (Move.step .producer)

abbrev byConsumer (consumerId : ConsumerId) (oracles : List (Oracle (plain Nat))) :
    List (Move Party (Oracle (plain Nat))) := oracles.map (Move.step (.consumer consumerId))

def oneRead : List (Move Party (Oracle (plain Nat))) :=
  byProducer [.silent, .producerRequest (.publish fun _ => some 7), .silent, .silent, .silent,
    .silent] ++
  byConsumer "reader" [.silent, .consumerRequest .tryConsumeNext, .silent, .silent]

def oneMoreWritten : List (Move Party (Oracle (plain Nat))) :=
  byConsumer "reader" [.silent, .silent] ++
  byProducer [.silent, .producerRequest (.publish fun _ => some 8), .silent,
    .order ["reader"], .silent, .silent]

end Example

/-! ### The results -/

/-- While it runs a known consumer has read a prefix of what is published, never
reads beyond the cursor of the producer, and is never passed by a write. -/
theorem spmc_safe (sharedMemory : transport.backend = .sharedMemory)
    (fresh : producer.Fresh transport)
    (known : producer.consumerBarrier.consumerCursors ⊆ attached)
    (reached : Reaches transport passes consumerCounters slots producer attached joining
      moves after) {consumerId : ConsumerId}
    (gating : consumerId ∈ producer.consumerBarrier.consumerCursors)
    (uninterrupted : Move.crash (.consumer consumerId) ∉ moves) :
    (reads (after.world.events consumerId) <+: numbered after.world.published ∧
      Faithful after.world.written (after.world.events consumerId)) ∧
    (∀ self reader sequence slot,
      after.AboutTo (.consumer consumerId) self (.readSlot reader sequence slot) →
      sequence ≤ after.world.producerSequence) ∧
    (∀ self sequence slot update,
      after.AboutTo .producer self (.updateSlot sequence slot update) →
      slot = transport.ring.index sequence ∧
        sequence - transport.ring.size ≤ after.world.consumerSequence consumerId) := by
  have upheld := reaches_upheld (fun mmap => absurd (sharedMemory.symm.trans mmap) (by decide))
    fresh known reached
  have holds := upheld.invariant
  refine ⟨⟨?_, holds.faithful consumerId gating⟩, ?_, ?_⟩
  · exact reads_published holds gating
      ((run_events reached consumerId).2 uninterrupted List.not_mem_nil)
  · intro self reader sequence slot about
    exact (upheld.guaranteed about trivial).2.2.1
  · intro self sequence slot update about
    obtain ⟨_last, placed, room, _producer⟩ := upheld.guaranteed about (by cases self <;> trivial)
    have free := room consumerId gating
    exact ⟨placed, by omega⟩

theorem spmc_safe_reader : ∃ after, Reaches oneSlot .mayFail noCounters (fun _ => (0 : Nat))
      (knowing oneSlot ["reader"]) ["reader"] [] (oneRead ++ oneMoreWritten) after ∧
    reads (after.world.events "reader") = [(0, 7)] ∧
    reads (after.world.events "reader") <+: numbered after.world.published := by
  have found : (((plainApplication oneSlot Nat noCounters).machine .mayFail).run
      ((plainApplication oneSlot Nat noCounters).start (fun _ => (0 : Nat))
        (knowing oneSlot ["reader"]) ["reader"] []) (oneRead ++ oneMoreWritten)).any
      (fun after => decide (reads (after.world.events "reader") = [(0, 7)])) = true := by
    decide +kernel
  obtain ⟨after, reached, read⟩ := (Option.any_eq_true _ _).mp found
  refine ⟨after, reached, of_decide_eq_true read, ?_⟩
  exact (spmc_safe rfl ⟨rfl, rfl⟩ (List.Subset.refl _) reached (List.mem_singleton_self _)
    (by simp [oneRead, oneMoreWritten])).1.1

/-- Over all of its incarnations a known consumer reads what it has not committed,
in order, and each event with the value that was written. -/
theorem restart_resumes (reliable : transport.backend = .mmap → passes = .reliable)
    (fresh : producer.Fresh transport)
    (known : producer.consumerBarrier.consumerCursors ⊆ attached)
    {middle : (plainApplication transport Value consumerCounters).State}
    {more : List (Move Party (Oracle (plain Value)))}
    (reached : Reaches transport passes consumerCounters slots producer attached joining
      moves middle)
    (further : ((plainApplication transport Value consumerCounters).machine passes).run middle
      more = some after) {consumerId : ConsumerId}
    (gating : consumerId ∈ producer.consumerBarrier.consumerCursors) :
    (InOrder (after.world.events consumerId) ∧
      (position (after.world.events consumerId)).committed =
        after.world.consumerSequence consumerId) ∧
    (∀ before rest, after.world.events consumerId = before ++ .crash :: rest →
      Event.crash ∉ rest → ∃ next,
        reads rest = (numbered (after.world.written.take next)).drop
          ((position before).committed + 1).toNat) ∧
    (∀ sequence, 0 ≤ sequence → sequence ≤ after.world.consumerSequence consumerId →
      ∃ value, Event.read sequence value ∈ after.world.events consumerId) ∧
    Faithful after.world.written (after.world.events consumerId) ∧
    middle.world.consumerSequence consumerId ≤ after.world.consumerSequence consumerId := by
  have whole : Reaches transport passes consumerCounters slots producer attached joining
      (moves ++ more) after := Machine.run_through reached further
  have before := (reaches_upheld reliable fresh known reached).invariant
  have holds := (reaches_upheld reliable fresh known whole).invariant
  have ordered := holds.ordered consumerId
  obtain ⟨committed, _behind⟩ := holds.positions consumerId
  refine ⟨⟨ordered, committed⟩, ?_, ?_, holds.faithful consumerId gating, ?_⟩
  · intro before rest same uninterrupted
    rw [List.append_cons] at same
    rw [same] at ordered
    have faithful := holds.faithful consumerId gating
    rw [same] at faithful
    have segment := reads_eq_segment (before ++ [.crash]) ordered
      (fun event member => faithful event (List.mem_append_right _ member)) uninterrupted
    rw [numbered_take, position_snoc] at segment
    exact ⟨_, segment.2⟩
  · intro sequence nonnegative delivered
    refine ordered.delivered nonnegative ?_
    have ahead := ordered.start_le.2
    omega
  · rw [← (before.positions consumerId).1, ← committed]
    exact ordered.committed_le (run_events further consumerId).1

/-- It crashes between the read and the commit, and reads the event again. -/
def crashed : List (Move Party (Oracle (plain Nat))) :=
  [Move.crash (.consumer "reader")] ++
  byConsumer "reader" [.silent, .silent, .silent, .silent,
    .consumerRequest .tryConsumeNext, .silent, .silent, .silent]

theorem restart_resumes_reader : ∃ middle after, Reaches oneSlot .mayFail noCounters
      (fun _ => (0 : Nat)) (knowing oneSlot ["reader"]) ["reader"] [] oneRead middle ∧
    ((plainApplication oneSlot Nat noCounters).machine .mayFail).run middle crashed =
      some after ∧
    reads (after.world.events "reader") = [(0, 7), (0, 7)] ∧
    InOrder (after.world.events "reader") := by
  have found : (((plainApplication oneSlot Nat noCounters).machine .mayFail).run
      ((plainApplication oneSlot Nat noCounters).start (fun _ => (0 : Nat))
        (knowing oneSlot ["reader"]) ["reader"] []) oneRead).any (fun middle =>
      (((plainApplication oneSlot Nat noCounters).machine .mayFail).run middle crashed).any
        (fun after => decide (reads (after.world.events "reader") = [(0, 7), (0, 7)]))) =
      true := by
    decide +kernel
  obtain ⟨middle, reached, rest⟩ := (Option.any_eq_true _ _).mp found
  obtain ⟨after, further, read⟩ := (Option.any_eq_true _ _).mp rest
  refine ⟨middle, after, reached, further, of_decide_eq_true read, ?_⟩
  exact (restart_resumes (fun mmap => absurd mmap (by decide)) ⟨rfl, rfl⟩
    (List.Subset.refl _) reached further (List.mem_singleton_self _)).1.1

end Ring
