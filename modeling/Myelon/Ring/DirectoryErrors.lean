/-
A discovery pass over the directory of cursors that fails.

The memory-mapped producer then goes by its own cursor, whatever it knows. That is
behind every consumer of the barrier only where each of them has consumed all there is,
so a pass may fail in such a state only.
-/

import Myelon.Ring.Discovery
import Myelon.Ring.Progress

namespace Ring

open Interleaving Delivery

variable {transport : Transport}

/-! ### The gating sequence under observation -/

def refuse {interface : Interface} : ProducerProcess interface Unit :=
  act .refused

/-- One look at a cursor, which is refused where the value is above it. -/
def ConsumerBarrier.look {interface : Interface} (value : Int) (consumerId : ConsumerId) :
    ProducerProcess interface Unit := do
  let sequence : Int ← act (.loadConsumerSequence consumerId)
  if value ≤ sequence then pure () else refuse

/-- An observer compares what the barrier returns with the cursors in the map. -/
def MmapConsumerBarrier.probe {interface : Interface} : ProducerProcess interface Unit := do
  let value ← MmapConsumerBarrier.bestEffortMinConsumerSequence
  let barrier ← ConsumerBarrier.current
  Routine.each (ConsumerBarrier.look value) barrier.consumerCursors

/-! ### Passes that fail -/

/-- A pass fails only while everyone it knows, or looks for until it ends, has consumed
all that is published. -/
def FailsHarmlessly {interface : Interface} :
    Party → Self → Action interface → Oracle interface → World interface → Prop
  | .producer, .producer producer, .readDirectory, .directory entries, world =>
      DirectoryPasses.fails producer.consumerBarrier.consumerCursors entries = true →
        ∀ consumerId ∈ producer.consumerBarrier.consumerCursors ++
            DirectoryPasses.named producer.consumerBarrier.consumerCursors (entries.getD []),
          world.producerSequence ≤ world.consumerSequence consumerId
  | _, _, _, _, _ => True

instance (application : Application transport) (passes : DirectoryPasses) (party : Party)
    (self : Self) (action : Action application.interface)
    (oracle : (application.machine passes).Oracle) (world : World application.interface) :
    Decidable (FailsHarmlessly party self action oracle world) := by
  revert oracle
  intro (oracle : Oracle application.interface)
  match party, self, oracle with
  | .consumer _, _, _ => exact .isTrue trivial
  | .producer, .consumer _, _ => exact .isTrue trivial
  | .producer, .attaching _, _ => exact .isTrue trivial
  | .producer, .producer producer, oracle =>
      apply Action.casesOn (motive := fun action =>
        Decidable (FailsHarmlessly .producer (.producer producer) action oracle world)) action
      case readDirectory =>
        apply Oracle.casesOn (motive := fun oracle => Decidable
          (FailsHarmlessly .producer (.producer producer) .readDirectory oracle world)) oracle
        case directory => exact fun _ => (inferInstance : Decidable (_ → ∀ consumerId ∈ _, _))
        all_goals
          intros
          exact .isTrue trivial
      all_goals
        intros
        exact .isTrue trivial

section Found

variable {application : Application transport} {producer : Producer}
variable {world : World application.interface} {inserted consumerId : ConsumerId}

theorem listed_covers (listed : consumerId ∈ producer.consumerBarrier.consumerCursors)
    (_met : FoundInTime transport .producer (.producer producer)
      (.iterate producer.consumerBarrier.consumerCursors) world) :
    consumerId ∈ producer.consumerBarrier.consumerCursors ∨
      (producer.consumerBarrier.consumerCursors = [] ∧
        producer.consumerBarrier.discoveryMode ≠ .disabled) :=
  .inl listed

theorem listed_admits
    (met : FoundInTime transport .producer (.producer producer)
      (.attachConsumerSequence inserted) world)
    (present : inserted ∈ world.consumers)
    (listed : consumerId ∈ (producer.consumerBarrier.insert inserted).consumerCursors) :
    consumerId ∈ producer.consumerBarrier.consumerCursors ∨
      Cleared transport producer (world.consumerSequence consumerId) := by
  rcases List.mem_cons.mp listed with rfl | earlier
  · exact .inr (met present)
  · exact .inl earlier

end Found

/-- Whoever is in the barrier gates the producer, though passes may fail. -/
def Policy.listing (application : Application transport) (passes : DirectoryPasses) :
    Policy application where
  passes
  joins := fun _ => True
  creates := fun _ => True
  observed := fun _ => False
  gated := fun barrier consumerId => consumerId ∈ barrier.consumerCursors
  condition := fun producer action world =>
    FoundInTime transport .producer (.producer producer) action world
  accepts := fun producer action oracle world =>
    FailsHarmlessly .producer (.producer producer) action oracle world
  permits := fun _ _ => True
  answers := fun _ _ _ => True
  grows := fun more _mode gated => more gated
  covers := listed_covers
  readable := fun met _gated _creates => met
  mmap := fun _backend gated => gated
  harmless := fun _backend _allowed accepted failing => .inr (accepted failing)
  admits := fun met present _observes listed => listed_admits met present listed

variable {application : Application transport} {passes : DirectoryPasses}

namespace Policy

structure Looking (policy : Policy application)
    (written : List application.interface.Value)
    (replies : List (Nat × application.interface.ProducerReply)) (value : Int)
    (rest : List ConsumerId) (producer : Producer)
    (world : World application.interface) : Prop where
  resting : policy.Resting written replies (-1) producer world
  gating : policy.Gating (-1) value producer world
  gated : ∀ consumerId ∈ rest, policy.gated producer.consumerBarrier consumerId

variable {policy : Policy application} {written : List application.interface.Value}
variable {replies : List (Nat × application.interface.ProducerReply)} {value : Int}

theorem looking_stable {rest : List ConsumerId} :
    ProducerStable (policy.Looking written replies value rest) := by
  intro producer before after relied looking
  obtain ⟨resting, gating⟩ :=
    gating_stable producer before after relied ⟨looking.resting, looking.gating⟩
  exact ⟨resting, gating, looking.gated⟩

theorem look_triple (consumerId : ConsumerId) (rest : List ConsumerId) :
    policy.ProducerTriple (policy.Looking written replies value (consumerId :: rest))
      (ConsumerBarrier.look value consumerId)
      (fun _ => policy.Looking written replies value rest) := by
  refine Contract.Triple.through (fun (sequence : Int) producer world => value ≤ sequence ∧
    policy.Looking written replies value rest producer world) ?_ (fun sequence => ?_)
  · apply producer_act looking_stable rfl
    intro producer world oracle result after looking holds _met performed _same
    have gated := looking.gated consumerId List.mem_cons_self
    simp only [perform] at performed
    split at performed
    · cases performed
      have behind := looking.gating.1 consumerId gated
      have reads := holds.cursor_cases consumerId
      exact ⟨by omega, looking.resting, looking.gating,
        fun other member => looking.gated other (List.mem_cons_of_mem consumerId member)⟩
    · cases performed
  · apply Contract.Triple.given (value ≤ sequence) (fun _ _ held => held.1)
    intro below
    rw [if_pos below]
    exact Contract.Triple.pure () (fun _ _ held => held.2)

theorem gatingProbe_safe (mmap : transport.backend = .mmap) {producer : Producer}
    {world : World application.interface}
    (counts : ∀ barrier : ConsumerBarrier, ∀ consumerId ∈ barrier.consumerCursors,
      policy.gated barrier consumerId)
    (resting : policy.Resting written replies (-1) producer world) (fuel : Nat) :
    policy.contract.Safe .producer fuel (probing MmapConsumerBarrier.probe producer)
      (fun _ _ => True) world := by
  have triple : policy.ProducerTriple (policy.Resting written replies (-1))
      MmapConsumerBarrier.probe (fun _ _ _ => True) := by
    refine Contract.Triple.bind (bestEffortMinConsumerSequence_triple mmap) (fun value => ?_)
    refine Contract.Triple.bind barrier_current (fun barrier => ?_)
    have looks : policy.ProducerTriple
        (policy.Looking written replies value barrier.consumerCursors)
        (Routine.each (ConsumerBarrier.look value) barrier.consumerCursors)
        (fun _ => policy.Looking written replies value []) :=
      Contract.Triple.eachOf (policy.Looking written replies value) _ look_triple
    apply looks.conseq
    · rintro self later ⟨rfl, rests, gating⟩
      exact ⟨rests, gating, fun consumerId member => counts _ consumerId member⟩
    · exact fun _ _ _ _ => trivial
  refine (triple producer world resting fuel).bind _ ?_
  intro out after _held remaining _fewer
  cases remaining <;> trivial

end Policy

/-! ### Runs in which passes fail -/

variable {Value : Type} {consumerCounters : ConsumerCounters} {slots : Nat → Value}
variable {producer : Producer} {attached joining : List ConsumerId}
variable {moves : List (Move Party (Oracle (plain Value)))}
variable {after : (plainApplication transport Value consumerCounters).State}

/-- A run in which every consumer is found in time and every pass fails harmlessly. -/
def PassesHarmlessly (transport : Transport) (passes : DirectoryPasses)
    (consumerCounters : ConsumerCounters)
    (state : (plainApplication transport Value consumerCounters).State)
    (moves : List (Move Party (Oracle (plain Value)))) : Prop :=
  ((plainApplication transport Value consumerCounters).machine passes).Meets
    (FoundInTime transport) state moves ∧
  ((plainApplication transport Value consumerCounters).machine passes).Accepts
    FailsHarmlessly state moves

theorem PassesHarmlessly.upheld {state : (plainApplication transport Value consumerCounters).State}
    (harmlessly : PassesHarmlessly transport passes consumerCounters state moves)
    (upheld : (Policy.listing (plainApplication transport Value consumerCounters)
      passes).contract.Upheld state)
    (ran : ((plainApplication transport Value consumerCounters).machine passes).run state
      moves = some after) :
    (Policy.listing (plainApplication transport Value consumerCounters)
      passes).contract.Upheld after := by
  apply Contract.Upheld.run (fun _ _ _ _ holds restarted =>
    Policy.restart_safe (Policy.plain_servesConsumer (fun _ _ => trivial) (fun _ => trivial))
      holds restarted)
    upheld ?_ ?_ ran
  · apply harmlessly.1.imp
    intro party self action world held
    cases party with
    | producer => cases self <;> first | exact held | trivial
    | consumer other => trivial
  · apply harmlessly.2.imp
    intro party self action oracle world held
    cases party with
    | producer => cases self <;> exact held
    | consumer other => trivial

/-- No gating value is above the cursor of a known consumer, and no event that such a
consumer has still to consume is overwritten, where no pass fails while a consumer that it
leaves in the map is behind. -/
theorem failing_passes_gate (mmap : transport.backend = .mmap)
    (fresh : producer.Fresh transport)
    (known : producer.consumerBarrier.consumerCursors ⊆ attached)
    (reached : Reaches transport passes consumerCounters slots producer attached joining
      moves after)
    (harmlessly : PassesHarmlessly transport passes consumerCounters
      ((plainApplication transport Value consumerCounters).start slots producer attached
        joining) moves) :
    (∀ owner sequence slot update,
      after.AboutTo .producer (.producer owner) (.updateSlot sequence slot update) →
      slot = transport.ring.index sequence ∧
        ∀ consumerId ∈ owner.consumerBarrier.consumerCursors,
          sequence - transport.ring.size ≤ after.world.consumerSequence consumerId) ∧
    ∀ owner action, after.AboutTo .producer (.producer owner) action →
      action = .pause ∨ action = .nextProducerRequest →
      ∀ probes probed, PassesHarmlessly transport passes consumerCounters
        (after.launch .producer (probing MmapConsumerBarrier.probe owner)) probes →
      ((plainApplication transport Value consumerCounters).machine passes).run
        (after.launch .producer (probing MmapConsumerBarrier.probe owner)) probes =
          some probed →
      ∀ self, ¬ probed.AboutTo .producer self .refused := by
  let policy := Policy.listing (plainApplication transport Value consumerCounters) passes
  have started : policy.contract.Upheld
      ((plainApplication transport Value consumerCounters).start slots producer attached
        joining) :=
    Policy.start_upheld (Policy.plain_servesProducer (fun _ _ _ => trivial)
      (fun _ _ => trivial))
      (Policy.plain_servesConsumer (fun _ _ => trivial) (fun _ => trivial)) slots fresh
      (fun _ impossible => impossible.elim) known (fun _ _ => trivial)
      (fun _ _ _ => trivial)
  have upheld := harmlessly.upheld started reached
  constructor
  · intro owner sequence slot update about
    obtain ⟨_last, placed, _room, self, same, _discovered, free⟩ :=
      upheld.guaranteed about trivial
    cases same
    refine ⟨placed, fun consumerId member => ?_⟩
    have room := free consumerId member
    omega
  · intro owner action about resting probes probed probedHarmlessly ran self refused
    have settled : policy.Settled owner after.world := by
      have guaranteed := upheld.guaranteed about (by rcases resting with rfl | rfl <;> trivial)
      rcases resting with rfl | rfl
      · obtain ⟨same, equal, settled⟩ := guaranteed
        cases equal
        exact settled
      · obtain ⟨same, equal, settled, _rested⟩ := guaranteed
        cases equal
        exact settled
    have floor := fun consumerId => (upheld.invariant.cursor_bounds consumerId).1
    have rests : policy.Resting after.world.written after.world.replies (-1) owner after.world :=
      { settled
        written := rfl
        replies := rfl
        floor
        lowJoined := fun consumerId _joins => floor consumerId
        lowPublished := upheld.invariant.published.1
        lowKnown := .inl (Int.le_refl _) }
    have launched := upheld.launch
      (Policy.gatingProbe_safe mmap (fun _ _ member => member) rests)
    have probedUpheld := probedHarmlessly.upheld launched ran
    exact Bool.false_ne_true (probedUpheld.guaranteed refused (by cases self <;> trivial))

/-! ### A pass that fails harmlessly, and one that does not -/

section Mapped

def mappedSlot : Transport :=
  { oneSlot with backend := .mmap }

def mapped : Producer :=
  Producer.new mappedSlot
    { consumerCursors := []
      lastScan := 0
      discoveryMode := .disabled
      discoveryCompleted := false }
    { eventsPublished := false, producerFullEvents := false }

abbrev mappedStart : (plainApplication mappedSlot Nat noCounters).State :=
  (plainApplication mappedSlot Nat noCounters).start (fun _ => (0 : Nat)) mapped [] ["reader"]

abbrev mappedMachine := (plainApplication mappedSlot Nat noCounters).machine .mayFail

def firstPublished : List (Move Party (Oracle (plain Nat))) :=
  byConsumer "reader" [.silent, .silent, .silent, .silent] ++
  byProducer [.silent, .producerRequest (.publish fun _ => some 7), .silent, .silent, .silent,
    .silent]

/-- The reader commits the event. The pass that finds it fails at the next entry. -/
def failsAfterCommit : List (Move Party (Oracle (plain Nat))) :=
  firstPublished ++
  byConsumer "reader" [.silent, .consumerRequest .tryConsumeNext, .silent, .silent, .silent,
    .silent] ++
  byProducer [.silent, .producerRequest (.publish fun _ => some 8), .silent,
    .directory (some [.cursorFile "reader" true, .unreadable]), .silent, .silent]

def readerFound : List (Move Party (Oracle (plain Nat))) :=
  firstPublished ++
  byProducer [.silent, .producerRequest .getConsumerCount,
    .directory (some [.cursorFile "reader" true]), .silent, .silent, .silent]

def failsWhileBehind : List (Move Party (Oracle (plain Nat))) :=
  byProducer [.producerRequest (.publish fun _ => some 8), .silent, .directory none, .silent]

def writes (sequence : Int) (state : (plainApplication mappedSlot Nat noCounters).State) :
    Bool :=
  match state.program .producer with
  | .act (.producer owner) (.updateSlot written slot _) _ =>
      decide (written = sequence) && decide (slot = 0) &&
        decide ("reader" ∈ owner.consumerBarrier.consumerCursors)
  | _ => false

theorem writes_about {sequence : Int}
    {state : (plainApplication mappedSlot Nat noCounters).State}
    (found : writes sequence state = true) :
    ∃ owner update, "reader" ∈ owner.consumerBarrier.consumerCursors ∧
      state.AboutTo .producer (.producer owner) (.updateSlot sequence 0 update) := by
  unfold writes at found
  split at found
  · rename_i owner written slot update next placed
    simp only [Bool.and_eq_true, decide_eq_true_eq] at found
    obtain ⟨⟨rfl, rfl⟩, known⟩ := found
    exact ⟨owner, update, known, next, placed⟩
  · cases found

theorem failing_passes_gate_reader : ∃ after,
    Reaches mappedSlot .mayFail noCounters (fun _ => (0 : Nat)) mapped [] ["reader"]
      failsAfterCommit after ∧
    ∃ owner update, "reader" ∈ owner.consumerBarrier.consumerCursors ∧
      after.AboutTo .producer (.producer owner) (.updateSlot 1 0 update) ∧
      1 - mappedSlot.ring.size ≤ after.world.consumerSequence "reader" := by
  have found : (mappedMachine.run mappedStart failsAfterCommit).any (writes 1) = true := by
    decide +kernel
  have inTime : mappedMachine.checks (FoundInTime mappedSlot) mappedStart
      failsAfterCommit = true := by
    decide +kernel
  have harmless : mappedMachine.checksAnswers FailsHarmlessly mappedStart
      failsAfterCommit = true := by
    decide +kernel
  obtain ⟨after, reached, written⟩ := (Option.any_eq_true _ _).mp found
  obtain ⟨owner, update, known, about⟩ := writes_about written
  refine ⟨after, reached, owner, update, known, about, ?_⟩
  refine ((failing_passes_gate rfl ⟨rfl, rfl⟩ (List.nil_subset _) reached ⟨?_, ?_⟩).1 owner 1 0
    update about).2 "reader" known
  · exact Machine.meets_of_checks inTime
  · exact Machine.accepts_of_checks harmless

def unlisted : List (Move Party (Oracle (plain Nat))) :=
  byProducer [.directory none, .silent, .silent]

def refuses (state : (plainApplication mappedSlot Nat noCounters).State) : Bool :=
  match state.program .producer with
  | .act _ .refused _ => true
  | _ => false

/-- The producer rests and knows the reader, the probe is refused, and the slot is written. -/
def released (middle : (plainApplication mappedSlot Nat noCounters).State) : Bool :=
  match middle.program .producer with
  | .act (.producer owner) .nextProducerRequest _ =>
      decide ("reader" ∈ owner.consumerBarrier.consumerCursors) &&
      (mappedMachine.run (middle.launch .producer (probing MmapConsumerBarrier.probe owner))
        unlisted).any refuses &&
      (mappedMachine.run middle failsWhileBehind).any fun after => writes 1 after &&
        decide (after.world.consumerSequence "reader" < 1 - mappedSlot.ring.size)
  | _ => false

/-- A known consumer is behind. When the directory cannot be listed, the barrier returns
more than its cursor, and the event that it has still to consume is overwritten. -/
theorem failing_pass_releases :
    ∃ (middle after probed : (plainApplication mappedSlot Nat noCounters).State)
      (owner : Producer),
      mappedMachine.run mappedStart readerFound = some middle ∧
      "reader" ∈ owner.consumerBarrier.consumerCursors ∧
      middle.AboutTo .producer (.producer owner) .nextProducerRequest ∧
      mappedMachine.run (middle.launch .producer (probing MmapConsumerBarrier.probe owner))
        unlisted = some probed ∧
      (∃ self, probed.AboutTo .producer self .refused) ∧
      mappedMachine.run middle failsWhileBehind = some after ∧
      ∃ writer update, "reader" ∈ writer.consumerBarrier.consumerCursors ∧
        after.AboutTo .producer (.producer writer) (.updateSlot 1 0 update) ∧
        after.world.consumerSequence "reader" < 1 - mappedSlot.ring.size := by
  have found : (mappedMachine.run mappedStart readerFound).any released = true := by
    decide +kernel
  obtain ⟨middle, reached, rested⟩ := (Option.any_eq_true _ _).mp found
  unfold released at rested
  split at rested
  · rename_i owner next placed
    obtain ⟨looked, overwritten⟩ := Bool.and_eq_true_iff.mp rested
    obtain ⟨known, refused⟩ := Bool.and_eq_true_iff.mp looked
    obtain ⟨probed, ran, stopped⟩ := (Option.any_eq_true _ _).mp refused
    obtain ⟨after, further, both⟩ := (Option.any_eq_true _ _).mp overwritten
    obtain ⟨written, behind⟩ := Bool.and_eq_true_iff.mp both
    obtain ⟨writer, update, knows, about⟩ := writes_about written
    refine ⟨middle, after, probed, owner, reached, of_decide_eq_true known, ⟨next, placed⟩,
      ran, ?_, further, writer, update, knows, about, of_decide_eq_true behind⟩
    unfold refuses at stopped
    split at stopped
    · rename_i self following here
      exact ⟨self, following, here⟩
    · cases stopped
  · cases rested

end Mapped

end Ring
